import Walkthrough.Catalogue
import Walkthrough.Proofs.BuildingConfinement
import Walkthrough.Proofs.Sorting.Congruence
import Walkthrough.Session

/-!
# Questions look at what is reached

What is asked about a value depends on the objects that the value leads to. If two stores are alike
but for objects at the addresses of `K`, and nothing else refers to these, then a value that avoids
`K` is compared, ordered and displayed alike in both. In particular it makes no difference to a
question that objects have been made since.

A question that fails does so alike in both stores, and its fault does not tell the name of a step,
so that it is also reported alike.

## How two stores are compared

Each question about a value is a recursion that goes down from objects to their parts, up to some
number of levels, and the induction is on that number. The two stores give the same object at each
address that is not in `K`, and its parts avoid `K` again. So the recursion does the same in both.

That outcomes are the same could be said by an equation. But a fault is reported in the words of the
store that it has come up in, and the store in which it is reported may be the other one. `Agree`
says besides that the fault names nothing, and so is worded alike. The one fault which names
something is that of a step which is not found, and this is dealt with where names are looked up.

## What it is used for

A question that is asked later, when more objects have been made, gets the answer that it would have
got before. The addresses that were free then are the set `K`, by `Store.Extends.alike`, and nothing
that was there refers to them.

## Main definitions

* `Store.Alike` — stores that are the same outside a set that nothing outside refers to
* `Fault.Nameless` — faults that are reported alike in all stores

## Main results

* `Store.Alike.equal_agree`, `Store.Alike.less_agree`, `Store.Alike.display_agree` — questions about
  values
* `Store.Alike.findStep_agree`, `Store.Alike.listSteps_agree` — questions about a catalogue
* `Store.Alike.report_eq` — reports
-/

namespace Walkthrough

open Referring (Avoids)

/-- A fault that tells no name. -/
def Fault.Nameless : Fault → Prop
  | .unknownName _ => False
  | _ => True

/-- Such a fault is worded alike in all stores. -/
theorem Fault.Nameless.message_eq {f : Fault} (hf : f.Nameless) (s t : Store) :
    f.message t = f.message s := by
  cases f with
  | unknownName name => exact hf.elim
  | _ => rfl

theorem Fault.message_unknownName (name : Value) (s : Store) :
    (Fault.unknownName name).message s =
      match s.display name with
      | .ok text => text
      | .error _ => "..." := rfl

/-- No address of `K` occurs in the name that a fault tells. -/
def Fault.AvoidsRefs (K : Set Addr) : Fault → Prop
  | .unknownName name => Avoids K name
  | _ => True

theorem Fault.Nameless.avoidsRefs {f : Fault} (hf : f.Nameless) (K : Set Addr) :
    f.AvoidsRefs K := by
  cases f with
  | unknownName name => exact hf.elim
  | _ => trivial

/-! ### Parts

The comparisons of the parts of an object are given to the comparison of the object, as a function.
If two such functions agree on what avoids `K`, then so do the comparisons of lists, of entries and
of keys that are made from them.
-/

section Parts

variable {K : Set Addr} {same same' : Value → Value → Except Fault Bool}

/-- Two ways of comparing values agree on values that avoid `K`. -/
def CompareAlike (K : Set Addr) (same same' : Value → Value → Except Fault Bool) : Prop :=
  Sorting.AgreeOn Fault.Nameless (Avoids K) same same'

theorem CompareAlike.tooDeep (K : Set Addr) (descent : Descent) :
    CompareAlike K (fun _ _ => .error (.tooDeep descent)) fun _ _ => .error (.tooDeep descent) :=
  fun _ _ _ _ => .error trivial

/-- Parts are compared one by one, up to the first that are different. By recursion on both lists.
-/
theorem partsEqual_agree (h : CompareAlike K same same') {vs ws : List Value} (hvs : Avoids K vs)
    (hws : Avoids K ws) : Agree Fault.Nameless (partsEqual same vs ws) (partsEqual same' vs ws) := by
  induction vs generalizing ws with
  | nil => cases ws <;> exact .ok _
  | cons v vs ih =>
    cases ws with
    | nil => exact .ok _
    | cons w ws =>
      rw [avoids_cons] at hvs hws
      rw [partsEqual, partsEqual]
      refine (h v w hvs.1 hws.1).bind fun equal _ => ?_
      split
      · exact ih hvs.2 hws.2
      · exact .ok _

/-- Parts are ordered by the first that are different, so that both comparisons are asked. -/
theorem partsRelate_agree {r : Relation} {relate relate' : Value → Value → Except Fault Bool}
    (h : CompareAlike K same same') (h' : CompareAlike K relate relate') {vs ws : List Value}
    (hvs : Avoids K vs) (hws : Avoids K ws) :
    Agree Fault.Nameless (partsRelate r same relate vs ws) (partsRelate r same' relate' vs ws) := by
  induction vs generalizing ws with
  | nil => cases ws <;> exact .ok _
  | cons v vs ih =>
    cases ws with
    | nil => exact .ok _
    | cons w ws =>
      rw [avoids_cons] at hvs hws
      rw [partsRelate, partsRelate]
      refine (h v w hvs.1 hws.1).bind fun equal _ => ?_
      split
      · exact ih hvs.2 hws.2
      · exact h' v w hvs.1 hws.1

/-- The keys of entries are compared with a key from the first one on. -/
theorem entryOf?_agree (h : CompareAlike K same same') {key : Value} {entries : Table Value}
    (hkey : Avoids K key) (hentries : Avoids K entries) :
    Agree Fault.Nameless (entryOf? same key entries) (entryOf? same' key entries) := by
  induction entries with
  | nil => exact .ok _
  | cons entry rest ih =>
    obtain ⟨k, v⟩ := entry
    rw [avoids_cons] at hentries
    rw [entryOf?, entryOf?]
    refine (h k key hentries.1.1 hkey).bind fun equal _ => ?_
    split
    · exact .ok _
    · exact ih hentries.2

/-- A dictionary is within another one if each of its keys is found there with an equal value. -/
theorem entriesWithin_agree (h : CompareAlike K same same') {inside entries : Table Value}
    (hinside : Avoids K inside) (hentries : Avoids K entries) :
    Agree Fault.Nameless (entriesWithin same inside entries)
      (entriesWithin same' inside entries) := by
  induction entries with
  | nil => exact .ok _
  | cons entry rest ih =>
    obtain ⟨k, v⟩ := entry
    rw [avoids_cons] at hentries
    rw [entriesWithin, entriesWithin]
    refine (entryOf?_agree h hentries.1.1 hinside).bind fun o ho => ?_
    cases o with
    | none => exact .ok _
    | some w =>
      refine (h v w hentries.1.2 (avoids_some.1 (Store.avoids_of_entryOf hinside ho))).bind
        fun equal _ => ?_
      split
      · exact ih hentries.2
      · exact .ok _

end Parts

/-! ### Numbers in a text

An integer with too many digits is not displayed. The fault of that tells no name.
-/

theorem displayInt_agree (n : Int) : Agree Fault.Nameless (displayInt n) (displayInt n) := by
  unfold displayInt
  split
  · exact .ok _
  · exact .error trivial

theorem Progression.display_agree (r : Progression) :
    Agree Fault.Nameless r.display r.display := by
  unfold display
  refine (displayInt_agree _).bind fun start _ => (displayInt_agree _).bind fun stop _ => ?_
  split
  · exact .ok _
  · exact (displayInt_agree _).bind fun step _ => .ok _

namespace Store

/-- Nothing outside `K` refers to the objects at the addresses of `K`, and all others are the same
in both stores.

The relation is not symmetric as it stands: only the first store is required to avoid `K`. The
second one does, too, since the objects outside `K` are the same. -/
structure Alike (K : Set Addr) (s t : Store) : Prop where
  avoids : Avoids K s
  get?_eq : ∀ a, a ∉ K → t.get? a = s.get? a

variable {K : Set Addr} {s t : Store}

/-- Objects have been made that nothing refers to which was there before. -/
theorem Extends.alike (h : Extends s t) (hs : Avoids {a | s.size ≤ a} s) :
    Alike {a | s.size ≤ a} s t :=
  ⟨hs, fun a ha => h.get?_eq a (Nat.not_le.1 ha)⟩

namespace Alike

variable (h : Alike K s t)

include h

theorem cell?_eq {v : Value} (hv : Avoids K v) : t.cell? v = s.cell? v := by
  cases v with
  | ref a => exact h.get?_eq a hv
  | _ => rfl

theorem kind_eq {v : Value} (hv : Avoids K v) : t.kind v = s.kind v := by
  induction v with
  | ref a => rw [kind, kind, h.get?_eq a hv]
  | operation owner name ih =>
    cases owner with
    | kind k => rfl
    | _ => exact congrArg (fun k => Nature.operationKind ((k.find? name).map (·.2))) (ih hv)
  | _ => rfl

theorem attributesAt_eq {a : Addr} (ha : a ∉ K) : t.attributesAt a = s.attributesAt a := by
  rw [attributesAt, attributesAt, h.get?_eq a ha]

theorem field_agree {r : Record} (hr : Avoids K r) (name : String) :
    Agree Fault.Nameless (t.field r name) (s.field r name) := by
  rw [field, field, field?, field?, attribute?, attribute?, h.attributesAt_eq hr]
  split
  · exact .ok _
  · exact .error trivial

theorem avoids_field {r : Record} (hr : Avoids K r) {name : String} {v : Value}
    (hv : t.field r name = .ok v) : Avoids K v := by
  rw [(h.field_agree hr name).eq] at hv
  unfold field field? at hv
  split at hv
  · rename_i w hw
    cases hv
    rw [Option.or_eq_some_iff] at hw
    obtain hw | ⟨-, hw⟩ := hw
    · exact avoids_of_get? (avoids_attributesAt h.avoids hr) hw
    · exact avoids_some.1 (hw ▸ avoids_of_ground (x := r.kind.fieldDefault? name))
  · cases hv

theorem fields_agree {r : Record} (hr : Avoids K r) :
    Agree Fault.Nameless (t.fields r) (s.fields r) :=
  .mapM fun name _ => h.field_agree hr name

theorem avoids_fields {r : Record} (hr : Avoids K r) {vs : List Value} (hvs : t.fields r = .ok vs) :
    Avoids K vs := by
  unfold fields at hvs
  generalize r.kind.fieldNames = names at hvs
  induction names generalizing vs with
  | nil =>
    cases hvs
    exact avoids_nil
  | cons name rest ih =>
    rw [List.mapM_cons] at hvs
    obtain ⟨v, hv, hvs⟩ := Sorting.bind_eq_ok.1 hvs
    obtain ⟨ws, hws, hvs⟩ := Sorting.bind_eq_ok.1 hvs
    cases hvs
    exact avoids_cons.2 ⟨h.avoids_field hr hv, ih hws⟩

/-! ### Equality and order

An order goes down as equality does, and asks equality first where two sequences are compared.
-/

/-- Two objects are compared by their parts, if they are of kinds that have any. -/
theorem equalObjects_agree {same same' sameFields sameFields' : Value → Value → Except Fault Bool}
    (hsame : CompareAlike K same' same) (hfields : CompareAlike K sameFields' sameFields)
    {c d : Cell} (hc : Avoids K c) (hd : Avoids K d) :
    Agree Fault.Nameless (t.equalObjects same' sameFields' c d)
      (s.equalObjects same sameFields c d) := by
  cases c with
  | list vs =>
    cases d with
    | list ws =>
      simp only [equalObjects]
      split
      · exact partsEqual_agree hsame hc hd
      · exact .ok _
    | _ => exact .ok _
  | tuple vs =>
    cases d with
    | tuple ws => exact partsEqual_agree hsame hc hd
    | _ => exact .ok _
  | dict es =>
    cases d with
    | dict fs =>
      simp only [equalObjects]
      split
      · exact entriesWithin_agree hsame hd hc
      · exact .ok _
    | _ => exact .ok _
  | record q =>
    cases d with
    | record r =>
      simp only [equalObjects]
      split
      · refine (h.fields_agree hc).bind fun vs hvs => (h.fields_agree hd).bind fun ws hws => ?_
        exact partsEqual_agree hfields (h.avoids_fields hc hvs) (h.avoids_fields hd hws)
      · exact .ok _
    | _ => exact .ok _
  | iterator it => cases d <;> exact .ok _

/-- One level of a comparison. -/
theorem equalStep_agree {same same' sameFields sameFields' : Value → Value → Except Fault Bool}
    (hsame : CompareAlike K same' same) (hfields : CompareAlike K sameFields' sameFields)
    {v w : Value} (hv : Avoids K v) (hw : Avoids K w) :
    Agree Fault.Nameless
      (match t.cell? v, t.cell? w with
        | some c, some d => if v = w && !c.kind.isRecord then .ok true
          else t.equalObjects same' sameFields' c d
        | _, _ => .ok (v = w))
      (match s.cell? v, s.cell? w with
        | some c, some d => if v = w && !c.kind.isRecord then .ok true
          else s.equalObjects same sameFields c d
        | _, _ => .ok (v = w)) := by
  rw [h.cell?_eq hv, h.cell?_eq hw]
  split
  · rename_i c d hc hd
    split
    · exact .ok _
    · exact h.equalObjects_agree hsame hfields (avoids_of_cell? h.avoids hv hc)
        (avoids_of_cell? h.avoids hw hd)
  · exact .ok _

/-- Comparing goes down a level with each object, and three with a record. So the induction is on
all smaller numbers of levels. -/
theorem equalWithin_agree (level : Nat) :
    CompareAlike K (t.equalWithin level) (s.equalWithin level) := by
  induction level using Nat.strong_induction_on with
  | _ level ih =>
    have hparts (smaller : Nat) (hlt : smaller < level) : CompareAlike K
        (fun v w => if v = w then .ok true else t.equalWithin smaller v w)
        (fun v w => if v = w then .ok true else s.equalWithin smaller v w) := by
      intro v w hv hw
      dsimp only
      split
      · exact .ok _
      · exact ih smaller hlt v w hv hw
    intro v w hv hw
    rcases level with _ | level
    · exact .error trivial
    rw [equalWithin.eq_def, equalWithin.eq_def]
    dsimp only
    split
    · exact .ok _
    split
    · exact .ok _
    refine h.equalStep_agree (hparts level (Nat.lt_succ_self level)) ?_ hv hw
    rcases level with _ | _ | level
    · exact .tooDeep K _
    · exact .tooDeep K _
    · exact hparts level (by omega)

/-- **Equality** looks at what is reached. -/
theorem equal_agree {v w : Value} (hv : Avoids K v) (hw : Avoids K w) {levels : Nat} :
    Agree Fault.Nameless (t.equal v w levels) (s.equal v w levels) :=
  h.equalWithin_agree levels v w hv hw

/-- Ordering goes down a level with each sequence. By induction on the number of levels. -/
theorem relateWithin_agree (r : Relation) (level : Nat) :
    CompareAlike K (t.relateWithin r level) (s.relateWithin r level) := by
  induction level with
  | zero => exact .tooDeep K _
  | succ level ih =>
    have hsame : CompareAlike K
        (fun v w => if v = w then .ok true else t.equalWithin level v w)
        (fun v w => if v = w then .ok true else s.equalWithin level v w) := by
      intro v w hv hw
      dsimp only
      split
      · exact .ok _
      · exact h.equalWithin_agree level v w hv hw
    intro v w hv hw
    rw [relateWithin.eq_def, relateWithin.eq_def]
    dsimp only
    split
    · exact .ok _
    split
    · exact .ok _
    rw [h.cell?_eq hv, h.cell?_eq hw, h.kind_eq hv, h.kind_eq hw]
    split
    · rename_i hc hd
      exact partsRelate_agree hsame ih (avoids_of_cell? h.avoids hv hc)
        (avoids_of_cell? h.avoids hw hd)
    · rename_i hc hd
      exact partsRelate_agree hsame ih (avoids_of_cell? h.avoids hv hc)
        (avoids_of_cell? h.avoids hw hd)
    · exact .error trivial

/-- **Order** looks at what is reached. -/
theorem less_agree {v w : Value} (hv : Avoids K v) (hw : Avoids K w) :
    Agree Fault.Nameless (t.less v w) (s.less v w) :=
  h.relateWithin_agree .less callLevels v w hv hw

/-! ### Display

A display is given the objects that it is inside of, besides the levels. These are the same in both
stores.
-/

/-- A record is displayed by its fields, which are read from its dictionary. -/
theorem displayRecord_agree {inner inner' : Value → Except Fault String}
    (hinner : ∀ v, Avoids K v → Agree Fault.Nameless (inner' v) (inner v)) {r : Record}
    (hr : Avoids K r) :
    Agree Fault.Nameless (t.displayRecord inner' r) (s.displayRecord inner r) := by
  refine .bind (.mapM fun name _ => ?_) fun parts _ => .ok _
  exact (h.field_agree hr name).bind fun v hv =>
    (hinner v (h.avoids_field hr hv)).bind fun text _ => .ok _

theorem displayObject_agree {inner inner' : Value → Except Fault String}
    (hinner : ∀ v, Avoids K v → Agree Fault.Nameless (inner' v) (inner v)) {c : Cell}
    (hc : Avoids K c) :
    Agree Fault.Nameless (t.displayObject inner' c) (s.displayObject inner c) := by
  cases c with
  | list items => exact .bind (.mapM fun v hv => hinner v (hc v hv)) fun parts _ => .ok _
  | tuple items =>
    refine .bind (.mapM fun v hv => hinner v (hc v hv)) fun parts _ => ?_
    split <;> exact .ok _
  | dict entries =>
    refine .bind (.mapM fun entry hentry => ?_) fun parts _ => .ok _
    exact (hinner _ (hc entry hentry).1).bind fun key _ =>
      (hinner _ (hc entry hentry).2).bind fun value _ => .ok _
  | record r => exact h.displayRecord_agree hinner hc
  | iterator it => exact .ok _

/-- By induction on the number of levels, for any objects that are active. -/
theorem displayWithin_agree (level : Nat) (active : List Value) {v : Value} (hv : Avoids K v) :
    Agree Fault.Nameless (t.displayWithin level active v) (s.displayWithin level active v) := by
  induction level using Nat.strong_induction_on generalizing active v with
  | _ level ih =>
    rcases level with _ | level
    · exact .error trivial
    have hinner (active : List Value) (v : Value) (hv : Avoids K v) :
        Agree Fault.Nameless (t.displayWithin level active v) (s.displayWithin level active v) :=
      ih level (Nat.lt_succ_self level) active hv
    rw [displayWithin.eq_def, displayWithin.eq_def]
    cases v with
    | int n => exact displayInt_agree n
    | range r => exact r.display_agree
    | operation owner name =>
      simp only [h.kind_eq (avoids_operation.1 hv)]
      exact .ok _
    | method a k name => exact (hinner active (.ref a) hv).bind fun text _ => .ok _
    | ref a | description d =>
      dsimp only
      rw [h.cell?_eq hv]
      split
      · exact .ok _
      · rename_i r hr
        rcases level with _ | _ | level
        · exact .error trivial
        · exact .error trivial
        · dsimp only
          split
          · exact .ok _
          · exact h.displayRecord_agree (fun v hv => ih level (by omega) _ hv)
              (avoids_of_cell? h.avoids hv hr)
      · rename_i c _ hc
        split
        · exact .ok _
        · exact h.displayObject_agree (hinner _) (avoids_of_cell? h.avoids hv hc)
    | bool b => cases b <;> exact .ok _
    | _ => exact .ok _

/-- **A value is displayed** by what is reached from it. -/
theorem display_agree {v : Value} (hv : Avoids K v) {levels : Nat} :
    Agree Fault.Nameless (t.display v levels) (s.display v levels) :=
  h.displayWithin_agree (levels - 1) [] hv

/-! ### Catalogues

Steps are found by comparing names, and listed by comparing orders. Both are read from the
dictionaries of the steps, which are not in `K`.
-/

/-- **A step is found** by the names that the steps have. -/
theorem findStep_agree {name : Value} {steps : List Record} (hname : Avoids K name)
    (hsteps : Avoids K steps) :
    Agree Fault.Nameless (t.findStep name steps) (s.findStep name steps) := by
  induction steps with
  | nil => exact .ok _
  | cons e rest ih =>
    rw [avoids_cons] at hsteps
    rw [findStep, findStep]
    refine (h.field_agree hsteps.1 "name").bind fun v hv => ?_
    refine (h.equal_agree (h.avoids_field hsteps.1 hv) hname).bind fun equal _ => ?_
    split
    · exact .ok _
    · exact ih hsteps.2

/-- The orders of all steps are read. -/
theorem withOrders_agree {steps : List Record} (hsteps : Avoids K steps) :
    Agree Fault.Nameless (t.withOrders steps) (s.withOrders steps) :=
  .mapM fun e he => (h.field_agree (hsteps e he) "order").bind fun _ _ => .ok _

theorem avoids_withOrders {steps : List Record} (hsteps : Avoids K steps)
    {keyed : List (Value × Record)} (hkeyed : t.withOrders steps = .ok keyed) :
    ∀ entry ∈ keyed, Avoids K entry.1 := by
  induction steps generalizing keyed with
  | nil =>
    cases hkeyed
    simp
  | cons e rest ih =>
    rw [avoids_cons] at hsteps
    unfold withOrders at hkeyed
    rw [List.mapM_cons] at hkeyed
    obtain ⟨first, hfirst, hkeyed⟩ := Sorting.bind_eq_ok.1 hkeyed
    obtain ⟨v, hv, hfirst⟩ := Sorting.bind_eq_ok.1 hfirst
    obtain ⟨later, hlater, hkeyed⟩ := Sorting.bind_eq_ok.1 hkeyed
    cases hfirst
    cases hkeyed
    exact List.forall_mem_cons.2 ⟨h.avoids_field hsteps.1 hv, ih hsteps.2 hlater⟩

/-- **Steps are listed** by the orders that they have. Sorting compares orders with each other and
with nothing else, and they all avoid `K`. -/
theorem listSteps_agree {steps : List Record} (hsteps : Avoids K steps) :
    Agree Fault.Nameless (t.listSteps steps) (s.listSteps steps) := by
  refine (h.withOrders_agree hsteps).bind fun keyed hkeyed => ?_
  split
  · exact .ok _
  split
  · exact .ok _
  have hless : Sorting.AgreeOn Fault.Nameless (fun entry : Value × Record => Avoids K entry.1)
      (fun d e => t.less d.1 e.1) (fun d e => s.less d.1 e.1) :=
    fun d e hd he => h.less_agree hd he
  exact (Sorting.sort_agree hless (h.avoids_withOrders hsteps hkeyed)).bind fun listed _ => .ok _

/-! ### Reports

A report puts the words of a fault together, and looks something up for it only if there is a name
to be told.
-/

/-- **A fault is reported alike**, if the name that it tells avoids `K`. -/
theorem report_eq {f : Fault} (hf : f.AvoidsRefs K) : f.report t = f.report s := by
  cases f with
  | unknownName name =>
    obtain ⟨hdisplay, hfault⟩ := h.display_agree hf
    unfold Fault.report
    dsimp only
    rw [Fault.message_unknownName, Fault.message_unknownName, hdisplay]
    split
    · rfl
    · rename_i g hg
      rw [(hfault g (hdisplay.trans hg)).message_eq s t]
  | _ => rfl

end Alike

end Store

end Walkthrough
