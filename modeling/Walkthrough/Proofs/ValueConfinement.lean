import Walkthrough.Call
import Walkthrough.Proofs.Confinement

/-!
# Operations of numbers and texts keep to what they are given

Operations of numbers and texts mostly give numbers and texts, and need no more than a look at what
they are put together from. Some of them take elements from an argument, which may be an iterator,
and an iterator moves; so what is done with elements comes first.

## Two kinds of operations

An operation of a number or a text has nothing to refer with: what it is given are numbers and
texts, and what it makes are numbers, texts, and tuples and lists of these. Such an operation is
`Plain`, and that is an instance for each of them, so that for an operation put together from others
the search for instances goes through its parts. A proof has to speak up only where a part is chosen
by cases, since the search does not look into a `match`.

The others take elements from a value that they are given. The elements are reached from the value,
and so is the iterator that is moved along. These get a `Confined` lemma each, with the condition
that the value avoids what is to be spared.

## Why failing has to be spoken of

An operation that fails in the middle has moved an iterator already, and an operation that catches
the fault goes on from there. So `Confined` is about the store that an action leaves in any case,
and only what is said of the value that it gives depends on its success. This is what makes
`Confined.handle` go through: the handler begins where the failed action stopped.

## Main results

* `Action.Confined.elements`, `Action.Confined.forElements` — elements, at once and one by one
* `Action.plain_ofInteger`, `Action.plain_ofReal` — operations of numbers
* `Action.Confined.ofText` — operations of texts
-/

namespace Walkthrough.Action

open Referring (Avoids)
open Sorting (bind_eq_ok)

variable {α : Type} {P : Set Addr → Prop}

/-! ### Walks and elements

A walk over a value is the value itself if it is an iterator already, or else an iterator that is
made and refers to what is walked. Taking elements moves the iterator along and fails if there is
something that cannot be walked. None of it refers to anything that is not reached from the value.
-/

/-- The object that a value refers to is looked at. -/
theorem Confined.cellOf {v : Value} (h : ∀ K, P K → Avoids K v) :
    Confined P (Action.read fun s => .ok (s.cell? v)) Avoids := by
  refine .read fun K s x hK hs hx c hc => ?_
  cases hx
  exact Store.avoids_of_cell? hs (h K hK) hc

/-- A walk refers to what is walked, or to its elements. Either the value is an iterator and nothing
happens, or an iterator is made at the next free address. -/
theorem walk_eq_ok {s t : Store} {v w : Value} (h : s.walk v = .ok (w, t)) :
    (w = v ∧ t = s) ∨ ∃ it, w = .ref s.size ∧ t = (s.alloc (.iterator it)).2 ∧
      ∀ K : Set Addr, Avoids K s → Avoids K v → Avoids K it := by
  unfold Store.walk at h
  split at h
  · cases h
    exact .inr ⟨_, rfl, rfl, fun _ _ _ => avoids_of_ground (α := List Value)⟩
  · cases h
    exact .inr ⟨_, rfl, rfl, fun _ _ _ => trivial⟩
  · split at h
    · cases h
      exact .inr ⟨_, rfl, rfl, fun _ _ hv => hv⟩
    · cases h
      exact .inr ⟨_, rfl, rfl, fun _ hs hv => Store.avoids_of_cell? hs hv ‹_›⟩
    · cases h
      exact .inr ⟨_, rfl, rfl, fun _ _ hv => hv⟩
    · cases h
      exact .inr ⟨_, rfl, rfl, fun _ hs hv => avoids_map_fst (Store.avoids_of_cell? hs hv ‹_›)⟩
    · cases h
      exact .inl ⟨rfl, rfl⟩
    · cases h

/-- Beginning a walk makes one iterator at most, which refers to what is walked. -/
theorem Confined.ofWalk {v : Value} (h : ∀ K, P K → Avoids K v) :
    Confined P (built fun s => s.walk v) Avoids where
  grows s := by
    simp only [built, ExceptT.run, ExceptT.mk]
    rcases hwalk : s.walk v with f | ⟨w, t⟩
    · exact Nat.le_refl _
    · obtain ⟨-, rfl⟩ | ⟨it, -, rfl, -⟩ := walk_eq_ok hwalk
      · exact Nat.le_refl _
      · simp
  spares K s hK hs hheld := by
    simp only [built, ExceptT.run, ExceptT.mk] at hheld ⊢
    rcases hwalk : s.walk v with f | ⟨w, t⟩
    · exact ⟨.refl hs, fun x hx => by cases hx⟩
    · rw [hwalk] at hheld
      obtain ⟨rfl, rfl⟩ | ⟨it, rfl, rfl, hit⟩ := walk_eq_ok hwalk
      · exact ⟨.refl hs, fun x hx => by cases hx; exact h K hK⟩
      · obtain ⟨hspares, hfree⟩ := Store.spares_alloc hs (hit K hs (h K hK)) hheld
        exact ⟨hspares, fun x hx => by cases hx; exact hfree⟩
  tuples s _ hold := by
    simp only [built, ExceptT.run, ExceptT.mk]
    rcases hwalk : s.walk v with f | ⟨w, t⟩
    · exact hold
    · obtain ⟨-, rfl⟩ | ⟨it, -, rfl, -⟩ := walk_eq_ok hwalk
      · exact hold
      · exact Store.tuplesHoldOlder_object hold (by rintro _ ⟨⟩)

/-- Elements are taken at once: the iterator is moved behind them, or broken off where reading
fails. -/
theorem Confined.taken {v : Value} (h : ∀ K, P K → Avoids K v) :
    Confined P (ExceptT.mk fun s =>
      match s.elements v with
      | .error f => (.error f, s.breakOff v)
      | .ok items => (.ok items, s.moveOn v items.length true) : Action (List Value)) Avoids := by
  constructor
  · intro s
    simp only [ExceptT.run, ExceptT.mk]
    split <;> simp
  · intro K s hK hs _
    simp only [ExceptT.run, ExceptT.mk]
    rcases hitems : s.elements v with f | items
    · exact ⟨Store.spares_breakOff hs (h K hK), fun x hx => by cases hx⟩
    · refine ⟨Store.spares_moveOn hs (h K hK) _ _, fun x hx => ?_⟩
      cases hx
      exact Store.avoids_of_elements hs (h K hK) hitems
  · intro s _ hold
    simp only [ExceptT.run, ExceptT.mk]
    split
    · exact Store.tuplesHoldOlder_breakOff hold v
    · exact Store.tuplesHoldOlder_moveOn hold v _ _

/-- **Elements at once** are reached from the value that they are taken from, however many are asked
for at a time. -/
theorem Confined.elements {v : Value} (h : ∀ K, P K → Avoids K v) :
    Confined P (elements v) Avoids := by
  have htaken := Confined.taken h
  unfold Action.elements
  refine .bind .of_plain fun count => ?_
  dsimp only
  split
  · exact .bind .of_plain fun _ => htaken.weaken (fun _ hK => hK.1.1) fun _ _ _ hx => hx
  · exact .bind .of_plain fun _ => htaken.weaken (fun _ hK => hK.1.1) fun _ _ _ hx => hx

theorem avoids_of_firstElements {K : Set Addr} {s : Store} {v : Value} {items : List Value}
    (hs : Avoids K s) (hv : Avoids K v) (h : firstElements s v = .ok items) : Avoids K items := by
  unfold firstElements at h
  split at h
  · cases h
    exact avoids_of_ground
  · cases h
    exact avoids_of_ground
  · exact Store.avoids_of_elements hs hv h

theorem run_each_cons (f : Nat → Value → Action Unit) (index : Nat) (v : Value) (rest : List Value)
    (s : Store) :
    (Action.each f index (v :: rest)).run s =
      match (f index v).run s with
      | (.ok _, t) => (Action.each f (index + 1) rest).run t
      | (.error e, t) => (.ok (some (index, e)), t) := rfl

/-- What is done with one element after the other, by induction on those that are left. It stops at
the first fault, and tells how far it has come, without failing itself. -/
theorem Confined.each {f : Nat → Value → Action Unit} {items : List Value}
    (hitems : ∀ K, P K → Avoids K items)
    (hf : ∀ i v, Confined (fun K => P K ∧ Avoids K v) (f i v) fun _ _ => True) (index : Nat) :
    Confined P (each f index items) fun _ _ => True := by
  induction items generalizing index with
  | nil => exact .pure fun _ _ => trivial
  | cons v rest ih =>
    have hrest := ih (fun K hK => (avoids_cons.1 (hitems K hK)).2) (index + 1)
    constructor
    · intro s
      have hgrows := (hf index v).grows s
      rw [run_each_cons]
      rcases hfirst : (f index v).run s with ⟨e | x, t⟩ <;> rw [hfirst] at hgrows
      · exact hgrows
      · exact hgrows.trans (hrest.grows t)
    · intro K s hK hs hheld
      have hgrows := (hf index v).grows s
      have hspares := (hf index v).spares K s ⟨hK, (avoids_cons.1 (hitems K hK)).1⟩ hs
      rw [run_each_cons] at hheld ⊢
      rcases hfirst : (f index v).run s with ⟨e | x, t⟩ <;> rw [hfirst] at hgrows hspares hheld
      · exact ⟨(hspares hheld).1, fun _ _ => trivial⟩
      · obtain ⟨hbefore, hafter⟩ := hheld.before hgrows (hrest.grows t)
        obtain ⟨hst, -⟩ := hspares hbefore
        obtain ⟨htu, -⟩ := hrest.spares K t hK hst.avoids hafter
        exact ⟨hst.trans htu, fun _ _ => trivial⟩
    · intro s hs hold
      have hgrows := (hf index v).grows s
      have hspares := fun K hK => (hf index v).spares K s ⟨hK, (avoids_cons.1 (hitems K hK)).1⟩
      have hold' := (hf index v).tuples s
        (fun K hK => ⟨⟨(hs K hK).1, (avoids_cons.1 (hitems K (hs K hK).1)).1⟩, (hs K hK).2⟩) hold
      rw [run_each_cons]
      rcases hfirst : (f index v).run s with ⟨e | x, t⟩ <;> rw [hfirst] at hgrows hspares hold'
      · exact hold'
      · refine hrest.tuples t (Store.Spares.settled hs hgrows fun K hK hsK hheld => ?_) hold'
        exact ⟨hK, (hspares K hK hsK hheld).1.avoids⟩

/-- An iterator is moved along, if the value is one. -/
theorem Confined.moveOn {v : Value} (h : ∀ K, P K → Avoids K v) (read : Nat) (ranOff : Bool) :
    Confined P (update (·.moveOn v read ranOff)) fun _ _ => True where
  grows s := by simp [update, ExceptT.run, ExceptT.mk]
  spares K s hK hs _ := ⟨Store.spares_moveOn hs (h K hK) read ranOff, fun _ _ => trivial⟩
  tuples _ _ hold := Store.tuplesHoldOlder_moveOn hold v read ranOff

/-- The elements that an iterator has ahead are read before it is moved, so that it can be moved
behind those that something has been done with. -/
theorem Confined.firstTaken {v : Value} (h : ∀ K, P K → Avoids K v) :
    Confined P (ExceptT.mk fun s =>
      match firstElements s v with
      | .error e => (.error e, s.breakOff v)
      | .ok items => (.ok items, s) : Action (List Value)) Avoids := by
  constructor
  · intro s
    simp only [ExceptT.run, ExceptT.mk]
    split <;> simp
  · intro K s hK hs _
    simp only [ExceptT.run, ExceptT.mk]
    rcases hitems : firstElements s v with e | items
    · exact ⟨Store.spares_breakOff hs (h K hK), fun x hx => by cases hx⟩
    · refine ⟨.refl hs, fun x hx => ?_⟩
      cases hx
      exact avoids_of_firstElements hs (h K hK) hitems
  · intro s _ hold
    simp only [ExceptT.run, ExceptT.mk]
    split
    · exact Store.tuplesHoldOlder_breakOff hold v
    · exact hold

/-- What is done with the elements of a value is given nothing but one element at a time. The
elements are read first, and the iterator is moved by as many as have been dealt with when it is
over. -/
theorem Confined.forElements {v : Value} {f : Nat → Value → Action Unit}
    (h : ∀ K, P K → Avoids K v)
    (hf : ∀ i w, Confined (fun K => P K ∧ Avoids K w) (f i w) fun _ _ => True) :
    Confined P (forElements v f) fun _ _ => True := by
  refine .bind (.firstTaken h) fun items => .bind (.each (fun K hK => hK.2) (fun i w => ?_) 0) fun o => ?_
  · exact (hf i w).weaken (fun K hK => ⟨hK.1.1, hK.2⟩) fun _ _ _ hx => hx
  · split
    · exact .moveOn (fun K hK => h K hK.1.1) _ _
    · exact .bind (.moveOn (fun K hK => h K hK.1.1) _ _) fun _ => .throw _

theorem run_tryCatch (act : Action α) (handler : Fault → Action α) (s : Store) :
    (tryCatch act handler : Action α).run s =
      match act.run s with
      | (.error f, t) => (handler f).run t
      | (.ok x, t) => (.ok x, t) := by
  show (ExceptT.tryCatch act handler) s = _
  simp only [ExceptT.tryCatch, ExceptT.mk, bind, StateT.bind, ExceptT.run]
  rcases act s with ⟨_ | _, t⟩ <;> rfl

/-- **A fault that is caught.** The handler begins with what the failed action has left. -/
theorem Confined.handle {act : Action α} {handler : Fault → Action α}
    {Q : Set Addr → α → Prop} (hact : Confined P act Q) (hhandler : ∀ f, Confined P (handler f) Q) :
    Confined P (tryCatch act handler) Q := by
  constructor
  · intro s
    have hgrows := hact.grows s
    rw [run_tryCatch]
    rcases hfirst : act.run s with ⟨f | x, t⟩ <;> rw [hfirst] at hgrows
    · exact hgrows.trans ((hhandler f).grows t)
    · exact hgrows
  · intro K s hK hs hheld
    have hgrows := hact.grows s
    have hspares := hact.spares K s hK hs
    rw [run_tryCatch] at hheld ⊢
    rcases hfirst : act.run s with ⟨f | x, t⟩ <;> rw [hfirst] at hgrows hspares hheld
    · obtain ⟨hbefore, hafter⟩ := hheld.before hgrows ((hhandler f).grows t)
      obtain ⟨hst, -⟩ := hspares hbefore
      obtain ⟨htu, hlast⟩ := (hhandler f).spares K t hK hst.avoids hafter
      exact ⟨hst.trans htu, hlast⟩
    · exact hspares hheld
  · intro s hs hold
    have hgrows := hact.grows s
    have hspares := fun K => hact.spares K s
    have hold' := hact.tuples s hs hold
    rw [run_tryCatch]
    rcases hfirst : act.run s with ⟨f | x, t⟩ <;> rw [hfirst] at hgrows hspares hold'
    · refine (hhandler f).tuples t (Store.Spares.settled hs hgrows fun K hK hsK hheld => ?_) hold'
      exact ⟨hK, (hspares K hK hsK hheld).1.avoids⟩
    · exact hold'

section Lists

variable {β γ : Type}

/-- One action for each entry of a list, by induction on the list; the results are gathered. -/
theorem Confined.mapM {f : γ → Action α} {items : List γ} [Referring α]
    (hf : ∀ x ∈ items, Confined P (f x) Avoids) : Confined P (items.mapM f) Avoids := by
  induction items with
  | nil => exact .pure fun _ _ => avoids_nil
  | cons x rest ih =>
    rw [List.forall_mem_cons] at hf
    rw [List.mapM_cons]
    refine .bind hf.1 fun y => .bind ((ih hf.2).weaken (fun _ hK => hK.1) fun _ _ _ hx => hx)
      fun ys => .pure fun K hK => ?_
    exact avoids_cons.2 ⟨hK.1.2, hK.2⟩

instance plain_mapM [Referring α] (f : γ → Action α) [h : ∀ x, Plain (f x)] (items : List γ) :
    Plain (items.mapM f) :=
  ⟨.mapM fun x _ => (h x).confined⟩

theorem Confined.forM {f : γ → Action PUnit} {items : List γ}
    (hf : ∀ x ∈ items, Confined P (f x) fun _ _ => True) :
    Confined P (items.forM f) fun _ _ => True := by
  induction items with
  | nil => exact .pure fun _ _ => trivial
  | cons x rest ih =>
    rw [List.forall_mem_cons] at hf
    exact .bind hf.1 fun _ => (ih hf.2).weaken (fun _ hK => hK.1) fun _ _ _ hx => hx

/-- A result that is passed on from one entry to the next. Each step may rely on the result so far,
which is why the condition on the set grows by it. -/
theorem Confined.foldlM {f : β → γ → Action β} {items : List γ} [Referring β]
    (hf : ∀ y, ∀ x ∈ items, Confined (fun K => P K ∧ Avoids K y) (f y x) Avoids) {y : β}
    (hy : ∀ K, P K → Avoids K y) : Confined P (items.foldlM f y) Avoids := by
  induction items generalizing P y with
  | nil => exact .pure hy
  | cons x rest ih =>
    rw [List.foldlM_cons]
    have hfirst := hf y x List.mem_cons_self
    refine .bind (hfirst.weaken (fun K hK => ⟨hK, hy K hK⟩) fun _ _ _ hx => hx) fun z => ?_
    refine ih (fun w v hv => ?_) fun K hK => hK.2
    exact (hf w v (List.mem_cons_of_mem x hv)).weaken (fun K hK => ⟨hK.1.1, hK.2⟩)
      fun _ _ _ hx => hx

end Lists

/-! ### Numbers

Operations of numbers give numbers, truth values, texts, or tuples of these. A real number that is
made gets a mark, by which it is told from others of the same value; a mark is no address.
-/

instance plain_checkDivisor (isReal isZero : Bool) (d : Division) :
    Plain (checkDivisor isReal isZero d) := plain_ite

instance plain_finite [Referring α] [h : ∀ x : α, Ground x] (x : Float) (wanted : Exactness)
    (o : Option α) : Plain (finite x wanted o) := by
  unfold finite
  split <;> infer_instance

instance plain_realPower (x y : Float) : Plain (realPower x y) := by
  unfold realPower
  split <;> infer_instance

instance plain_integerPower (m n : Int) : Plain (integerPower m n) := by
  unfold integerPower
  infer_instance

instance plain_shiftLeft (m n : Int) : Plain (shiftLeft m n) := by
  unfold shiftLeft
  infer_instance

instance plain_shiftRight (m n : Int) : Plain (shiftRight m n) := by
  unfold shiftRight
  infer_instance

/-- Operations of two integers. Only division has something to check before it answers. -/
instance plain_integers (name : String) (m n : Int) : Plain (integers name m n) := by
  unfold integers
  split
  case h_7 =>
    refine (plain_checkDivisor _ _ _).bind fun _ => ?_
    split <;> infer_instance
  all_goals infer_instance

/-- Operations of two real numbers. Quotient and rest are made one after the other and put into a
tuple, which refers to both. -/
instance plain_reals (name : String) (x y : Float) : Plain (reals name x y) := by
  unfold reals
  split
  case h_6 =>
    refine (plain_checkDivisor _ _ _).bind fun _ => ⟨?_⟩
    refine .bind .of_plain fun quotient => .bind .of_plain fun rest => .make fun K hK => ?_
    exact avoids_cons.2 ⟨hK.1.2, avoids_cons.2 ⟨hK.2, avoids_nil⟩⟩
  all_goals infer_instance

instance plain_format (v : Value) : Plain (format v) := by
  unfold format
  split <;> infer_instance

instance plain_toBytes (n : Int) (args : List Value) : Plain (toBytes n args) := by
  have hmade (length : Int) : Plain (do
      checkLength length.toNat
      match Integer.toBytes? n.toNat length.toNat with
      | some bytes => return .shown .object (Text.showBytes bytes)
      | none => misuse .tooBigForBytes : Action Value) := by
    refine (plain_checkLength _).bind fun _ => ?_
    split <;> infer_instance
  unfold toBytes
  dsimp only
  split <;> infer_instance

instance plain_roundedInteger (n : Int) (v : Value) : Plain (roundedInteger n v) := by
  unfold roundedInteger
  infer_instance

instance plain_ofInteger (v : Value) (n : Int) (name : String) (args : List Value) :
    Plain (ofInteger v n name args) := by
  unfold ofInteger
  split
  all_goals first | infer_instance | skip
  split
  · split
    infer_instance
  · infer_instance

instance plain_ofTruth (b : Bool) (name : String) (args : List Value) :
    Plain (ofTruth b name args) := by
  unfold ofTruth
  split <;> infer_instance

instance plain_roundedReal (x : Float) (places : Int) : Plain (roundedReal x places) := by
  unfold roundedReal
  split <;> infer_instance

instance plain_ofReal (v : Value) [Ground v] (x : Float) (name : String) (args : List Value) :
    Plain (ofReal v x name args) := by
  unfold ofReal
  split
  all_goals first | infer_instance | skip
  · exact ⟨.bind .of_plain fun w => .make fun K hK => avoids_cons.2 ⟨hK.2, avoids_nil⟩⟩
  · split
    · refine (plain_read _).bind fun y => ?_
      split
      infer_instance
    · infer_instance

instance plain_fromHex (v : Value) : Plain (fromHex v) := by
  unfold fromHex
  split
  · split <;> infer_instance
  · infer_instance

instance plain_realFormat (v : Value) : Plain (realFormat v) := by
  unfold realFormat
  split <;> infer_instance

instance plain_byte (v : Value) : Plain (byte v) := by
  unfold byte
  infer_instance

/-- An integer is made from bytes, which are the elements of its argument. -/
theorem Confined.fromBytes {v : Value} (h : ∀ K, P K → Avoids K v) (k : Kind) :
    Confined P (fromBytes k v) Avoids := by
  unfold Action.fromBytes
  split
  · exact .of_plain
  · refine .bind (.handle (.elements h) fun f => ?_) fun items => .of_plain
    split <;> exact .of_plain

instance plain_integerFrom (v : Value) : Plain (integerFrom v) := by
  unfold integerFrom
  split
  · split
    · infer_instance
    · dsimp only
      split <;> infer_instance
  · split <;> infer_instance

instance plain_realFrom (v : Value) : Plain (realFrom v) := by
  unfold realFrom
  split
  · split <;> infer_instance
  · infer_instance
  · split <;> infer_instance

/-! ### Texts

Operations of texts give texts, numbers, truth values, and lists and tuples of texts. Those that go
through an argument are joining, which takes its elements, and the making of a table for
translation, which goes through a dictionary.
-/

instance (cs : List Char) : Ground (textFrom cs) := inferInstanceAs (Ground (Value.text _))

instance plain_texts (pieces : List (List Char)) : Plain (texts pieces) := plain_list _

instance plain_sought (v : Value) : Plain (sought v) := by
  unfold sought
  split <;> infer_instance

instance plain_separator (v : Value) : Plain (separator v) := by
  unfold separator
  split <;> infer_instance

instance plain_split (fromLeft : Bool) (cs : List Char) (args : List Value) :
    Plain (split fromLeft cs args) := by
  have hcut (sep : Option (List Char)) : Plain (match sep with
      | none => texts (Text.words cs)
      | some sep => texts (if fromLeft then Text.cutAt sep cs else Text.cutAtLast sep cs)) := by
    split <;> infer_instance
  unfold Action.split
  dsimp only
  split <;> infer_instance

instance plain_partition (fromLeft : Bool) (cs : List Char) (v : Value) :
    Plain (partition fromLeft cs v) := by
  unfold Action.partition
  infer_instance

instance plain_find (fromLeft mustBe : Bool) (cs : List Char) (v : Value) :
    Plain (find fromLeft mustBe cs v) := by
  refine (plain_sought v).bind fun sub => ?_
  split <;> infer_instance

instance plain_strip (name : String) (atStart atEnd : Bool) (cs : List Char) (args : List Value) :
    Plain (strip name atStart atEnd cs args) := by
  unfold strip
  split <;> infer_instance

instance plain_hasOneOf (name : String) (atStart : Bool) (cs : List Char) (items : List Value) :
    Plain (hasOneOf name atStart cs items) := by
  fun_induction hasOneOf name atStart cs items <;> infer_instance

/-- Whether a text begins or ends with another one, or with one of the elements of a tuple. -/
theorem Confined.affixed (name : String) (atStart : Bool) (cs : List Char) (v : Value) :
    Confined P (affixed name atStart cs v) Avoids := by
  unfold Action.affixed
  split
  · exact .of_plain
  · refine .bind (.read (Q := fun _ _ => True) fun _ _ _ _ _ _ => trivial) fun cell => ?_
    split <;> exact .of_plain

instance plain_affixed (name : String) (atStart : Bool) (cs : List Char) (v : Value) :
    Plain (affixed name atStart cs v) := ⟨.affixed name atStart cs v⟩

instance plain_withoutAffix (name : String) (atStart : Bool) (cs : List Char) (v : Value) :
    Plain (withoutAffix name atStart cs v) := by
  unfold withoutAffix
  split <;> infer_instance

instance plain_inWidth (fill : Nat → List Char → List Char) (cs : List Char) (v : Value) :
    Plain (inWidth fill cs v) := by
  unfold inWidth
  infer_instance

instance plain_joinFrom (sep : String) (i : Nat) (items : List Value) :
    Plain (joinFrom sep i items) := by
  fun_induction joinFrom sep i items <;> infer_instance

/-- Joining takes the elements of its argument, and gives a text. -/
theorem Confined.join {v : Value} (h : ∀ K, P K → Avoids K v) (sep : String) :
    Confined P (join sep v) Avoids := by
  refine .bind (.handle (.elements h) fun f => ?_) fun items => .of_plain
  split <;> exact .of_plain

instance plain_translated (table : Value) (c : Char) : Plain (translated table c) := by
  refine ⟨.bind (.read (Q := fun _ _ => True) fun _ _ _ _ _ _ => trivial) fun found => ?_⟩
  split
  · exact .of_plain
  · exact .of_plain
  · exact .of_plain
  · split <;> exact .of_plain

instance plain_translate (table : Value) (cs : List Char) : Plain (translate table cs) := by
  unfold translate
  infer_instance

instance plain_tableKey (v : Value) : Plain (tableKey v) := by
  unfold tableKey
  split
  · split <;> infer_instance
  all_goals infer_instance

/-- A table for translation is a new dictionary with the values of the one that it is made from. -/
theorem Confined.translationTable {v : Value} (h : ∀ K, P K → Avoids K v) :
    Confined P (translationTable v) Avoids := by
  refine .bind (.cellOf h) fun cell => ?_
  split
  · refine .bind (.foldlM (fun done entry hentry => ?_) fun _ _ => avoids_nil) fun table =>
      .make fun K hK => hK.2
    refine .bind .of_plain fun key => .read fun K s x hK _ hx => ?_
    exact Store.avoids_of_addEntry hK.1.2 hK.2 (avoids_some.1 hK.1.1.2 entry hentry).2 hx
  · exact .misuse _

instance plain_encoded (t : String) (args : List Value) : Plain (encoded t args) := by
  have hwritten (codec : Text.Codec) : Plain (match Text.encode codec t with
      | .ok bytes => return .shown .object (Text.showBytes bytes)
      | .error m => misuse m : Action Value) := by
    split <;> infer_instance
  unfold encoded
  dsimp only
  split
  · split <;> infer_instance
  all_goals infer_instance

instance plain_repeated (cs : List Char) (v : Value) : Plain (repeated cs v) := by
  unfold repeated
  infer_instance

/-- Operations of a text that are given one argument. -/
theorem Confined.ofTextWith {v : Value} (h : ∀ K, P K → Avoids K v) (t name : String) :
    Confined P (ofTextWith t name v) Avoids := by
  unfold Action.ofTextWith
  dsimp only
  split
  all_goals first | exact .of_plain | exact .join h t | skip
  · split <;> exact .of_plain
  · split <;> exact .of_plain
  · exact .read fun K s x _ hs hx => Store.avoids_of_item hs avoids_of_ground hx
  · split <;> exact .of_plain

/-- **Operations of texts** refer to their arguments only, if to anything. -/
theorem Confined.ofText {args : List Value} (h : ∀ K, P K → Avoids K args) (t name : String) :
    Confined P (ofText t name args) Avoids := by
  unfold Action.ofText
  dsimp only
  split
  · exact .of_plain
  · exact .of_plain
  · split
    all_goals first | exact .of_plain | skip
    · exact .ofWalk fun _ _ => avoids_of_ground
    · exact .ofTextWith (fun K hK => (avoids_cons.1 (h K hK)).1) _ _

end Walkthrough.Action
