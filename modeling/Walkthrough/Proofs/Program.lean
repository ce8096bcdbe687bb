import Walkthrough.Program

/-!
# Programs that change nothing

The theorems about sessions say what becomes of the objects in a store and of the lines that are made
of them. They take it for granted that kinds and their operations are what they are. A program can
change these, and after that what its session alone would do tells little.

So a program keeps a list of such changes, and this module says what the list is good for. It only
grows: nothing that has been done to a kind is ever forgotten, and if the list is empty in the end,
then it has been empty all along. Such a program has given the answers of its session, and has come to
the same state. This is how a theorem about sessions becomes one about programs: by the one hypothesis
that the list is empty, and without a second look at what the operations do.

The changes that a program follows are what makes the hypothesis necessary. Once every field of
settings has been given another default, settings that are made are not new in what they hold: it is
the values that have been put there, the same objects each time.

It is used for settings that are made later, and for operations that only read. For the first of
these it is also shown that the hypothesis cannot be left out, by a program that gives the fields
other defaults and makes settings after that.

## Main results

* `Program.perform_of_unchanged` — one operation
* `Program.changes_prefix_performAll` — changes stay on the list
* `Program.performAll_of_unchanged` — a program that changes nothing
* `Program.perform_bind_of_newDefaults` — settings after their defaults have been replaced
-/

namespace Walkthrough

namespace Program

variable {P : Program} {ops : List Operation}

/-! ### An empty list -/

theorem prepare_of_unchanged (h : P.changes = []) (op : Operation) :
    P.prepare op = (P.session, op) := by
  have hdefaults : P.newDefaults = [] := by
    rw [newDefaults, h]
    rfl
  rw [prepare, hdefaults]

/-- **One operation.** As long as nothing has been changed, an operation is carried out as in the
session, and the only changes are those that it makes itself. -/
theorem perform_of_unchanged (h : P.changes = []) (op : Operation) :
    P.perform op =
      ((P.session.perform op).1, ⟨(P.session.perform op).2, P.session.changes op⟩) := by
  rw [perform, prepare_of_unchanged h, h]
  rfl

theorem changes_prefix_perform (P : Program) (op : Operation) :
    P.changes <+: (P.perform op).2.changes := List.prefix_append _ _

/-- **Changes stay on the list.** What one operation leaves there is not taken off by the next. -/
theorem changes_prefix_performAll (P : Program) (ops : List Operation) :
    P.changes <+: (P.performAll ops).2.changes := by
  induction ops generalizing P with
  | nil => exact List.prefix_rfl
  | cons op rest ih => exact (P.changes_prefix_perform op).trans (ih (P.perform op).2)

/-- What is unchanged in the end has been unchanged before. -/
theorem unchanged_of_performAll (h : (P.performAll ops).2.changes = []) : P.changes = [] :=
  List.prefix_nil.1 (h ▸ P.changes_prefix_performAll ops)

/-- **A program that changes nothing** gives the answers of its session and leaves the session as it
would be without it. -/
theorem performAll_of_unchanged (h : (P.performAll ops).2.changes = []) :
    (P.performAll ops).1 = (P.session.performAll ops).1 ∧
      (P.performAll ops).2.session = (P.session.performAll ops).2 := by
  induction ops generalizing P with
  | nil => exact ⟨rfl, rfl⟩
  | cons op rest ih =>
    -- the list is empty before the first operation as well as after it
    have hfirst : P.changes = [] := unchanged_of_performAll h
    have hrest : ((P.perform op).2.performAll rest).2.changes = [] := h
    obtain ⟨hanswers, hsession⟩ := ih hrest
    have hperform := P.perform_of_unchanged hfirst op
    have hanswer : (P.perform op).1 = (P.session.perform op).1 := by rw [hperform]
    have hnext : (P.perform op).2.session = (P.session.perform op).2 := by rw [hperform]
    rw [hnext] at hanswers hsession
    refine ⟨?_, hsession⟩
    show (P.perform op).1 :: ((P.perform op).2.performAll rest).1 = _
    rw [hanswer, hanswers]
    rfl

end Program

/-! ### New defaults

Each new default has a variable of its own, from which the settings that are made are given it. The
names of the fields differ, so none of these variables takes the place of another; what the operations
of the program have bound stays where it is.
-/

theorem Settings.defaultVariable_inj {a b : String} :
    defaultVariable a = defaultVariable b ↔ a = b := by
  simp [defaultVariable]

namespace Table

variable {given bs : Bindings}

/-- Putting values under other names leaves what there is under a name. -/
theorem get?_foldl_put_of_ne (label : String → String) {key : String}
    (h : ∀ d ∈ given, key ≠ label d.1) :
    (given.foldl (fun bs d => bs.put (label d.1) d.2) bs).get? key = bs.get? key := by
  induction given generalizing bs with
  | nil => rfl
  | cons d rest ih =>
    rw [List.forall_mem_cons] at h
    rw [List.foldl_cons, ih h.2, get?_put_of_ne h.1]

/-- What has been put under names that differ is all there. -/
theorem get?_foldl_put_of_mem {label : String → String}
    (hinj : ∀ {a b}, label a = label b ↔ a = b) (hnodup : (given.map (·.1)).Nodup)
    {d : String × Value} (hd : d ∈ given) :
    (given.foldl (fun bs d => bs.put (label d.1) d.2) bs).get? (label d.1) = some d.2 := by
  induction given generalizing bs with
  | nil => cases hd
  | cons e rest ih =>
    rw [List.map_cons, List.nodup_cons] at hnodup
    obtain rfl | hrest := List.mem_cons.1 hd
    · have hlater : ∀ e ∈ rest, label d.1 ≠ label e.1 := fun e he heq =>
        hnodup.1 (List.mem_map.2 ⟨e, he, (hinj.1 heq).symm⟩)
      rw [List.foldl_cons, get?_foldl_put_of_ne label hlater, get?_put_self]
    · exact ih hnodup.2 hrest

end Table

namespace Program

variable {s : Store} {vars given : Bindings} {field : String} {v : Value}

/-- The variable of a default is read as it stands. -/
theorem resolve_defaultVariable (hfield : field ∈ Settings.fieldNames)
    (h : vars.get? (Settings.defaultVariable field) = some v) :
    s.resolve vars (Settings.defaultVariable field) = .ok v := by
  have hnames : ∀ field ∈ Settings.fieldNames,
      pathNames (Settings.defaultVariable field) = [Settings.defaultVariable field] := by
    decide +kernel
  rw [Store.resolve, hnames field hfield]
  simp only [h]
  rfl

theorem buildFields_defaultVariables (h : ∀ d ∈ given,
    d.1 ∈ Settings.fieldNames ∧ vars.get? (Settings.defaultVariable d.1) = some d.2) :
    Literal.buildFields vars
      ((given.map (·.1)).map fun name => (name, .named (Settings.defaultVariable name))) s =
      .ok (given, s) := by
  induction given with
  | nil => rfl
  | cons d rest ih =>
    rw [List.forall_mem_cons] at h
    have hfirst := resolve_defaultVariable (s := s) h.1.1 h.1.2
    have hlater := ih h.2
    simp only [List.map_cons, Literal.buildFields, Literal.build, bind, StateT.bind, Building.read,
      hfirst]
    simp only [Except.map, Except.bind, hlater]
    rfl

/-- A record of settings with every field given holds what it is given. -/
theorem record_of_names {s : Store} (h : given.map (·.1) = Settings.fieldNames) :
    Building.record .settings given s = .ok (s.allocRecord .settings given) := by
  unfold Settings.fieldNames at h
  obtain ⟨⟨_, greeting⟩, _, rfl, rfl, h₁⟩ := List.map_eq_cons_iff.1 h
  obtain ⟨⟨_, name⟩, _, rfl, rfl, h₂⟩ := List.map_eq_cons_iff.1 h₁
  obtain ⟨⟨_, count⟩, _, rfl, rfl, h₃⟩ := List.map_eq_cons_iff.1 h₂
  obtain ⟨⟨_, iterations⟩, _, rfl, rfl, h₄⟩ := List.map_eq_cons_iff.1 h₃
  obtain ⟨⟨_, numbers⟩, _, rfl, rfl, h₅⟩ := List.map_eq_cons_iff.1 h₄
  obtain ⟨⟨_, person⟩, _, rfl, rfl, h₆⟩ := List.map_eq_cons_iff.1 h₅
  obtain ⟨⟨_, isActive⟩, _, rfl, rfl, h₇⟩ := List.map_eq_cons_iff.1 h₆
  obtain rfl := List.map_eq_nil_iff.1 h₇
  rfl

/-- Settings that are given nothing but new defaults are one new record. -/
theorem build_complete_settings {P : Program}
    (hnames : P.newDefaults.map (·.1) = Settings.fieldNames) :
    (Literal.complete (P.newDefaults.map (·.1)) (.settings [])).build P.vars P.session.store =
      .ok (P.session.store.allocRecord .settings P.newDefaults) := by
  have hnodup : (P.newDefaults.map (·.1)).Nodup := by
    rw [hnames]
    decide
  have hfields := @buildFields_defaultVariables P.session.store P.vars P.newDefaults
    fun d hd => ⟨hnames ▸ List.mem_map_of_mem hd,
      Table.get?_foldl_put_of_mem Settings.defaultVariable_inj hnodup hd⟩
  have hall : (P.newDefaults.map (·.1)).filter (· ∉ ([] : List (String × Literal)).map (·.1)) =
      P.newDefaults.map (·.1) := List.filter_eq_self.2 (by simp)
  rw [Literal.complete, hall, Literal.completeFields, List.nil_append, Literal.build]
  simp only [bind, StateT.bind, hfields, Except.bind]
  exact record_of_names hnames

theorem prepare_of_names {P : Program} (hnames : P.newDefaults.map (·.1) = Settings.fieldNames)
    (op : Operation) :
    let σ := { P.session with vars := P.vars }
    P.prepare op = (σ, op.complete (P.newDefaults.map (·.1)) σ) := by
  unfold prepare
  split
  · rename_i hnil
    rw [hnil] at hnames
    cases hnames
  · rfl

/-- **Settings after their defaults have been replaced.** If every field has a new default, then
settings that are given nothing are one new record that holds these values, the same each time. -/
theorem perform_bind_of_newDefaults {P : Program}
    (hnames : P.newDefaults.map (·.1) = Settings.fieldNames) (name : String) :
    let made := P.session.store.allocRecord .settings P.newDefaults
    let Q := (P.perform (.bind name (.settings []))).2
    (P.perform (.bind name (.settings []))).1 = .value .null ∧ Q.session.store = made.2 ∧
      Q.session.vars.get? name = some made.1 := by
  intro made Q
  have hperform : Session.perform { P.session with vars := P.vars }
      (.bind name (Literal.complete (P.newDefaults.map (·.1)) (.settings []))) =
        (.value .null, ⟨made.2, P.vars.put name made.1, P.session.steps⟩) := by
    simp only [Session.perform, Session.building, build_complete_settings hnames]
    rfl
  simp only [Q, perform, prepare_of_names hnames, Operation.complete, hperform]
  exact ⟨trivial, trivial, Table.get?_put_self _ _ _⟩

/-- The lines of new settings are those of a record that holds the new defaults. -/
theorem perform_allLines_of_newDefaults {P : Program} {lines : List String}
    (hnames : P.newDefaults.map (·.1) = Settings.fieldNames)
    (hlines : let made := P.session.store.allocRecord .settings P.newDefaults
      (made.2.allLines P.session.steps made.1).1 = .ok lines) :
    (P.perform (.allLines none)).1 = .value (.ofLines lines) := by
  have hbuilt := build_complete_settings hnames
  have hcomplete : (Operation.allLines none).complete (P.newDefaults.map (·.1))
      { P.session with vars := P.vars } =
        .allLines (some (Literal.complete (P.newDefaults.map (·.1)) (.settings []))) := by
    simp only [Operation.complete, Option.map_none, Option.getD_none, hbuilt, ite_self]
  simp only [perform, prepare_of_names hnames, hcomplete, Session.perform, Option.getD_some,
    Session.building, hbuilt, Session.answerLines, Session.withStore, hlines]
  rfl

end Program

end Walkthrough
