import Walkthrough.Proofs.Effect

/-!
# Calls without arguments

The operations of values are gone through kind by kind, as they are when nothing is given to them.
Most of them make something at most, and are gentle in any store. What an operation of a list or a
dictionary does is spoken of in a store where the list or dictionary is, since the elements that it
goes by are those that were read there.

## Why only calls without arguments

What a line of text is made from may be anything that settings hold, and the only thing that is ever
called on the way is the full name of a person, with no arguments. So the effects of such a call are
the effects that asking for lines can have. A call with arguments may do more: it can set any
attribute of any record.

## Gentle actions and effects

An action is gentle if it has effects in the sense of `Store.Effects` and no others, from every
store. Instances of `Gentle` are found along the parts of an action, as those of `Plain` are. An
operation of a list is not gentle: it writes the elements that it has been handed, and these must be
those that are there. So it is an effect from stores in which the list has these elements. As soon
as the object is looked up and handed over at once, as calling does, the difference disappears.

## Main results

* `Action.effects_ofList_nil`, `Action.effects_ofDictionary_nil` — the operations that change what
  they belong to
* `Action.gentle_setUp_settings` — setting up settings again
* `Action.gentle_callWithin_nil` — calls of calls, by induction on how deep they go
* `Store.effects_call_nil` — every call without arguments
-/

namespace Walkthrough.Action

open Store (Effects)

variable {α : Type}

/-! ### Numbers

Operations of numbers make numbers, texts and tuples.
-/

instance gentle_finite (x : Float) (wanted : Exactness) (o : Option α) :
    Gentle (finite x wanted o) := by
  cases o with
  | none => exact gentle_misuse _
  | some a => exact gentle_pure a

instance gentle_checkLength (length : Nat) : Gentle (checkLength length) := gentle_ite

instance gentle_toBytes_nil (n : Int) : Gentle (toBytes n []) := by
  unfold toBytes
  simp only [pure_bind]
  split
  · infer_instance
  · split
    · infer_instance
    · refine (gentle_checkLength _).bind fun _ => ?_
      split <;> infer_instance

instance gentle_ofInteger_nil (v : Value) (n : Int) (name : String) :
    Gentle (ofInteger v n name []) := by
  unfold ofInteger
  -- a case either is for arguments, of which there are none, or is put together from gentle actions
  split <;> first | infer_instance | contradiction

instance gentle_ofTruth_nil (b : Bool) (name : String) : Gentle (ofTruth b name []) := by
  unfold ofTruth
  split <;> infer_instance

instance gentle_ofReal_nil (v : Value) (x : Float) (name : String) :
    Gentle (ofReal v x name []) := by
  unfold ofReal
  split <;> first | infer_instance | contradiction

/-! ### Texts

Without an argument there is nothing to be joined, translated or searched. A walk through the text
is begun, or parts of it are made into a list.
-/

/-- A walk that is begun is an iterator, which is made or was there before. -/
theorem effects_walk {s t : Store} {v w : Value} (h : s.walk v = .ok (w, t)) : Effects s t := by
  unfold Store.walk at h
  split at h
  · cases h
    exact Store.effects_alloc s _
  · cases h
    exact Store.effects_alloc s _
  · split at h
    all_goals cases h
    all_goals first | exact Store.effects_alloc s _ | exact .refl s

instance gentle_walk (v : Value) : Gentle (built fun s => s.walk v) where
  effects s := by
    simp only [built, ExceptT.run, ExceptT.mk]
    rcases h : s.walk v with f | ⟨w, t⟩
    · exact .refl s
    · exact effects_walk h

instance gentle_texts (pieces : List (List Char)) : Gentle (texts pieces) := gentle_list _

instance gentle_encoded_nil (t : String) : Gentle (encoded t []) := by
  unfold encoded
  simp only
  split <;> infer_instance

instance gentle_split_nil (fromLeft : Bool) (cs : List Char) : Gentle (split fromLeft cs []) := by
  unfold split
  simp only [pure_bind]
  infer_instance

instance gentle_strip_nil (name : String) (atStart atEnd : Bool) (cs : List Char) :
    Gentle (strip name atStart atEnd cs []) :=
  gentle_pure _

instance gentle_ofText_nil (t : String) (name : String) : Gentle (ofText t name []) := by
  unfold ofText
  dsimp only
  split
  · infer_instance
  · infer_instance
  · split <;> first | infer_instance | contradiction

/-! ### Sequences that do not change -/

instance gentle_ofProgression_nil (r : Progression) (name : String) :
    Gentle (ofProgression r name []) := by
  unfold ofProgression
  split <;> first | infer_instance | contradiction

instance gentle_ofTuple_nil (self : Value) (items : List Value) (name : String) :
    Gentle (ofTuple self items name []) := by
  unfold ofTuple
  split <;> first | infer_instance | contradiction

/-! ### Iterators

The next element of an iterator is taken, which is the one change that every kind of iterator knows.
-/

instance gentle_next (a : Addr) (it : Iterator) : Gentle (next a it) where
  effects s := by
    have hrun : (next a it).run s =
        match it.current s with
        | .error f => (.error f, s.breakOff (.ref a))
        | .ok none => (.error (.misuse .exhausted), s.moveOn (.ref a) 0 true)
        | .ok (some v) => (.ok v, s.moveOn (.ref a) 1 false) := rfl
    rw [hrun]
    split
    · exact Store.effects_breakOff s _
    · exact Store.effects_moveOn s _ _ _
    · exact Store.effects_moveOn s _ _ _

instance gentle_source (it : Iterator) : Gentle (source it) := by
  unfold source
  split <;> infer_instance

instance gentle_rebuilding (it : Iterator) : Gentle (rebuilding it) := by
  unfold rebuilding
  split <;> infer_instance

instance gentle_ofIterator_nil (a : Addr) (it : Iterator) (name : String) :
    Gentle (ofIterator a it name []) := by
  unfold ofIterator
  split <;> first | infer_instance | contradiction

/-! ### Lists

A list may be emptied, turned round, sorted, or lose its last element. None of these gives it an
element that it did not have.
-/

/-- What a list is changed to by its own operations is a list again. -/
theorem effects_write_list {s : Store} {a : Addr} {items : List Value}
    (h : s.get? a = some (.list items)) (others : List Value) (v : Value) :
    Effects s ((write a (.list others) >>= fun _ => pure v : Action Value).run s).2 :=
  .of_effect (.refill h others)

theorem effects_removeAt {s : Store} {a : Addr} {items : List Value}
    (h : s.get? a = some (.list items)) (use : Indexing) (i : Int) :
    Effects s ((removeAt a items use i).run s).2 := by
  unfold removeAt
  split
  · exact effects_write_list h _ _
  · exact .refl s

theorem effects_pop_nil {s : Store} {a : Addr} {items : List Value}
    (h : s.get? a = some (.list items)) : Effects s ((pop a items []).run s).2 := by
  unfold pop
  simp only [pure_bind]
  split
  · exact .refl s
  · exact effects_removeAt h _ _

/-- Sorting replaces the elements of the list, also if it fails. -/
theorem effects_sort {s : Store} {a : Addr} {items : List Value}
    (h : s.get? a = some (.list items)) : Effects s ((sort a items).run s).2 := by
  refine effects_bind (.refl s) fun sorted t hread => ?_
  cases hread
  split
  · exact effects_write_list h _ _
  · exact .of_effect (.refill h _)

/-- An operation of a list changes that list, or makes something. -/
theorem effects_ofList_nil {s : Store} {a : Addr} {items : List Value}
    (h : s.get? a = some (.list items)) (name : String) :
    Effects s ((ofList a items name []).run s).2 := by
  unfold ofList
  split
  all_goals
    first
    | exact effects_write_list h _ _
    | exact effects_pop_nil h
    | exact effects_sort h
    | exact Gentle.effects s
    | contradiction

/-! ### Dictionaries

A dictionary may be emptied, or lose its last entry.
-/

/-- The last entry is taken away, and a tuple of its key and its value is made. -/
theorem effects_popItem {s : Store} {a : Addr} {entries : Table Value}
    (h : s.get? a = some (.dict entries)) : Effects s ((popItem a entries).run s).2 := by
  unfold popItem
  split
  · refine effects_bind (.of_effect (.dropLast h)) fun _ t _ => ?_
    exact (gentle_tuple _).effects t
  · exact .refl s

/-- An operation of a dictionary takes entries of that dictionary away, or makes something. -/
theorem effects_ofDictionary_nil {s : Store} {a : Addr} {entries : Table Value}
    (h : s.get? a = some (.dict entries)) (name : String) :
    Effects s ((ofDictionary a entries name []).run s).2 := by
  unfold ofDictionary
  split
  all_goals
    first
    | exact effects_popItem h
    | exact .of_effect (.empty h)
    | exact Gentle.effects s
    | contradiction

/-! ### Kinds and members

Kinds and members are constants. Asking them for something makes lists and texts at most.
-/

instance gentle_pickled (v : Value) : Gentle (pickled v) := by
  unfold pickled
  infer_instance

instance gentle_general_nil (v : Value) (name : String) : Gentle (general v name []) := by
  unfold general stateOf
  split <;> first | infer_instance | contradiction

instance gentle_readingAgain (v : Value) : Gentle (readingAgain v) := by
  unfold readingAgain
  split <;> infer_instance

instance gentle_ofEveryKind_nil (k : Kind) (name : String) : Gentle (ofEveryKind k name []) := by
  unfold ofEveryKind
  split <;> first | infer_instance | contradiction

instance gentle_ofKind_nil (k : Kind) (name : String) : Gentle (ofKind k name []) := by
  unfold ofKind bare
  split <;> first | infer_instance | contradiction

/-! ### Records

Setting up a record again, without arguments, works for a kind all of whose fields have defaults.
These are the settings; other kinds of records have fields that must be given, or none at all.
-/

instance gentle_checkArguments (k : Kind) (operation : String) (given : Nat) :
    Gentle (checkArguments k operation given) := by
  unfold checkArguments
  infer_instance

/-- A record of a kind with fields that must be given is not set up without them. -/
theorem eq_settings_or_fieldNames_eq_nil {k : Kind} {s t : Store}
    (h : (checkArguments k "__init__" 1).run s = (.ok (), t)) :
    k = .settings ∨ k.fieldNames = [] := by
  cases k
  case settings => exact .inl rfl
  case person => cases h
  case step => cases h
  all_goals exact .inr rfl

/-- The value that a field of settings gets if none is given: its default, or something new. -/
theorem effects_fieldDefault (name : String) (s : Store) :
    Effects s ((fieldDefault .settings name).run s).2 ∧
      ∀ w t, (fieldDefault .settings name).run s = (.ok w, t) →
        ∀ d, Settings.defaults.get? name = some d → w = d := by
  unfold fieldDefault
  split
  · exact ⟨Store.effects_alloc s _, fun _ _ _ d hd => by cases hd⟩
  · exact ⟨Store.effects_allocRecord s _ _, fun _ _ _ d hd => by cases hd⟩
  · refine ⟨.refl s, fun w t h d hd => ?_⟩
    cases h
    simp [Kind.fieldDefault?, hd]

/-- Setting up settings without anything given resets them, field by field. -/
theorem gentle_setUp_settings (v : Value) {names : List String}
    (h : ∀ name ∈ names, name ∈ Settings.fieldNames) : Gentle (setUp .settings v names []) := by
  induction names with
  | nil => exact gentle_pure ()
  | cons name names ih =>
    rw [List.forall_mem_cons] at h
    refine ⟨fun s => ?_⟩
    obtain ⟨hmade, hdefault⟩ := effects_fieldDefault name s
    refine effects_bind hmade fun w t hw => ?_
    refine effects_bind ?_ fun _ u _ => (ih h.2).effects u
    simp only [assign, ExceptT.run, ExceptT.mk]
    rcases hassign : t.assign v name w with f | u
    · exact .refl t
    · exact .of_effect (.reset h.1 (hdefault w t hw) hassign)

/-- A record is set up without arguments if it is one of settings, or if there is nothing to be set
up. -/
theorem gentle_setUp_nil {k : Kind} {s t : Store}
    (h : (checkArguments k "__init__" 1).run s = (.ok (), t)) (v : Value) :
    Gentle (setUp k v k.fieldNames []) := by
  obtain rfl | hnil := eq_settings_or_fieldNames_eq_nil h
  · exact gentle_setUp_settings v fun _ hname => hname
  · rw [hnil]
    exact gentle_pure ()

instance gentle_newRecord_nil (k : Kind) : Gentle (newRecord k []) where
  effects s := by
    refine effects_bind ((gentle_checkArguments _ _ _).effects s) fun _ t hchecked => ?_
    refine effects_bind (Store.effects_allocRecord t k []) fun v u _ => ?_
    have := gentle_setUp_nil hchecked v
    exact Gentle.effects u

instance gentle_displayAs (k : Kind) (v : Value) : Gentle (displayAs k v) := gentle_read _

/-- An operation of records that is given its record and nothing else. -/
instance gentle_ofRecord_self (k : Kind) (operation : String) (v : Value) (levels : Nat) :
    Gentle (ofRecord k operation [v] levels) where
  effects s := by
    refine effects_bind ((gentle_checkArguments _ _ _).effects s) fun _ t hchecked => ?_
    split
    case h_2 heq =>
      cases heq
      have := gentle_setUp_nil hchecked v
      exact Gentle.effects t
    case h_4 heq => cases heq
    all_goals exact Gentle.effects t

instance gentle_ofRecord_nil (k : Kind) (operation : String) (levels : Nat) :
    Gentle (ofRecord k operation [] levels) := by
  refine (gentle_checkArguments _ _ _).bind fun _ => ?_
  split <;> first | infer_instance | contradiction

/-! ### Values that are made from nothing

A kind that is called without arguments makes an empty value or new settings, or fails.
-/

instance gentle_construct_nil (k : Kind) : Gentle (construct k []) := by
  unfold construct fromNothing
  simp only
  split <;> infer_instance

/-! ### Calls

What is called is looked up, and the operation is carried out on the object that is there. Here the
conditions under which operations of lists and dictionaries have effects are met.
-/

/-- A new dictionary is there when it has been made. -/
theorem get?_of_run_dictionary {entries : Table Value} {s t : Store} {a : Addr}
    (h : (dictionary entries).run s = (.ok a, t)) : t.get? a = some (.dict entries) := by
  cases h
  exact Store.get?_alloc_self s _

instance gentle_performPlain_nil (declarer : Kind) (v : Value) (name : String) :
    Gentle (performPlain declarer v name []) where
  effects s := by
    refine effects_bind (.refl s) fun cell t hread => ?_
    cases hread
    split
    · exact Gentle.effects s
    · exact (gentle_ofTruth_nil _ _).effects s
    · exact (gentle_ofInteger_nil _ _ _).effects s
    · exact (gentle_ofInteger_nil _ _ _).effects s
    · exact (gentle_ofReal_nil _ _ _).effects s
    · exact (gentle_ofText_nil _ _).effects s
    · exact (gentle_ofProgression_nil _ _).effects s
    · rename_i h
      exact effects_ofList_nil h _
    · exact (gentle_ofTuple_nil _ _ _).effects s
    · rename_i h
      exact effects_ofDictionary_nil h _
    · -- a dictionary that describes a kind is copied, and the operation is one of the copy
      refine effects_bind (Store.effects_alloc s _) fun a t hmade => ?_
      exact effects_ofDictionary_nil (get?_of_run_dictionary hmade) _
    · exact (gentle_ofEveryKind_nil _ _).effects s
    · exact (gentle_general_nil _ _).effects s
    · exact (gentle_ofIterator_nil _ _ _).effects s
    · split
      · exact Gentle.effects s
      · contradiction
      · contradiction
      · exact Gentle.effects s

instance gentle_perform_nil (declarer : Kind) (v : Value) (name : String) :
    Gentle (perform declarer v name []) :=
  gentle_performPlain_nil declarer v name

instance gentle_operate_nil (owner : Value) (name : String) : Gentle (operate owner name []) := by
  unfold operate askedKind checkArity
  refine (gentle_read _).bind fun declarer => ?_
  split <;> infer_instance

/-- By induction on how deep calls of calls go. Without arguments there is nothing else that could
be called. -/
theorem gentle_callWithin_nil (fuel levels : Nat) (callee : Value) :
    Gentle (callWithin fuel levels callee []) := by
  induction fuel generalizing levels callee with
  | zero => exact gentle_throw _
  | succ fuel ih =>
    unfold callWithin
    split
    · exact gentle_ofRecord_self _ _ _ _
    · exact gentle_ofRecord_nil _ _ _
    · exact gentle_construct_nil _
    · exact ih _ _
    · exact gentle_operate_nil _ _
    · exact gentle_misuse _
    · unfold operateMember
      infer_instance
    · infer_instance

end Walkthrough.Action

namespace Walkthrough.Store

/-- **A call without arguments has effects only**, whatever is called and whether it fails or
not. -/
theorem effects_call_nil (s : Store) (operation : Value) (levels : Nat) :
    Effects s (s.call operation [] levels).2 :=
  (Action.gentle_callWithin_nil _ levels operation).effects s

/-- Asking for a full name carries out whatever the person has under that name. -/
theorem effects_fullName (s : Store) (v : Value) (levels : Nat) :
    Effects s (s.fullName v levels).2 := by
  unfold fullName
  split
  · exact .refl s
  · exact effects_call_nil s _ levels

end Walkthrough.Store
