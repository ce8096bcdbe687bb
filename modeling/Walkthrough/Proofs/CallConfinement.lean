import Walkthrough.Proofs.ValueConfinement

/-!
# Calls keep to what they are given

Operations of objects are given an object, its contents and arguments. What they put into the
object, and what they give, comes from these; so a call spares whatever is not reached from the
value that is called and its arguments.

## How a call gets at an object

The value that is called is an operation with the value that it belongs to, or a kind. With it come
the arguments. From these an operation can read what they refer to, and from that in turn what it
refers to; that this never leads to what is to be spared is what the lemmas on reading say. What an
operation writes it writes to the object that it belongs to, and that is outside the set as well. So
each operation of an object is given three facts: the address of the object is not in the set, its
contents avoid the set, and so do the arguments.

The contents are handed to an operation together with the address, as they have been read. They are
named separately because an operation may have changed the object before it uses them, and what it
uses then is what it has read.

## Calls that call

A value that can be called has an operation `__call__`, and calling that operation calls the value;
so does the member `__call__` of its kind. This is the only way in which one call leads to another.
It may be repeated, up to a limit of `fuel`, and `Confined.callWithin` is by induction on that. All
other operations are gone through without induction, or by induction on a list.

## Main results

* `Action.Confined.ofList`, `Action.Confined.ofDictionary`, `Action.Confined.ofIterator`,
  `Action.Confined.ofRecord` — operations of objects
* `Action.Confined.callWithin` — calls of calls, by induction on how deep they go
* `Store.spares_call` — all calls
-/

namespace Walkthrough

open Referring (Avoids)
open Sorting (bind_eq_ok)

/-! ### Sorting

A list that is sorted in place may fail halfway, and is left with its elements in another order
then. It is enough here that they are elements of it.
-/

namespace Sorting

variable {α ε : Type} {less : α → α → Except ε Bool}

/-- By recursion on the elements that are inserted. Where one cannot be compared the rest is left as
it is. -/
theorem insertAll_subset (sorted xs : List α) : insertAll less sorted xs ⊆ sorted ++ xs := by
  fun_induction insertAll less sorted xs with
  | case1 sorted => simp
  | case2 sorted x rest inserted hinsert ih =>
    have hperm := insert_perm hinsert
    intro y hy
    have hy := ih hy
    rw [List.mem_append, hperm.mem_iff] at hy
    simp only [List.mem_append, List.mem_cons] at hy ⊢
    tauto
  | case3 sorted x rest fault hinsert => simp

/-- What is left of a list that cannot be sorted are elements of it. -/
theorem leftBehind_subset (xs : List α) : leftBehind less xs ⊆ xs := by
  unfold leftBehind
  split
  · rename_i run others hrun
    exact fun x hx => (frontRun_perm hrun).1.subset (insertAll_subset run others hx)
  · exact List.Subset.refl xs

end Sorting

namespace Action

variable {α : Type} {P : Set Addr → Prop}

/-! ### Sequences

What a sequence is put together from are its own elements and those of another sequence. They are
taken over as they are, as often as it may be.
-/

/-- Two sequences one behind the other. The second one must be of the same kind. -/
theorem Confined.concatenated {items : List Value} {v : Value} (hitems : ∀ K, P K → Avoids K items)
    (hv : ∀ K, P K → Avoids K v) (k : Kind) : Confined P (concatenated k items v) Avoids := by
  refine .bind (.cellOf hv) fun cell => ?_
  split
  · exact .pure fun K hK => avoids_append.2 ⟨hitems K hK.1, avoids_list.1 (avoids_some.1 hK.2)⟩
  · exact .pure fun K hK => avoids_append.2 ⟨hitems K hK.1, avoids_tuple.1 (avoids_some.1 hK.2)⟩
  · exact .of_plain

theorem Confined.repeatedItems {items : List Value} (hitems : ∀ K, P K → Avoids K items)
    (v : Value) : Confined P (repeatedItems items v) Avoids := by
  refine .bind .of_plain fun n => .bind .of_plain fun _ => .pure fun K hK => ?_
  exact avoids_flatten_replicate (hitems K hK.1.1) n

instance plain_whereIn (items : List Value) (v : Value) : Plain (whereIn items v) := plain_read _

instance plain_argumentText (v : Value) : Plain (argumentText v) := by
  unfold argumentText
  split <;> infer_instance

instance plain_parameterized (k : Kind) (v : Value) : Plain (parameterized k v) := by
  refine ⟨.bind (.read (Q := fun _ _ => True) fun _ _ _ _ _ _ => trivial) fun cell => ?_⟩
  split <;> exact .of_plain

/-! ### Lists

An operation of a list writes elements to it that it had, or that it was given; what it gives is one
of these, a number, or a list of its own elements.
-/

section Lists

variable {a : Addr} {items : List Value} {v : Value}

/-- Writing a list and giving a value. -/
theorem Confined.writeList {others : List Value} (ha : ∀ K, P K → a ∉ K)
    (hothers : ∀ K, P K → Avoids K others) (hv : ∀ K, P K → Avoids K v) :
    Confined P (Action.write a (.list others) >>= fun _ => Pure.pure v) Avoids :=
  .bind (.write (fun K hK => ⟨ha K hK, hothers K hK⟩) fun _ => nofun) fun _ =>
    .pure fun K hK => hv K hK.1

/-- An element is taken out and given, and the others are written back. -/
theorem Confined.removeAt (ha : ∀ K, P K → a ∉ K) (hitems : ∀ K, P K → Avoids K items)
    (use : Indexing) (i : Int) : Confined P (removeAt a items use i) Avoids := by
  unfold Action.removeAt
  split
  · exact .writeList ha (fun K hK => avoids_of_subset (hitems K hK) (List.eraseIdx_subset))
      fun K hK => avoids_getD (hitems K hK) _
  · exact .misuse _

/-- An element is taken from the end, or from the place that is asked for. -/
theorem Confined.pop {args : List Value} (ha : ∀ K, P K → a ∉ K)
    (hitems : ∀ K, P K → Avoids K items) : Confined P (pop a items args) Avoids := by
  have htaken (i : Int) : Confined P (if items.isEmpty then Action.misuse .takingFromEmpty
      else Action.removeAt a items .taking i) Avoids := by
    split
    · exact .misuse _
    · exact .removeAt ha hitems _ _
  unfold Action.pop
  dsimp only
  split
  · exact .bind .of_plain fun i => (htaken i).weaken (fun _ hK => hK.1) fun _ _ _ hx => hx
  · exact .bind .of_plain fun i => (htaken i).weaken (fun _ hK => hK.1) fun _ _ _ hx => hx

/-- Whether sorting comes to an end or not, what is written back are elements of the list. -/
theorem Confined.sort (ha : ∀ K, P K → a ∉ K) (hitems : ∀ K, P K → Avoids K items) :
    Confined P (sort a items) Avoids := by
  refine .bind (Q := fun K r => ∀ sorted, r = .ok sorted → Avoids K sorted)
    (.read fun K s r hK hs hr sorted hsorted => ?_) fun r => ?_
  · cases hr
    exact avoids_of_subset (hitems K hK) (Sorting.sort_perm hsorted).subset
  · split
    · exact .writeList (fun K hK => ha K hK.1) (fun K hK => hK.2 _ rfl) fun _ _ => avoids_of_ground
    · refine .bind (Q := fun _ _ => True) ⟨fun s => ?_, fun K s hK hs _ => ?_, fun _ _ hold =>
        Store.tuplesHoldOlder_put hold fun _ => nofun⟩ fun _ => .throw _
      · simp [update, ExceptT.run, ExceptT.mk]
      · refine ⟨Store.spares_put hs (ha K hK.1) ?_, fun _ _ => trivial⟩
        exact avoids_of_subset (hitems K hK.1) (Sorting.leftBehind_subset items)

/-- A list takes up the elements of a value one by one, so that it has those before a fault. -/
theorem Confined.extend (ha : ∀ K, P K → a ∉ K) (hv : ∀ K, P K → Avoids K v) :
    Confined P (extend a v) fun _ _ => True := by
  refine .bind .of_plain fun walks => ?_
  split
  · exact .misuse _
  refine .bind (.elements fun K hK => hv K hK.1) fun others => ⟨fun s => ?_,
    fun K s hK hs _ => ⟨?_, fun _ _ => trivial⟩, fun s _ hold => ?_⟩
  · simp only [update, ExceptT.run, ExceptT.mk]
    split <;> simp
  · simp only [update, ExceptT.run, ExceptT.mk]
    split
    · rename_i found hcell
      refine Store.spares_put hs (ha K hK.1.1) (avoids_append.2 ⟨?_, hK.2⟩)
      exact hs a _ (ha K hK.1.1) hcell
    · exact .refl hs
  · simp only [update, ExceptT.run, ExceptT.mk]
    split
    · exact Store.tuplesHoldOlder_put hold (by rintro _ ⟨⟩)
    · exact hold

/-- The first element that is equal to a value is taken out. -/
theorem Confined.remove (ha : ∀ K, P K → a ∉ K) (hitems : ∀ K, P K → Avoids K items) (v : Value) :
    Confined P (remove a items v) Avoids := by
  refine .bind .of_plain fun i => ?_
  split
  · exact .writeList (fun K hK => ha K hK.1)
      (fun K hK => avoids_of_subset (hitems K hK.1) List.eraseIdx_subset) fun _ _ => avoids_of_ground
  · exact .misuse _

/-- Operations of a list that are given one argument. -/
theorem Confined.ofListWith (ha : ∀ K, P K → a ∉ K) (hitems : ∀ K, P K → Avoids K items)
    (hv : ∀ K, P K → Avoids K v) (name : String) :
    Confined P (ofListWith a items name v) Avoids := by
  unfold Action.ofListWith
  split
  · exact .read fun K s x hK hs hx => Store.avoids_of_item hs (ha K hK) hx
  · refine .bind .of_plain fun i => ?_
    split
    · exact .bind (.removeAt (fun K hK => ha K hK.1) (fun K hK => hitems K hK.1) _ _) fun _ =>
        .of_plain
    · exact .misuse _
  · exact .bind (.concatenated hitems hv .list) fun _ => .make fun K hK => hK.2
  · exact .bind (.repeatedItems hitems v) fun _ => .make fun K hK => hK.2
  · exact .bind (.repeatedItems hitems v) fun _ => .make fun K hK => hK.2
  · exact .bind (.repeatedItems hitems v) fun _ =>
      .writeList (fun K hK => ha K hK.1) (fun K hK => hK.2) fun K hK => ha K hK.1
  · exact .bind (.extend ha hv) fun _ => .pure fun K hK => ha K hK.1
  · exact .of_plain
  · refine .bind (.write (fun K hK => ⟨ha K hK, avoids_nil⟩) fun _ => nofun) fun _ => ?_
    exact .bind (.extend (fun K hK => ha K hK.1) fun K hK => hv K hK.1) fun _ => .of_plain
  · exact .writeList ha (fun K hK => avoids_append.2 ⟨hitems K hK, avoids_cons.2 ⟨hv K hK, avoids_nil⟩⟩)
      fun _ _ => avoids_of_ground
  · exact .bind (.extend ha hv) fun _ => .of_plain
  · exact .remove ha hitems v
  · refine .bind .of_plain fun i => ?_
    split <;> exact .of_plain
  · exact .of_plain
  · exact .of_plain

/-- An operation of a list puts nothing into it but its elements and the argument. By cases on the
name of the operation; those that are given one argument have been gone through before. -/
theorem Confined.ofList {args : List Value} (ha : ∀ K, P K → a ∉ K)
    (hitems : ∀ K, P K → Avoids K items) (hargs : ∀ K, P K → Avoids K args) (name : String) :
    Confined P (ofList a items name args) Avoids := by
  unfold Action.ofList
  split
  · exact .of_plain
  · exact .of_plain
  · exact .ofWalk ha
  · exact .of_plain
  · exact .of_plain
  · exact .writeList ha (fun _ _ => avoids_nil) fun _ _ => avoids_of_ground
  · exact .writeList ha (fun _ _ => avoids_nil) fun _ _ => avoids_of_ground
  · exact .make hitems
  · exact .pop ha hitems
  · refine .writeList ha (fun K hK => avoids_of_subset (hitems K hK) ?_) fun _ _ => avoids_of_ground
    exact fun x hx => List.mem_reverse.1 hx
  · exact .sort ha hitems
  · exact .ofListWith ha hitems (fun K hK => (avoids_cons.1 (hargs K hK)).1) _
  · exact .of_plain

end Lists

/-! ### Tuples and progressions

Neither can be changed. A tuple may give itself, or a tuple made from its parts.
-/

/-- An operation of a tuple gives a part of it or a tuple made from its parts, if not a number or a
text. -/
theorem Confined.ofTuple {self : Value} {items args : List Value}
    (hself : ∀ K, P K → Avoids K self) (hitems : ∀ K, P K → Avoids K items)
    (hargs : ∀ K, P K → Avoids K args) (name : String) :
    Confined P (ofTuple self items name args) Avoids := by
  unfold Action.ofTuple
  split
  · exact .of_plain
  · exact .of_plain
  · exact .of_plain
  · exact .ofWalk hself
  · exact .bind (.make hitems) fun _ => .make fun K hK => avoids_cons.2 ⟨hK.2, avoids_nil⟩
  · exact .read fun K s x hK hs hx => Store.avoids_of_item hs (hself K hK) hx
  · exact .bind (.concatenated hitems (fun K hK => (avoids_cons.1 (hargs K hK)).1) .tuple) fun _ =>
      .make fun K hK => hK.2
  · exact .bind (.repeatedItems hitems _) fun _ => .make fun K hK => hK.2
  · exact .bind (.repeatedItems hitems _) fun _ => .make fun K hK => hK.2
  · exact .of_plain
  · refine .bind .of_plain fun i => ?_
    split <;> exact .of_plain
  · exact .of_plain
  · exact .of_plain

instance plain_whereInProgression (r : Progression) (v : Value) :
    Plain (whereInProgression r v) := by
  unfold whereInProgression
  split <;> infer_instance

instance plain_ofProgression (r : Progression) (name : String) (args : List Value) :
    Plain (ofProgression r name args) := by
  constructor
  unfold ofProgression
  split
  all_goals first | exact .of_plain | skip
  · exact .ofWalk fun _ _ => avoids_of_ground
  · refine .bind .of_plain fun _ => .make fun K hK => ?_
    exact avoids_cons.2 ⟨avoids_of_ground, avoids_cons.2 ⟨hK.2, avoids_nil⟩⟩
  · exact .read fun K s x _ hs hx => Store.avoids_of_item hs avoids_of_ground hx
  · refine .bind .of_plain fun i => ?_
    split <;> exact .of_plain

/-! ### Dictionaries

A key is looked for among the entries by comparing, and comparing changes nothing. An entry that is
put in or taken away refers to a key and a value that were there, or were given.
-/

section Dictionaries

variable {a : Addr} {entries : Table Value} {v : Value}

/-- Entries are taken away and none is added. -/
theorem avoids_of_withoutEntry {K : Set Addr} {s : Store} {key : Value} {others : Table Value}
    (hentries : Avoids K entries) (h : s.withoutEntry key entries = .ok others) :
    Avoids K others := by
  induction entries generalizing others with
  | nil =>
    cases h
    exact avoids_nil
  | cons entry rest ih =>
    rw [avoids_cons] at hentries
    obtain ⟨found, -, h⟩ := bind_eq_ok.1 h
    split at h
    · cases h
      exact hentries.2
    · obtain ⟨later, hlater, h⟩ := bind_eq_ok.1 h
      cases h
      exact avoids_cons.2 ⟨hentries.1, ih hentries.2 hlater⟩

/-- The entries that a dictionary has now. -/
theorem Confined.entriesAt (ha : ∀ K, P K → a ∉ K) : Confined P (entriesAt a) Avoids := by
  refine .read fun K s x hK hs hx => ?_
  cases hx
  exact Store.avoids_attributesAt hs (ha K hK)

/-- The entries are read again for each one that is put in, since the dictionary may have changed.
-/
theorem Confined.putEntry {key : Value} (ha : ∀ K, P K → a ∉ K) (hkey : ∀ K, P K → Avoids K key)
    (hv : ∀ K, P K → Avoids K v) : Confined P (putEntry a key v) fun _ _ => True := by
  refine .bind (.entriesAt ha) fun entries => .bind (Q := Avoids) (.read fun K s x hK _ hx => ?_)
    fun others => .write (fun K hK => ⟨ha K hK.1.1, hK.2⟩) fun _ => nofun
  exact Store.avoids_of_addEntry hK.2 (hkey K hK.1) (hv K hK.1) hx

/-- An entry is taken away if there is one for the key, and its value is given. -/
theorem Confined.takeEntry (ha : ∀ K, P K → a ∉ K) (key : Value) :
    Confined P (takeEntry a key) Avoids := by
  refine .bind (.entriesAt ha) fun entries => .bind (Q := Avoids) (.read fun K s x hK _ hx => ?_)
    fun v => .bind (Q := Avoids) (.read fun K s x hK _ hx => ?_) fun others =>
      .bind (.write (fun K hK => ⟨ha K hK.1.1.1, hK.2⟩) fun _ => nofun) fun _ =>
        .pure fun K hK => hK.1.1.2
  · exact Store.avoids_of_entry hK.2 hx
  · exact avoids_of_withoutEntry hK.1.2 hx

/-- Entries are put in one after the other. -/
theorem Confined.merge (ha : ∀ K, P K → a ∉ K) (hentries : ∀ K, P K → Avoids K entries) :
    Confined P (merge a entries) fun _ _ => True :=
  .forM fun entry hentry => .putEntry ha (fun K hK => (hentries K hK entry hentry).1)
    fun K hK => (hentries K hK entry hentry).2

/-- A pair is taken apart by taking its elements, of which there must be two. -/
theorem Confined.pairAt (hv : ∀ K, P K → Avoids K v) (index : Nat) :
    Confined P (pairAt index v) Avoids := by
  refine .bind (.handle (.elements hv) fun f => ?_) fun parts => ?_
  · split <;> exact .of_plain
  · split
    · refine .pure fun K hK => ?_
      simpa using hK.2
    · exact .of_plain

/-- A dictionary takes up the entries of another one, or pairs that are the elements of a value. -/
theorem Confined.mergeFrom (ha : ∀ K, P K → a ∉ K) (hv : ∀ K, P K → Avoids K v) :
    Confined P (mergeFrom a v) fun _ _ => True := by
  refine .bind (.cellOf hv) fun cell => ?_
  split
  · exact .merge (fun K hK => ha K hK.1) fun K hK => avoids_dict.1 (avoids_some.1 hK.2)
  · refine .forElements (fun K hK => hv K hK.1) fun index pair => ?_
    refine .bind (.pairAt (fun K hK => hK.2) index) fun parts => ?_
    exact .putEntry (fun K hK => ha K hK.1.1.1) (fun K hK => hK.2.1) fun K hK => hK.2.2

/-- A new dictionary may refer to anything that avoids the set, and its address is not in the set if
it is withheld. -/
theorem Confined.dictionary (hentries : ∀ K, P K → Avoids K entries) :
    Confined P (dictionary entries) fun K a => a ∉ K where
  grows s := by
    show s.size ≤ (s.alloc (.dict entries)).2.size
    simp
  spares K s hK hs hheld := by
    obtain ⟨hspares, hfree⟩ := Store.spares_alloc hs (avoids_dict.2 (hentries K hK)) hheld
    exact ⟨hspares, fun x hx => by cases hx; exact hfree⟩
  tuples _ _ hold := Store.tuplesHoldOlder_object hold fun _ => nofun

/-- The keys of the new dictionary are the elements of the argument, each with nothing for its
value. -/
theorem Confined.fromKeys (hv : ∀ K, P K → Avoids K v) : Confined P (fromKeys v) Avoids := by
  refine .bind (.dictionary fun _ _ => avoids_nil) fun a => ?_
  refine .bind (.forElements (fun K hK => hv K hK.1) fun _ key => ?_) fun _ =>
    .pure fun K hK => hK.1.2
  exact .putEntry (fun K hK => hK.1.2) (fun K hK => hK.2) fun _ _ => avoids_of_ground

/-- Two dictionaries are united in a new one, with the entries of both. -/
theorem Confined.united {w : Value} (hv : ∀ K, P K → Avoids K v) (hw : ∀ K, P K → Avoids K w) :
    Confined P (united v w) Avoids := by
  refine .bind (.cellOf hv) fun first => .bind (.cellOf fun K hK => hw K hK.1) fun second => ?_
  split
  · refine .bind (.dictionary fun K hK => avoids_dict.1 (avoids_some.1 hK.1.2)) fun a => ?_
    refine .bind (.merge (fun K hK => hK.2) fun K hK => ?_) fun _ => .pure fun K hK => hK.1.2
    exact avoids_dict.1 (avoids_some.1 hK.1.2)
  · exact .of_plain

/-- The last entry is taken away and given as a tuple, which is new. -/
theorem Confined.popItem (ha : ∀ K, P K → a ∉ K) (hentries : ∀ K, P K → Avoids K entries) :
    Confined P (popItem a entries) Avoids := by
  unfold Action.popItem
  split
  · rename_i key v hlast
    refine .bind (.write (fun K hK => ⟨ha K hK, ?_⟩) fun _ => nofun) fun _ => .make fun K hK => ?_
    · exact avoids_of_subset (hentries K hK) (List.dropLast_subset entries)
    · obtain ⟨hkey, hv⟩ := hentries K hK.1 _ (List.mem_of_getLast? hlast)
      exact avoids_cons.2 ⟨hkey, avoids_cons.2 ⟨hv, avoids_nil⟩⟩
  · exact .throw _

/-- Operations of a dictionary that are given one argument. -/
theorem Confined.ofDictionaryWith (ha : ∀ K, P K → a ∉ K)
    (hentries : ∀ K, P K → Avoids K entries) (hv : ∀ K, P K → Avoids K v) (name : String) :
    Confined P (ofDictionaryWith a entries name v) Avoids := by
  have hfound : Confined P (Action.read fun s => s.entry? entries v) Avoids :=
    .read fun K s x hK _ hx => Store.avoids_of_entryFound (hentries K hK) hx
  unfold Action.ofDictionaryWith
  split
  · exact .read fun K s x hK _ hx => Store.avoids_of_entry (hentries K hK) hx
  · exact .bind hfound fun _ => .of_plain
  · exact .bind (.takeEntry ha v) fun _ => .of_plain
  · refine .bind hfound fun found => .pure fun K hK => ?_
    cases found with
    | none => exact avoids_of_ground (x := Value.null)
    | some w => exact avoids_some.1 hK.2
  · refine .bind hfound fun found => ?_
    split
    · exact .pure fun K hK => avoids_some.1 hK.2
    · refine .bind (.putEntry (fun K hK => ha K hK.1) (fun K hK => hv K hK.1) ?_) fun _ => .of_plain
      exact fun _ _ => avoids_of_ground
  · split
    · exact .throw _
    · exact .takeEntry ha v
  · exact .bind (.mergeFrom ha hv) fun _ => .of_plain
  · exact .bind (.mergeFrom ha hv) fun _ => .of_plain
  · exact .united ha hv
  · exact .united hv ha
  · exact .bind (.mergeFrom ha hv) fun _ => .pure fun K hK => ha K hK.1
  · exact .of_plain

/-- An operation of a dictionary puts nothing into it but what the argument holds. By cases on the
name of the operation, as for lists. -/
theorem Confined.ofDictionary {args : List Value} (ha : ∀ K, P K → a ∉ K)
    (hentries : ∀ K, P K → Avoids K entries) (hargs : ∀ K, P K → Avoids K args) (name : String) :
    Confined P (ofDictionary a entries name args) Avoids := by
  unfold Action.ofDictionary
  split
  · exact .of_plain
  · exact .of_plain
  · exact .ofWalk ha
  · exact .of_plain
  · exact .of_plain
  · exact .of_plain
  · exact .of_plain
  · exact .of_plain
  · exact .popItem ha hentries
  · exact .bind (.write (fun K hK => ⟨ha K hK, avoids_nil⟩) fun _ => nofun) fun _ => .of_plain
  · exact .make hentries
  · exact .of_plain
  · exact .of_plain
  · exact .ofDictionaryWith ha hentries (fun K hK => (avoids_cons.1 (hargs K hK)).1) _
  · exact .of_plain

end Dictionaries

end Action

/-! ### Attributes that are set and taken away

Setting an attribute writes to the record, or to the dictionary in which it keeps its attributes;
both are reached from the value. What is called `__dict__` is that dictionary itself, and
`__class__` is the kind, which is kept in the record and refers to nothing. What is set of a kind or
a function is not in the store, which stays as it is.
-/

namespace Store

variable {K : Set Addr} {s t : Store}

theorem spares_putAttribute {r : Record} {w : Value} (hs : Avoids K s) (hr : Avoids K r)
    (hw : Avoids K w) (name : String) : Spares K s (s.putAttribute r name w) :=
  spares_put hs hr (avoids_dict.2 (avoids_put (avoids_attributesAt hs hr) avoids_of_ground hw))

theorem size_le_of_assignRecord {r r' : Record} {name : String} {w : Value}
    (h : s.assignRecord r name w = .ok (r', t)) : s.size ≤ t.size := by
  unfold assignRecord at h
  split at h
  · split at h
    · split at h <;> cases h
      exact Nat.le_refl _
    · cases h
  · split at h <;> cases h
    · exact Nat.le_refl _
    · simp
  · cases h
  · cases h
    simp [putAttribute]

/-- A record whose attribute is set refers to its own attributes, or to those it is given. -/
theorem spares_assignRecord {r r' : Record} {name : String} {w : Value} (hs : Avoids K s)
    (hr : Avoids K r) (hw : Avoids K w) (h : s.assignRecord r name w = .ok (r', t))
    (hheld : Withholds K s t) : Spares K s t ∧ Avoids K r' := by
  unfold assignRecord at h
  split at h
  · split at h
    · split at h <;> cases h
      exact ⟨.refl hs, hr⟩
    · cases h
  · split at h
    · cases h
      exact ⟨.refl hs, hw⟩
    · rename_i hcell
      cases h
      exact spares_alloc hs (avoids_of_cell? hs hw hcell) hheld
    · cases h
  · cases h
  · cases h
    exact ⟨spares_putAttribute hs hr hw name, hr⟩

theorem size_le_of_assign {v w : Value} {name : String} (h : s.assign v name w = .ok t) :
    s.size ≤ t.size := by
  unfold assign at h
  split at h
  · split at h
    · obtain ⟨⟨r', u⟩, hassign, h⟩ := bind_eq_ok.1 h
      cases h
      simpa using size_le_of_assignRecord hassign
    · cases h
  · split at h <;> cases h
    exact Nat.le_refl _
  · split at h <;> cases h
    exact Nat.le_refl _
  · cases h

/-- **Setting an attribute** gets at nothing but the value, its record and what it is set to. -/
theorem spares_assign {v w : Value} {name : String} (hs : Avoids K s) (hv : Avoids K v)
    (hw : Avoids K w) (h : s.assign v name w = .ok t) (hheld : Withholds K s t) :
    Spares K s t := by
  unfold assign at h
  split at h
  · split at h
    · rename_i hcell
      obtain ⟨⟨r', u⟩, hassign, h⟩ := bind_eq_ok.1 h
      cases h
      have hheld' : Withholds K s u := by simpa [Withholds] using hheld
      obtain ⟨hsu, hr'⟩ := spares_assignRecord hs (hs _ _ hv hcell) hw hassign hheld'
      exact hsu.trans (spares_put hsu.avoids hv hr')
    · cases h
  · split at h <;> cases h
    exact .refl hs
  · split at h <;> cases h
    exact .refl hs
  · cases h

/-- A record and a dictionary are written to, and neither is a tuple. -/
theorem tuplesHoldOlder_of_assignRecord {r r' : Record} {name : String} {w : Value}
    (hold : s.TuplesHoldOlder) (hs : Avoids {b | s.size ≤ b} s) (hw : Avoids {b | s.size ≤ b} w)
    (h : s.assignRecord r name w = .ok (r', t)) : t.TuplesHoldOlder := by
  unfold assignRecord at h
  split at h
  · split at h
    · split at h <;> cases h
      exact hold
    · cases h
  · split at h
    · cases h
      exact hold
    · rename_i hcell
      cases h
      exact tuplesHoldOlder_alloc hold (avoids_of_cell? hs hw hcell)
    · cases h
  · cases h
  · cases h
    exact tuplesHoldOlder_put hold (by rintro _ ⟨⟩)

theorem tuplesHoldOlder_of_assign {v w : Value} {name : String} (hold : s.TuplesHoldOlder)
    (hs : Avoids {b | s.size ≤ b} s) (hw : Avoids {b | s.size ≤ b} w)
    (h : s.assign v name w = .ok t) : t.TuplesHoldOlder := by
  unfold assign at h
  split at h
  · split at h
    · obtain ⟨⟨r', u⟩, hassign, h⟩ := bind_eq_ok.1 h
      cases h
      exact tuplesHoldOlder_put (tuplesHoldOlder_of_assignRecord hold hs hw hassign) fun _ => nofun
    · cases h
  · split at h <;> cases h
    exact hold
  · split at h <;> cases h
    exact hold
  · cases h

theorem size_le_of_remove {v : Value} {name : String} (h : s.remove v name = .ok t) :
    s.size ≤ t.size := by
  unfold remove at h
  split at h
  · cases h
  · split at h
    · split at h
      · split at h
        · cases h
          simp
        · split at h
          · cases h
          · split at h <;> cases h
            simp
      · cases h
    · split at h <;> cases h
      exact Nat.le_refl _
    · cases h

/-- **Taking an attribute away** gets at nothing but the value and its record. -/
theorem spares_remove {v : Value} {name : String} (hs : Avoids K s) (hv : Avoids K v)
    (h : s.remove v name = .ok t) (hheld : Withholds K s t) : Spares K s t := by
  unfold remove at h
  split at h
  · cases h
  · split at h
    · split at h
      · rename_i r hcell
        have hr : r.attributes ∉ K := hs _ _ hv hcell
        split at h
        · cases h
          have hheld' : Withholds K s (s.alloc (.dict [])).2 := by simpa [Withholds] using hheld
          obtain ⟨hsu, hfree⟩ := spares_alloc hs (avoids_dict.2 avoids_nil) hheld'
          exact hsu.trans (spares_put hsu.avoids hv hfree)
        · split at h
          · cases h
          · split at h <;> cases h
            refine spares_put hs hr (avoids_of_subset (avoids_attributesAt hs hr) ?_)
            exact List.filter_subset_self _
      · cases h
    · split at h <;> cases h
      exact .refl hs
    · cases h

theorem tuplesHoldOlder_of_remove {v : Value} {name : String} (hold : s.TuplesHoldOlder)
    (h : s.remove v name = .ok t) : t.TuplesHoldOlder := by
  unfold remove at h
  split at h
  · cases h
  · split at h
    · split at h
      · split at h
        · cases h
          exact tuplesHoldOlder_put (tuplesHoldOlder_object hold fun _ => nofun) fun _ => nofun
        · split at h
          · cases h
          · split at h <;> cases h
            exact tuplesHoldOlder_put hold fun _ => nofun
      · cases h
    · split at h <;> cases h
      exact hold
    · cases h

theorem size_allocRecord (s : Store) (k : Kind) (attributes : Bindings) :
    (s.allocRecord k attributes).2.size = s.size + 2 := by
  simp [allocRecord, newRecord]

theorem tuplesHoldOlder_allocRecord {k : Kind} {attributes : Bindings}
    (hold : s.TuplesHoldOlder) : (s.allocRecord k attributes).2.TuplesHoldOlder :=
  tuplesHoldOlder_object (tuplesHoldOlder_object hold fun _ => nofun) fun _ => nofun

theorem avoids_ofNames {attributes : Bindings} (h : Avoids K attributes) :
    Avoids K (Table.ofNames attributes) := by
  intro entry hentry
  obtain ⟨binding, hbinding, rfl⟩ := List.mem_map.1 hentry
  exact ⟨avoids_of_ground, (h binding hbinding).2⟩

/-- A record is made with a new dictionary, which refers to what its attributes refer to. -/
theorem spares_newRecord {k : Kind} {attributes : Bindings} (hs : Avoids K s)
    (hattributes : Avoids K attributes) (hheld : Withholds K s (s.newRecord k attributes).2) :
    Spares K s (s.newRecord k attributes).2 ∧ Avoids K (s.newRecord k attributes).1 :=
  spares_alloc hs (avoids_dict.2 (avoids_ofNames hattributes)) hheld

theorem spares_allocRecord {k : Kind} {attributes : Bindings} (hs : Avoids K s)
    (hattributes : Avoids K attributes) (hheld : Withholds K s (s.allocRecord k attributes).2) :
    Spares K s (s.allocRecord k attributes).2 ∧ Avoids K (s.allocRecord k attributes).1 := by
  have hle : (s.newRecord k attributes).2.size ≤ (s.allocRecord k attributes).2.size := by
    simp [size_allocRecord, newRecord]
  obtain ⟨hbefore, hafter⟩ := hheld.before (by simp [newRecord]) hle
  obtain ⟨hst, hr⟩ := spares_newRecord hs hattributes hbefore
  obtain ⟨htu, hfree⟩ := spares_alloc hst.avoids (avoids_record.2 hr) hafter
  exact ⟨hst.trans htu, hfree⟩

end Store

namespace Action

variable {P : Set Addr → Prop} {v : Value} {args : List Value}

/-! ### Records

An operation of records is given its record as the first argument. Setting one up again sets its
fields one by one, to the arguments or to their defaults, which are made for it.
-/

instance plain_checkArguments (k : Kind) (operation : String) (given : Nat) :
    Plain (checkArguments k operation given) := by
  unfold checkArguments
  infer_instance

/-- **Setting an attribute**, as an action: it gets at the value and at what is set. -/
theorem Confined.assign {w : Value} (hv : ∀ K, P K → Avoids K v) (hw : ∀ K, P K → Avoids K w)
    (name : String) : Confined P (assign v name w) fun _ _ => True := by
  constructor
  · intro s
    simp only [Action.assign, ExceptT.run, ExceptT.mk]
    rcases h : s.assign v name w with f | t
    · exact Nat.le_refl _
    · exact Store.size_le_of_assign h
  · intro K s hK hs hheld
    simp only [Action.assign, ExceptT.run, ExceptT.mk] at hheld ⊢
    rcases h : s.assign v name w with f | t
    · exact ⟨.refl hs, fun _ _ => trivial⟩
    · rw [h] at hheld
      exact ⟨Store.spares_assign hs (hv K hK) (hw K hK) h hheld, fun _ _ => trivial⟩
  · intro s hs hold
    simp only [Action.assign, ExceptT.run, ExceptT.mk]
    rcases h : s.assign v name w with f | t
    · exact hold
    · obtain ⟨hP, hsK⟩ := hs {b | s.size ≤ b} fun _ ha => ha
      exact Store.tuplesHoldOlder_of_assign hold hsK (hw _ hP) h

theorem Confined.allocRecord {k : Kind} {attributes : Bindings}
    (h : ∀ K, P K → Avoids K attributes) : Confined P
      (ExceptT.mk fun s => (.ok (s.allocRecord k attributes).1, (s.allocRecord k attributes).2))
      fun K (v : Value) => Avoids K v where
  grows s := by
    simp [ExceptT.run, ExceptT.mk, Store.size_allocRecord]
  spares K s hK hs hheld := by
    obtain ⟨hspares, hv⟩ := Store.spares_allocRecord hs (h K hK) hheld
    exact ⟨hspares, fun x hx => by cases hx; exact hv⟩
  tuples _ _ hold := Store.tuplesHoldOlder_allocRecord hold

instance plain_fieldDefault (k : Kind) (name : String) : Plain (fieldDefault k name) := by
  unfold fieldDefault
  split
  · exact plain_list (Settings.defaultNumbers.map .int)
  · exact ⟨.allocRecord fun _ _ => by simp [Person.default, Person.make]⟩
  · infer_instance

/-- Fields are set one after the other, by induction on their names. Each takes the next argument,
or its default if there is none left. -/
theorem Confined.setUp (k : Kind) (hv : ∀ K, P K → Avoids K v) (names : List String)
    (hargs : ∀ K, P K → Avoids K args) : Confined P (setUp k v names args) fun _ _ => True := by
  induction names generalizing P args with
  | nil => exact .pure fun _ _ => trivial
  | cons name names ih =>
    cases args with
    | cons w ws =>
      refine .bind (.assign hv (fun K hK => (avoids_cons.1 (hargs K hK)).1) name) fun _ => ?_
      exact ih (fun K hK => hv K hK.1) fun K hK => (avoids_cons.1 (hargs K hK.1)).2
    | nil =>
      refine .bind .of_plain fun w => .bind (.assign (fun K hK => hv K hK.1) (fun K hK => hK.2) name)
        fun _ => ?_
      exact ih (fun K hK => hv K hK.1.1) fun _ _ => avoids_nil

instance plain_displayAs (k : Kind) (v : Value) : Plain (displayAs k v) := plain_read _

instance plain_equalAs (v w : Value) : Plain (equalAs v w) := by
  unfold equalAs
  infer_instance

/-- **Operations of records** get at what they are given: their record among it. -/
theorem Confined.ofRecord (hargs : ∀ K, P K → Avoids K args) (k : Kind) (operation : String)
    (levels : Nat) : Confined P (ofRecord k operation args levels) Avoids := by
  refine .bind .of_plain fun _ => ?_
  split
  · exact .of_plain
  · refine .bind (.setUp k ?_ _ ?_) fun _ => .of_plain
    · exact fun K hK => (avoids_cons.1 (hargs K hK.1)).1
    · exact fun K hK => (avoids_cons.1 (hargs K hK.1)).2
  · exact .of_plain
  · exact .of_plain
  · exact .of_plain

instance plain_bareRecord (k : Kind) : Plain (bareRecord k) := ⟨.allocRecord fun _ _ => avoids_nil⟩

/-- A new record has a dictionary of its own, and the fields that it is set up with. -/
theorem Confined.newRecord (hargs : ∀ K, P K → Avoids K args) (k : Kind) :
    Confined P (newRecord k args) Avoids := by
  refine .bind .of_plain fun _ => .bind .of_plain fun v => ?_
  refine .bind (.setUp k (fun K hK => hK.2) _ fun K hK => hargs K hK.1.1) fun _ => ?_
  exact .pure fun K hK => hK.1.2

/-! ### Iterators

An iterator refers to what it goes through. Moving it changes how far it has come and not what it
refers to, until it has run off the end and refers to nothing any more.
-/

section Iterators

variable {a : Addr} {it : Iterator}

/-- The element that an iterator stands at is one of those that it has ahead. -/
theorem avoids_of_current {K : Set Addr} {s : Store} {w : Value} (hs : Avoids K s)
    (hit : Avoids K it) (h : it.current s = .ok (some w)) : Avoids K w := by
  unfold Iterator.current at h
  split at h
  · split at h <;> cases h
    exact avoids_of_ground
  · rcases hahead : it.ahead s with f | items
    · rw [hahead] at h
      cases h
    · rw [hahead] at h
      have hhead : items.head? = some w := Except.ok.inj h
      exact Store.avoids_of_ahead hs hit hahead w (List.mem_of_head? hhead)

theorem run_next (a : Addr) (it : Iterator) (s : Store) :
    (Action.next a it).run s =
      match it.current s with
      | .error f => (.error f, s.breakOff (.ref a))
      | .ok none => (.error (.misuse .exhausted), s.moveOn (.ref a) 0 true)
      | .ok (some v) => (.ok v, s.moveOn (.ref a) 1 false) := rfl

/-- The next element is what the iterator stands at. The iterator is moved past it, or set to its
end if there is none, or broken off if it cannot be told. -/
theorem Confined.next (ha : ∀ K, P K → a ∉ K) (hit : ∀ K, P K → Avoids K it) :
    Confined P (next a it) Avoids := by
  constructor
  · intro s
    rw [run_next]
    split <;> simp
  · intro K s hK hs _
    rw [run_next]
    split
    · exact ⟨Store.spares_breakOff hs (ha K hK), fun x hx => by cases hx⟩
    · exact ⟨Store.spares_moveOn hs (ha K hK) _ _, fun x hx => by cases hx⟩
    · rename_i w hcurrent
      refine ⟨Store.spares_moveOn hs (ha K hK) _ _, fun x hx => ?_⟩
      cases hx
      exact avoids_of_current hs (hit K hK) hcurrent
  · intro s _ hold
    rw [run_next]
    split
    · exact Store.tuplesHoldOlder_breakOff hold _
    · exact Store.tuplesHoldOlder_moveOn hold _ _ _
    · exact Store.tuplesHoldOlder_moveOn hold _ _ _

instance plain_positionFor (it : Iterator) (v : Value) : Plain (positionFor it v) := by
  unfold positionFor
  split
  · infer_instance
  · refine (plain_read _).bind fun below => ?_
    split
    · infer_instance
    · split <;> infer_instance
  · split <;> infer_instance

theorem avoids_setTo {K : Set Addr} (h : Avoids K it) (s : Store) (position : Nat) :
    Avoids K (it.setTo s position) := by
  unfold Iterator.setTo
  split <;> exact h

/-- An iterator that is set to another position goes through the same value as before. -/
theorem Confined.restart (ha : ∀ K, P K → a ∉ K) (hit : ∀ K, P K → Avoids K it) (v : Value) :
    Confined P (restart a it v) Avoids := by
  refine .bind .of_plain fun position => .bind (Q := fun _ _ => True) ⟨fun s => ?_, ?_,
    fun _ _ hold => Store.tuplesHoldOlder_put hold fun _ => nofun⟩ fun _ => .of_plain
  · simp [update, ExceptT.run, ExceptT.mk]
  · intro K s hK hs _
    refine ⟨Store.spares_put hs (ha K hK.1) ?_, fun _ _ => trivial⟩
    exact avoids_iterator.2 (avoids_setTo (hit K hK.1) s _)

instance (items : List Value) : Ground (textOf items) := inferInstanceAs (Ground (Value.text _))

instance : Ground beginning := inferInstanceAs (Ground (Value.shown _ _))

/-- What an iterator goes through is told as a value: the object itself, or a tuple or a text made
again. -/
theorem Confined.source (hit : ∀ K, P K → Avoids K it) : Confined P (source it) Avoids := by
  unfold Action.source
  split
  · exact .pure hit
  · exact .of_plain
  · exact .make hit
  all_goals exact .of_plain

/-- What begins a walk again: the operation that does, what it is given, and what else is told. -/
theorem Confined.tupleAgain {act : Action Value} (h : Confined P act Avoids) (more : List Value)
    [Ground more] : Confined P (do
      let w ← act
      let given ← Action.tuple [w]
      Action.tuple (beginning :: given :: more)) Avoids := by
  refine .bind h fun w => .bind (.make fun K hK => avoids_cons.2 ⟨hK.2, avoids_nil⟩) fun given => ?_
  exact .make fun K hK =>
    avoids_cons.2 ⟨avoids_of_ground, avoids_cons.2 ⟨hK.2, avoids_of_ground⟩⟩

/-- What an iterator is built from again: the value that it goes through and how far it has come, or
the elements that are left. -/
theorem Confined.rebuilding (hit : ∀ K, P K → Avoids K it) : Confined P (rebuilding it) Avoids := by
  unfold Action.rebuilding
  split
  · exact .tupleAgain (.source hit) _
  · exact .tupleAgain (.source hit) _
  · split
    · exact .tupleAgain (.make fun K hK => avoids_of_subset (hit K hK) (List.drop_subset _ _)) _
    · exact .tupleAgain (.source hit) _
  · refine .bind (Q := Avoids) (.read fun K s x hK hs hx => Store.avoids_of_ahead hs (hit K hK) hx)
      fun keys => ?_
    exact .tupleAgain (.make fun K hK => hK.2) _
  · refine .bind (Q := Avoids) (.read fun K s x hK hs hx => Store.avoids_of_ahead hs (hit K hK) hx)
      fun keys => ?_
    exact .tupleAgain (.make fun K hK => hK.2) _
  · exact .tupleAgain (.source hit) _

/-- **Operations of iterators** take the next element, set the position, or tell what is left. -/
theorem Confined.ofIterator (ha : ∀ K, P K → a ∉ K) (hit : ∀ K, P K → Avoids K it)
    (name : String) (args : List Value) : Confined P (ofIterator a it name args) Avoids := by
  unfold Action.ofIterator
  split
  · exact .next ha hit
  · exact .read fun K s x _ _ hx => by cases hx; exact avoids_of_ground
  · exact .restart ha hit _
  · exact .rebuilding hit
  · exact .pure ha

end Iterators

/-! ### Values that are made

A kind that is called makes a value of the kind, from nothing or from another value. What is taken
over from that value are its elements or its entries.
-/

/-- A kind that is called without arguments makes an empty value, or a record with its defaults. -/
theorem Confined.fromNothing (k : Kind) : Confined P (fromNothing k) Avoids := by
  unfold Action.fromNothing
  split
  all_goals first | exact .of_plain | exact .newRecord (fun _ _ => avoids_nil) _

instance plain_fromNothing (k : Kind) : Plain (fromNothing k) := ⟨.fromNothing k⟩

/-- A kind that is called with a value takes over its elements or its entries, or makes a record
with it for a field. -/
theorem Confined.fromValue (hv : ∀ K, P K → Avoids K v) (k : Kind) :
    Confined P (fromValue k v) Avoids := by
  have hgiven : ∀ K, P K → Avoids K [v] := fun K hK => avoids_cons.2 ⟨hv K hK, avoids_nil⟩
  unfold Action.fromValue
  split
  all_goals first | exact .of_plain | exact .newRecord hgiven _ | skip
  · exact .bind (.elements hv) fun _ => .make fun K hK => hK.2
  · refine .bind .of_plain fun given => ?_
    split
    · exact .pure fun K hK => hv K hK.1
    · exact .bind (.elements fun K hK => hv K hK.1) fun _ => .make fun K hK => hK.2
  · refine .bind (.dictionary fun _ _ => avoids_nil) fun a => ?_
    exact .bind (.mergeFrom (fun K hK => hK.2) fun K hK => hv K hK.1) fun _ =>
      .pure fun K hK => hK.1.2
  · exact .bind (Q := fun _ _ => True) (.read fun _ _ _ _ _ _ => trivial) fun r => .of_plain

/-- A kind makes a value from its first argument, if there is one. -/
theorem Confined.construct (hargs : ∀ K, P K → Avoids K args) (k : Kind) :
    Confined P (construct k args) Avoids := by
  unfold Action.construct
  split
  · exact .fromNothing k
  · exact .fromValue (fun K hK => (avoids_cons.1 (hargs K hK)).1) k

instance plain_bare (declarer : Kind) (args : List Value) : Plain (bare declarer args) := by
  unfold bare
  split <;> infer_instance

/-! ### Operations of all values

Every value can be asked for its state, for its text, and for an attribute, and an attribute of it
can be taken away. The last is the only one of these operations that changes something.
-/

instance plain_attributeName (v : Value) : Plain (attributeName v) := by
  unfold attributeName
  split <;> infer_instance

theorem Confined.removeAttribute (hv : ∀ K, P K → Avoids K v) (name : String) :
    Confined P (removeAttribute v name) Avoids := by
  constructor
  · intro s
    simp only [Action.removeAttribute, ExceptT.run, ExceptT.mk]
    rcases h : s.remove v name with f | t
    · exact Nat.le_refl _
    · exact Store.size_le_of_remove h
  · intro K s hK hs hheld
    simp only [Action.removeAttribute, ExceptT.run, ExceptT.mk] at hheld ⊢
    rcases h : s.remove v name with f | t
    · exact ⟨.refl hs, fun x hx => by cases hx⟩
    · rw [h] at hheld
      refine ⟨Store.spares_remove hs (hv K hK) h hheld, fun x hx => ?_⟩
      cases hx
      exact avoids_of_ground
  · intro s _ hold
    simp only [Action.removeAttribute, ExceptT.run, ExceptT.mk]
    rcases h : s.remove v name with f | t
    · exact hold
    · exact Store.tuplesHoldOlder_of_remove hold h

instance plain_plainFormat (v f : Value) : Plain (plainFormat v f) := by
  unfold plainFormat
  infer_instance

instance plain_pickled (v : Value) : Plain (pickled v) := by
  unfold pickled
  infer_instance

/-- The state of a record is its dictionary; other values have none. -/
theorem Confined.stateOf (hv : ∀ K, P K → Avoids K v) : Confined P (stateOf v) Avoids := by
  refine .read fun K s x hK hs hx => ?_
  split at hx
  · cases hx
    exact Store.avoids_of_cell? hs (hv K hK) ‹_›
  · cases hx
    exact avoids_of_ground

/-- **Operations of all values** get at the value that they are asked of. -/
theorem Confined.general (hv : ∀ K, P K → Avoids K v) (name : String) (args : List Value) :
    Confined P (general v name args) Avoids := by
  unfold Action.general
  split
  all_goals first | exact .of_plain | skip
  · exact .bind .of_plain fun name =>
      .read fun K s x hK hs hx => Store.avoids_of_lookup hs (hv K hK.1) hx
  · exact .bind .of_plain fun name => .removeAttribute (fun K hK => hv K hK.1) name
  · exact .stateOf hv

/-! ### Operations, members and kinds as values

An operation that has been looked up may be asked for what it belongs to, a member may be bound to a
value, and either leads to that value and no further.
-/

theorem Confined.readingAgain (hv : ∀ K, P K → Avoids K v) :
    Confined P (readingAgain v) Avoids := by
  have hread {w : Value} (hw : ∀ K, P K → Avoids K w) (name : String) :
      Confined P (do Action.tuple [attributeReading, ← Action.tuple [w, .text name]]) Avoids := by
    refine .bind (.make fun K hK => avoids_cons.2 ⟨hw K hK, avoids_of_ground⟩) fun given => ?_
    exact .make fun K hK =>
      avoids_cons.2 ⟨avoids_of_ground (x := Value.shown _ _), avoids_cons.2 ⟨hK.2, avoids_nil⟩⟩
  unfold Action.readingAgain
  split
  · exact hread (fun K hK => avoids_operation.1 (hv K hK)) _
  · exact hread (fun K hK => avoids_ref.2 (avoids_method.1 (hv K hK))) _
  · exact hread (fun _ _ => avoids_of_ground) _
  · exact .of_plain

/-- A member that is bound to a value becomes an operation of that value, or its property. -/
theorem Confined.bound {member : Value} (hv : ∀ K, P K → Avoids K v) :
    Confined P (bound member v) Avoids := by
  unfold Action.bound
  split
  · exact .of_plain
  · exact .of_plain
  · refine .bind .of_plain fun given => ?_
    split
    · exact .of_plain
    · split
      · refine .read fun K s x hK _ hx => ?_
        cases hx
        exact Store.avoids_property (hv K hK.1) _
      · refine .read fun K s x hK _ hx => ?_
        cases hx
        exact Store.avoids_property (hv K hK.1) _
      · exact .pure fun K hK => hv K hK.1
  · exact .of_plain

theorem Confined.unbound {member : Value} (hv : ∀ K, P K → Avoids K v) :
    Confined P (unbound member v) Avoids := by
  unfold Action.unbound
  split
  · refine .bind .of_plain fun given => ?_
    split
    · exact .of_plain
    · split
      · exact .removeAttribute (fun K hK => hv K hK.1) _
      · split <;> exact .of_plain
  · exact .of_plain

instance plain_alternatives (first second : Value) : Plain (alternatives first second) := by
  unfold alternatives
  split <;> infer_instance

instance plain_ofEveryKind (k : Kind) (name : String) (args : List Value) :
    Plain (ofEveryKind k name args) := by
  unfold ofEveryKind
  split
  all_goals first | infer_instance | skip
  exact ⟨.general (fun _ _ => avoids_of_ground) _ _⟩

/-- An operation of a kind, of the kind itself or of all kinds. -/
theorem Confined.ofKind (hargs : ∀ K, P K → Avoids K args) (k : Kind) (name : String) :
    Confined P (ofKind k name args) Avoids := by
  unfold Action.ofKind
  split
  all_goals first | exact .of_plain | skip
  · exact .fromBytes (fun K hK => (avoids_cons.1 (hargs K hK)).1) k
  · exact .translationTable fun K hK => (avoids_cons.1 (hargs K hK)).1
  · exact .fromKeys fun K hK => (avoids_cons.1 (hargs K hK)).1

/-! ### Calls

What is carried out depends on the value that is called and on the kind that declares the operation.
All that is left to do is to go through these cases, since each operation has been spoken of above.
-/

/-- By cases on the kind that declares the operation and on the object that it is carried out on. -/
theorem Confined.performPlain (hv : ∀ K, P K → Avoids K v) (hargs : ∀ K, P K → Avoids K args)
    (declarer : Kind) (name : String) : Confined P (performPlain declarer v name args) Avoids := by
  refine .bind (.cellOf hv) fun cell => ?_
  have hargs' : ∀ K, P K ∧ Avoids K cell → Avoids K args := fun K hK => hargs K hK.1
  split
  · exact .of_plain
  · exact .of_plain
  · exact .of_plain
  · exact .of_plain
  · exact .of_plain
  · exact .ofText hargs' _ _
  · exact .of_plain
  · exact .ofList (fun K hK => hv K hK.1) (fun K hK => avoids_list.1 (avoids_some.1 hK.2)) hargs' _
  · exact .ofTuple (fun K hK => hv K hK.1) (fun K hK => avoids_tuple.1 (avoids_some.1 hK.2)) hargs' _
  · exact .ofDictionary (fun K hK => hv K hK.1) (fun K hK => avoids_dict.1 (avoids_some.1 hK.2))
      hargs' _
  · refine .bind (.dictionary fun K hK => avoids_dict.1 (avoids_some.1 hK.2)) fun a => ?_
    exact .ofDictionary (fun K hK => hK.2) (fun K hK => avoids_dict.1 (avoids_some.1 hK.1.2))
      (fun K hK => hargs' K hK.1) _
  · exact .of_plain
  · exact .general (fun K hK => hv K hK.1) _ _
  · exact .ofIterator (fun K hK => hv K hK.1)
      (fun K hK => avoids_iterator.1 (avoids_some.1 hK.2)) _ _
  · split
    · exact .readingAgain fun K hK => hv K hK.1
    · exact .bound fun K hK => (avoids_cons.1 (hargs K hK.1)).1
    · exact .unbound fun K hK => (avoids_cons.1 (hargs K hK.1)).1
    · exact .general (fun K hK => hv K hK.1) _ _

/-- What a value can be built from again, as its kind tells it. -/
theorem Confined.rebuilt (hv : ∀ K, P K → Avoids K v) (version : Value) :
    Confined P (rebuilt v version) Avoids := by
  refine .bind .of_plain fun _ => .bind .of_plain fun k => ?_
  split
  · exact .performPlain (fun K hK => hv K hK.1.1) (fun _ _ => avoids_nil) _ _
  · exact .of_plain

/-- A comparison answers with a truth value, or that it does not know. -/
theorem avoids_of_comparison {K : Set Addr} {s : Store} {declarer : Kind} {name : String}
    {w x : Value} (h : s.comparison declarer name v w = .ok x) : Avoids K x := by
  have hmapped {β : Type} {r : Except Fault β} {f : β → Value} [∀ y, Ground (f y)]
      (h : r.map f = .ok x) : Avoids K x := by
    cases r with
    | error fault => cases h
    | ok y =>
      cases h
      exact avoids_of_ground
  unfold Store.comparison Store.comparisonByIdentity Store.comparisonBy at h
  -- a comparison of values comes down to a truth value, which is turned into a value
  repeat' split at h
  all_goals
    first
    | exact hmapped h
    | (cases h; exact avoids_of_ground)

/-- **An operation that a kind declares** gets at the value that it is carried out on and at its
arguments. -/
theorem Confined.perform (hv : ∀ K, P K → Avoids K v) (hargs : ∀ K, P K → Avoids K args)
    (declarer : Kind) (name : String) : Confined P (perform declarer v name args) Avoids := by
  unfold Action.perform
  split
  · split
    · exact .read fun K s x _ _ hx => avoids_of_comparison hx
    · split
      · exact .general hv _ _
      · split
        · exact .rebuilt hv _
        · exact .performPlain hv hargs _ _
  · exact .performPlain hv hargs _ _

instance plain_checkArity (declarer asked : Kind) (name : String) (given : Nat) :
    Plain (checkArity declarer asked name given) := plain_ite

instance plain_askedKind (owner : Value) : Plain (askedKind owner) := by
  unfold askedKind
  split <;> infer_instance

/-- An operation is carried out with the value that it belongs to. -/
theorem Confined.operate (hv : ∀ K, P K → Avoids K v) (hargs : ∀ K, P K → Avoids K args)
    (name : String) : Confined P (operate v name args) Avoids := by
  refine .bind .of_plain fun declarer => .bind .of_plain fun asked => .bind .of_plain fun _ => ?_
  split
  · exact .ofKind (fun K hK => hargs K hK.1.1.1) _ _
  · exact .perform (fun K hK => hv K hK.1.1.1) (fun K hK => hargs K hK.1.1.1) _ _

/-- An operation that is asked of a kind belongs to the first of its arguments. -/
theorem Confined.operateMember (hargs : ∀ K, P K → Avoids K args) (k : Kind) (name : String) :
    Confined P (operateMember k name args) Avoids := by
  unfold Action.operateMember
  split
  · exact .misuse _
  · refine .bind .of_plain fun given => ?_
    split
    · exact .misuse _
    · refine .bind .of_plain fun _ => .perform ?_ ?_ _ _
      · exact fun K hK => (avoids_cons.1 (hargs K hK.1.1)).1
      · exact fun K hK => (avoids_cons.1 (hargs K hK.1.1)).2

/-- **Calls of calls**, by induction on how deep they go. -/
theorem Confined.callWithin (fuel levels : Nat) {callee : Value}
    (hcallee : ∀ K, P K → Avoids K callee) (hargs : ∀ K, P K → Avoids K args) :
    Confined P (callWithin fuel levels callee args) Avoids := by
  induction fuel generalizing P levels callee args with
  | zero => exact .throw _
  | succ fuel ih =>
    unfold Action.callWithin
    split
    · refine .ofRecord (fun K hK => avoids_cons.2 ⟨?_, hargs K hK⟩) _ _ _
      exact avoids_ref.2 (avoids_method.1 (hcallee K hK))
    · exact .ofRecord hargs _ _ _
    · exact .construct hargs _
    · exact ih _ (fun K hK => avoids_operation.1 (hcallee K hK)) hargs
    · exact .operate (fun K hK => avoids_operation.1 (hcallee K hK)) hargs _
    · split
      · exact .misuse _
      · refine .bind .of_plain fun given => ?_
        split
        · exact ih _ (fun K hK => (avoids_cons.1 (hargs K hK.1)).1)
            fun K hK => (avoids_cons.1 (hargs K hK.1)).2
        · exact .misuse _
    · split
      · exact .of_plain
      · exact .operateMember hargs _ _
    · exact .of_plain

/-- **Calls** keep to what is called and the arguments: the induction with all the fuel that a call
has. -/
theorem Confined.call (callee : Value) (args : List Value) (levels : Nat) :
    Confined (fun K => Avoids K callee ∧ Avoids K args) (call callee args levels) Avoids :=
  .callWithin _ levels (fun _ hK => hK.1) fun _ hK => hK.2

end Action

namespace Store

variable {K : Set Addr} {s : Store} {levels : Nat}

/-- Calls take no object away. -/
theorem size_le_call (s : Store) (operation : Value) (args : List Value) :
    s.size ≤ (s.call operation args levels).2.size :=
  (Action.Confined.call operation args levels).grows s

/-- **Calls.** What is not reached from the value that is called and from its arguments is spared,
whether the call fails or not, and the value that it gives does not lead there. -/
theorem spares_call {operation : Value} {args : List Value} (hs : Avoids K s)
    (hoperation : Avoids K operation) (hargs : Avoids K args)
    (hheld : Withholds K s (s.call operation args levels).2) :
    Spares K s (s.call operation args levels).2 ∧
      ∀ w, (s.call operation args levels).1 = .ok w → Avoids K w :=
  (Action.Confined.call operation args levels).spares K s ⟨hoperation, hargs⟩ hs hheld

end Store

end Walkthrough
