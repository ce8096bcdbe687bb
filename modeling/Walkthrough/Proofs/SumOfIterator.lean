import Walkthrough.Proofs.Movement
import Walkthrough.Proofs.Summation

/-!
# Sums of an iterator over a list

An iterator over a list has a position, and the elements behind it are those that it still gives. A
sum takes elements from it: all of them, or those up to and with the first that cannot be added. The
list may get further elements in between. If the iterator has been asked for an element in vain, it is
finished, and stays finished whatever the list gets; if it has not, then it goes on where it was.

## Why the position is enough

As long as no sum has come to the end, the position of the iterator is the number of elements that
have been taken. That is the invariant of `Store.History.takes`. What a single sum takes is read off
in the store in which it is made, since a history can be cut there (`Store.History.cut`).

A history does not say how often the list has grown, nor what has been done besides. This makes it
possible to cut one at any sum, and to say of each sum what is known of it, with what has been
before and what comes after.

## Main definitions

* `Store.taken` — what a sum takes from a value
* `Store.History` — sums of an iterator, and further elements of its list, in any sequence

## Main results

* `Store.sum_of_position`, `Store.sum_of_finished` — one sum
* `Store.History.takes` — what sums have taken, one after the other
* `Store.History.call` — what is known of each of them
-/

namespace Walkthrough

namespace Store

variable {s t u : Store} {v : Value} {total n : Number} {items : List Value} {f : Fault}

/-! ### What a sum takes

Elements are taken one by one, and the one that cannot be added has been taken as well. So what is
taken is told by the elements that there are, and by how many of them are read.
-/

/-- The elements that a sum takes from a value, the one that cannot be added included. -/
def taken (s : Store) (v : Value) : List Value :=
  match s.elements v with
  | .ok items => items.take (s.readCount (.int 0) items)
  | .error _ => []

theorem taken_of_elements (h : s.elements v = .ok items) :
    s.taken v = items.take (s.readCount (.int 0) items) := by
  rw [taken, h]

/-- A sum that does not fail reads all elements. -/
theorem readCount_of_ok (h : s.sumFrom total items = .ok n) :
    s.readCount total items = items.length := by
  induction items generalizing total with
  | nil => rfl
  | cons v rest ih =>
    rw [sumFrom] at h
    rw [readCount]
    rcases hadd : s.addElement total v with f | m
    · rw [hadd] at h
      cases h
    · rw [hadd] at h
      simp only [List.length_cons, ih h]

/-- A sum that fails reads the elements before the one that cannot be added, and that one. -/
theorem readCount_of_error {before after : List Value} {x : Value}
    (hbefore : s.sumFrom total before = .ok n) (hx : s.addElement n x = .error f) :
    s.readCount total (before ++ x :: after) = before.length + 1 := by
  induction before generalizing total with
  | nil =>
    cases hbefore
    simp only [List.nil_append, readCount, hx, List.length_nil]
  | cons v rest ih =>
    rw [sumFrom] at hbefore
    rw [List.cons_append, readCount]
    rcases hadd : s.addElement total v with g | m
    · rw [hadd] at hbefore
      cases hbefore
    · rw [hadd] at hbefore
      simp only [ih hbefore, List.length_cons]

/-- A sum fails at the last of the elements that it has taken, which could not be added to the total
of those before it. -/
def FailsAt (s : Store) (took : List Value) (f : Fault) : Prop :=
  ∃ good x n, took = good ++ [x] ∧ s.sumFrom (.int 0) good = .ok n ∧ s.addElement n x = .error f

/-- A sum that succeeds has taken everything that was left. -/
theorem taken_of_ok (h : s.elements v = .ok items) (hsum : s.sumFrom (.int 0) items = .ok n) :
    s.taken v = items := by
  rw [taken_of_elements h, readCount_of_ok hsum, List.take_length]

/-- A sum that fails has taken a beginning of what was left, with the element that it has failed at.
-/
theorem taken_of_error (h : s.elements v = .ok items)
    (hsum : s.sumFrom (.int 0) items = .error f) :
    s.FailsAt (s.taken v) f ∧ s.taken v <+: items ∧
      s.readCount (.int 0) items = (s.taken v).length := by
  obtain ⟨before, x, after, n, rfl, hbefore, hx⟩ := sumFrom_eq_error_iff.1 hsum
  have hcount : s.readCount (.int 0) (before ++ x :: after) = before.length + 1 :=
    readCount_of_error hbefore hx
  have htaken : s.taken v = before ++ [x] := by
    rw [taken_of_elements h, hcount, List.take_append, List.take_of_length_le (Nat.le_succ _)]
    simp
  rw [htaken, hcount, List.length_append, List.length_singleton]
  exact ⟨⟨before, x, n, rfl, hbefore, hx⟩, ⟨after, by simp⟩, rfl⟩

/-! ### One sum

An iterator over a list has come to some position, or is finished. There are lemmas for both, and
these are what the induction over a history uses.
-/

variable {l a : Addr} {k : Nat}

theorem ne_of_list_of_iterator {it : Iterator} (hl : s.get? l = some (.list items))
    (ha : s.get? a = some (.iterator it)) : l ≠ a := by
  rintro rfl
  rw [hl] at ha
  cases ha

/-- A sum moves nothing but the iterator. -/
theorem get?_sum_of_ne {b : Addr} (h : b ≠ a) : (s.sum (.ref a)).2.get? b = s.get? b := by
  rcases (movesWithin_sum s (.ref a)).cell b with hsame | ⟨hb, -⟩
  · exact hsame
  · cases hb
    exact absurd rfl h

/-- **A sum of an iterator that is not finished** takes what is behind its position. It takes
everything and the iterator is finished, or it fails and the iterator goes on from there. -/
theorem sum_of_position (hl : s.get? l = some (.list items))
    (ha : s.get? a = some (.iterator (.overList l k))) :
    (∃ n, (s.sum (.ref a)).1 = .ok n ∧ s.sumFrom (.int 0) (s.taken (.ref a)) = .ok n ∧
        s.taken (.ref a) = items.drop k ∧
        (s.sum (.ref a)).2.get? a = some (.iterator (.finished .listIterator))) ∨
      ∃ f, (s.sum (.ref a)).1 = .error f ∧ s.FailsAt (s.taken (.ref a)) f ∧
        s.taken (.ref a) <+: items.drop k ∧
        (s.sum (.ref a)).2.get? a =
          some (.iterator (.overList l (k + (s.taken (.ref a)).length))) := by
  have hcell : s.cell? (.ref a) = some (.iterator (.overList l k)) := ha
  have helements : s.elements (.ref a) = .ok (items.drop k) := by
    rw [elements_of_cell? hcell]
    simp only [Iterator.ahead, hl]
  have hlt := lt_of_get? ha
  rcases hsum : s.sumFrom (.int 0) (items.drop k) with f | n
  · obtain ⟨hfails, hprefix, hcount⟩ := taken_of_error helements hsum
    refine .inr ⟨f, ?_, hfails, hprefix, ?_⟩
    · rw [fst_sum_of_elements helements, hsum]
    · simp only [sum, helements, hsum, hcount, moveOn, hcell, get?_put_self hlt]
      rfl
  · have htaken := taken_of_ok helements hsum
    refine .inl ⟨n, ?_, ?_, htaken, ?_⟩
    · rw [fst_sum_of_elements helements, hsum]
    · rw [htaken, hsum]
    · simp only [sum, helements, hsum, moveOn, hcell, get?_put_self hlt]
      rfl

/-- **A sum of an iterator that is finished** takes nothing, and is zero. -/
theorem sum_of_finished {kind : Kind} (ha : s.get? a = some (.iterator (.finished kind))) :
    (s.sum (.ref a)).1 = .ok (.int 0) ∧ s.taken (.ref a) = [] ∧
      (s.sum (.ref a)).2.get? a = some (.iterator (.finished kind)) := by
  have hcell : s.cell? (.ref a) = some (.iterator (.finished kind)) := ha
  have helements : s.elements (.ref a) = .ok [] := elements_of_cell? hcell
  refine ⟨fst_sum_of_elements helements, taken_of_ok helements rfl, ?_⟩
  simp only [sum, helements, moveOn, hcell, get?_put_self (lt_of_get? ha)]
  rfl

/-! ### Histories

A history says nothing of how things are done in between, only that the list and the iterator are
left as they are. So it serves for runs and operations alike.
-/

/-- **A history** of the list at `l` and the iterator at `a`. The iterator is summed, the list gets
further elements, and whatever else happens leaves both as they are. The sums are listed by the stores
in which they are made. -/
inductive History (l a : Addr) (s : Store) : List Store → Store → Prop
  | refl : History l a s [] s
  | aside {sums : List Store} {t u : Store} (h : History l a s sums t)
    (hlist : u.get? l = t.get? l) (hiterator : u.get? a = t.get? a) : History l a s sums u
  | append {sums : List Store} {t u : Store} {items : List Value} {w : Value}
    (h : History l a s sums t) (hlist : t.get? l = some (.list items))
    (happended : u.get? l = some (.list (items ++ [w]))) (hiterator : u.get? a = t.get? a) :
    History l a s sums u
  | sum {sums : List Store} {t : Store} (h : History l a s sums t) :
    History l a s (sums ++ [t]) (t.sum (.ref a)).2

namespace History

variable {sums later : List Store}

theorem trans (hst : History l a s sums t) (htu : History l a t later u) :
    History l a s (sums ++ later) u := by
  induction htu with
  | refl => rwa [List.append_nil]
  | aside _ hlist hiterator ih => exact ih.aside hlist hiterator
  | append _ hlist happended hiterator ih => exact ih.append hlist happended hiterator
  | sum _ ih =>
    rw [← List.append_assoc]
    exact ih.sum

/-- A single sum. -/
theorem single (l a : Addr) (s : Store) : History l a s [s] (s.sum (.ref a)).2 := History.refl.sum

/-- **A history can be cut** where one of the sums is made, and where it ends. -/
theorem cut {before after : List Store} {c : Store}
    (h : History l a s (before ++ c :: after) t) :
    History l a s before c ∧ History l a (c.sum (.ref a)).2 after t := by
  generalize hsums : before ++ c :: after = sums at h
  induction h generalizing after with
  | refl => simp at hsums
  | aside _ hlist hiterator ih =>
    obtain ⟨hbefore, hafter⟩ := ih hsums
    exact ⟨hbefore, hafter.aside hlist hiterator⟩
  | append _ hlist happended hiterator ih =>
    obtain ⟨hbefore, hafter⟩ := ih hsums
    exact ⟨hbefore, hafter.append hlist happended hiterator⟩
  | sum h ih =>
    rcases List.eq_nil_or_concat after with rfl | ⟨rest, d, rfl⟩
    · obtain ⟨rfl, hc⟩ := List.append_inj' hsums rfl
      cases hc
      exact ⟨h, .refl⟩
    · rw [List.concat_eq_append, ← List.cons_append, ← List.append_assoc] at hsums
      obtain ⟨hrest, hd⟩ := List.append_inj' hsums rfl
      cases hd
      obtain ⟨hbefore, hafter⟩ := ih hrest
      rw [List.concat_eq_append]
      exact ⟨hbefore, hafter.sum⟩

/-- The list stays a list, and only gets longer. -/
theorem exists_list (h : History l a s sums t) (hl : s.get? l = some (.list items)) (hne : l ≠ a) :
    ∃ longer, t.get? l = some (.list longer) ∧ items <+: longer := by
  induction h with
  | refl => exact ⟨items, hl, List.prefix_rfl⟩
  | aside _ hlist _ ih =>
    obtain ⟨longer, hlonger, hprefix⟩ := ih
    exact ⟨longer, hlist.trans hlonger, hprefix⟩
  | append _ hlist happended _ ih =>
    obtain ⟨longer, hlonger, hprefix⟩ := ih
    cases hlist.symm.trans hlonger
    exact ⟨_, happended, hprefix.trans (List.prefix_append _ _)⟩
  | sum _ ih =>
    obtain ⟨longer, hlonger, hprefix⟩ := ih
    exact ⟨longer, (get?_sum_of_ne hne).trans hlonger, hprefix⟩

/-- The iterator stays an iterator. Where it stands is a matter of what has been taken from it. -/
theorem exists_iterator {it : Iterator} (h : History l a s sums t)
    (ha : s.get? a = some (.iterator it)) : ∃ moved, t.get? a = some (.iterator moved) := by
  induction h with
  | refl => exact ⟨it, ha⟩
  | aside _ _ hiterator ih => rwa [hiterator]
  | append _ _ _ hiterator ih => rwa [hiterator]
  | @sum _ t _ ih =>
    obtain ⟨moved, hmoved⟩ := ih
    rcases (movesWithin_sum t (.ref a)).cell a with hsame | ⟨-, -, last, -, hlast, -⟩
    · exact ⟨moved, hsame.trans hmoved⟩
    · exact ⟨last, hlast⟩

/-- An iterator that is finished stays finished. -/
theorem finished {kind : Kind} (h : History l a s sums t)
    (ha : s.get? a = some (.iterator (.finished kind))) :
    t.get? a = some (.iterator (.finished kind)) := by
  induction h with
  | refl => exact ha
  | aside _ _ hiterator ih => exact hiterator.trans ih
  | append _ _ _ hiterator ih => exact hiterator.trans ih
  | sum _ ih => exact (sum_of_finished ih).2.2

/-- What sums have taken, one after the other. -/
def took (a : Addr) (sums : List Store) : List Value := sums.flatMap (·.taken (.ref a))

theorem took_concat (sums : List Store) (c : Store) :
    took a (sums ++ [c]) = took a sums ++ c.taken (.ref a) := by
  simp [took]

/-- **What sums have taken** from a new iterator is a beginning of the list. As long as all of them
have failed, the position of the iterator is the number of elements; otherwise it is finished. -/
theorem takes (h : History l a s sums t) (hl : s.get? l = some (.list items))
    (ha : s.get? a = some (.iterator (.overList l 0))) :
    ∃ longer, t.get? l = some (.list longer) ∧ items <+: longer ∧ took a sums <+: longer ∧
      (t.get? a = some (.iterator (.overList l (took a sums).length)) ∧
          (∀ c ∈ sums, ∃ f, (c.sum (.ref a)).1 = .error f) ∨
        t.get? a = some (.iterator (.finished .listIterator)) ∧
          ∃ c ∈ sums, ∃ n, (c.sum (.ref a)).1 = .ok n) := by
  have hne := ne_of_list_of_iterator hl ha
  induction h with
  | refl => exact ⟨items, hl, List.prefix_rfl, List.nil_prefix, .inl ⟨ha, nofun⟩⟩
  | aside _ hlist hiterator ih =>
    obtain ⟨longer, hlonger, hprefix, htook, hposition⟩ := ih
    rw [← hiterator] at hposition
    exact ⟨longer, hlist.trans hlonger, hprefix, htook, hposition⟩
  | append _ hlist happended hiterator ih =>
    obtain ⟨longer, hlonger, hprefix, htook, hposition⟩ := ih
    cases hlist.symm.trans hlonger
    rw [← hiterator] at hposition
    exact ⟨_, happended, hprefix.trans (List.prefix_append _ _),
      htook.trans (List.prefix_append _ _), hposition⟩
  | @sum sums t _ ih =>
    obtain ⟨longer, hlonger, hprefix, htook, hposition⟩ := ih
    refine ⟨longer, (get?_sum_of_ne hne).trans hlonger, hprefix, ?_⟩
    rw [took_concat]
    rcases hposition with ⟨hposition, hfailed⟩ | ⟨hfinished, c, hc, n, hn⟩
    · obtain ⟨rest, rfl⟩ := htook
      rcases sum_of_position hlonger hposition with
        ⟨n, hn, -, htaken, hafter⟩ | ⟨f, hf, -, htaken, hafter⟩
      · rw [List.drop_left] at htaken
        exact ⟨htaken ▸ List.prefix_rfl, .inr ⟨hafter, t, by simp, n, hn⟩⟩
      · rw [List.drop_left] at htaken
        rw [← List.length_append] at hafter
        refine ⟨(List.prefix_append_right_inj _).2 htaken, .inl ⟨hafter, ?_⟩⟩
        simp only [List.forall_mem_append, List.forall_mem_singleton]
        exact ⟨hfailed, f, hf⟩
    · obtain ⟨-, htaken, hafter⟩ := sum_of_finished hfinished
      rw [htaken, List.append_nil]
      exact ⟨htook, .inr ⟨hafter, c, by simp [hc], n, hn⟩⟩

/-- **Each sum** of a history that begins with a new iterator. Here `before` are the sums before and
`now` is the list as it is then.

* The list only gets longer. What has been taken, with what the sum takes, is a beginning of it.
* If the sum fails, then the last element that it has taken is the one that could not be added.
* If not, then it adds what it has taken, which is all that was left unless a sum before has not
  failed either. After it, sums take nothing and are zero. -/
theorem call {before after : List Store} {c : Store}
    (h : History l a s (before ++ c :: after) t) (hl : s.get? l = some (.list items))
    (ha : s.get? a = some (.iterator (.overList l 0))) :
    ∃ now, c.get? l = some (.list now) ∧
      (∀ longer, t.get? l = some (.list longer) → now <+: longer) ∧
      took a before ++ c.taken (.ref a) <+: now ∧
      (∀ f, (c.sum (.ref a)).1 = .error f → c.FailsAt (c.taken (.ref a)) f) ∧
      ∀ n, (c.sum (.ref a)).1 = .ok n →
        c.sumFrom (.int 0) (c.taken (.ref a)) = .ok n ∧
        ((∀ d ∈ before, ∃ f, (d.sum (.ref a)).1 = .error f) →
          took a before ++ c.taken (.ref a) = now) ∧
        ∀ d ∈ after, (d.sum (.ref a)).1 = .ok (.int 0) ∧ d.taken (.ref a) = [] := by
  obtain ⟨hbefore, hafter⟩ := h.cut
  obtain ⟨now, hnow, -, htook, hposition⟩ := hbefore.takes hl ha
  -- once a sum has not failed, the iterator is finished wherever the history is cut later
  have hlater (hfinished : (c.sum (.ref a)).2.get? a = some (.iterator (.finished .listIterator))) :
      ∀ d ∈ after, (d.sum (.ref a)).1 = .ok (.int 0) ∧ d.taken (.ref a) = [] := by
    intro d hd
    obtain ⟨first, last, rfl⟩ := List.append_of_mem hd
    obtain ⟨hzero, hnothing, -⟩ := sum_of_finished (hafter.cut.1.finished hfinished)
    exact ⟨hzero, hnothing⟩
  refine ⟨now, hnow, fun longer hlonger => ?_, ?_⟩
  · have hne := ne_of_list_of_iterator hl ha
    obtain ⟨list, hlist, hprefix⟩ := hafter.exists_list ((get?_sum_of_ne hne).trans hnow) hne
    cases hlist.symm.trans hlonger
    exact hprefix
  rcases hposition with ⟨hposition, -⟩ | ⟨hfinished, d, hd, n, hn⟩
  · obtain ⟨rest, rfl⟩ := htook
    rcases sum_of_position hnow hposition with
      ⟨n, hn, hadded, htaken, hafterwards⟩ | ⟨f, hf, hfails, htaken, -⟩
    · rw [List.drop_left] at htaken
      refine ⟨htaken ▸ List.prefix_rfl, fun f hf => ?_, fun m hm => ?_⟩
      · rw [hn] at hf
        cases hf
      · cases hn.symm.trans hm
        exact ⟨hadded, fun _ => by rw [htaken], hlater hafterwards⟩
    · rw [List.drop_left] at htaken
      refine ⟨(List.prefix_append_right_inj _).2 htaken, fun g hg => ?_, fun m hm => ?_⟩
      · cases hf.symm.trans hg
        exact hfails
      · rw [hf] at hm
        cases hm
  · obtain ⟨hzero, htaken, hafterwards⟩ := sum_of_finished hfinished
    rw [htaken, List.append_nil]
    refine ⟨htook, fun f hf => ?_, fun m hm => ⟨?_, fun hfailed => ?_, hlater hafterwards⟩⟩
    · rw [hzero] at hf
      cases hf
    · cases hzero.symm.trans hm
      rfl
    · obtain ⟨f, hf⟩ := hfailed d hd
      rw [hn] at hf
      cases hf

end History

end Store

end Walkthrough
