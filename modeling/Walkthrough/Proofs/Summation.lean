import Mathlib.Algebra.BigOperators.Group.List.Basic
import Walkthrough.Proofs.RunOutput

/-!
# Sums of lists

A sum is a left fold: each element is added to the total of those before it, and the first one that
cannot be added ends the sum, whatever stands behind it. So the sum of two lists in a row is that of
the first, gone on with from its total.

As long as no element is a real number, the total stays an integer and the result can be told from
the elements alone. Integers and truth values are added exactly; anything else cannot be added to an
integer, so the first such element is the one that is reported.

## Why real numbers are left out

With a real number among the elements the total becomes real, and from then on it is rounded at each
step. The sum depends on the sequence then, and it is still a left fold, so the first of the results
applies to it. What can be told without going through the fold are sums of integers, and where they
fail.

## Main definitions

* `Value.integer` — the integer that an element adds to a total

## Main results

* `Store.sumFrom_eq_foldlM`, `Store.sumFrom_append` — a sum as a fold
* `Store.sumFrom_eq_error_iff` — where a sum fails
* `Store.sumFrom_of_integral`, `Store.sumFrom_of_not_integral` — sums without real numbers
* `sum_folds_left` — sums of lists
-/

namespace Walkthrough

/-- The integer that a truth value or an integer adds to a total. -/
def Value.integer (v : Value) : Int := v.integer?.getD 0

namespace Value

theorem integer?_eq_integer {v : Value} (h : v.integer?.isSome = true) :
    v.integer? = some v.integer := by
  obtain ⟨n, hn⟩ := Option.isSome_iff_exists.1 h
  rw [integer, hn, Option.getD_some]

/-- What is neither a real number nor an integer or a truth value is no number. -/
theorem number?_eq_none {v : Value} (hreal : ∀ x mark, v ≠ .real x mark) (h : v.integer? = none) :
    v.number? = none := by
  cases v with
  | bool b | int n => cases h
  | real x mark => exact absurd rfl (hreal x mark)
  | _ => rfl

end Value

namespace Store

variable {s : Store} {v : Value} {total t : Number} {items : List Value} {f : Fault}

/-! ### Folds -/

/-- A sum is the left fold of adding an element. -/
theorem sumFrom_eq_foldlM (s : Store) (total : Number) (items : List Value) :
    s.sumFrom total items = items.foldlM s.addElement total := by
  induction items generalizing total with
  | nil => rfl
  | cons v rest ih =>
    rw [sumFrom, List.foldlM_cons]
    rcases s.addElement total v with f | t
    · rfl
    · exact ih t

/-- Two lists in a row are summed one after the other. -/
theorem sumFrom_append (s : Store) (total : Number) (xs ys : List Value) :
    s.sumFrom total (xs ++ ys) = (s.sumFrom total xs).bind fun t => s.sumFrom t ys := by
  simp only [sumFrom_eq_foldlM, List.foldlM_append]
  rfl

/-- What stands behind an element that cannot be added makes no difference. -/
theorem sumFrom_append_of_error (h : s.sumFrom total items = .error f) (ys : List Value) :
    s.sumFrom total (items ++ ys) = .error f := by
  rw [sumFrom_append, h]
  rfl

theorem sumFrom_append_of_ok (h : s.sumFrom total items = .ok t) (ys : List Value) :
    s.sumFrom total (items ++ ys) = s.sumFrom t ys := by
  rw [sumFrom_append, h]
  rfl

/-- A sum fails at the first element that cannot be added to the total of those before it. -/
theorem sumFrom_eq_error_iff :
    s.sumFrom total items = .error f ↔
      ∃ before x after t, items = before ++ x :: after ∧ s.sumFrom total before = .ok t ∧
        s.addElement t x = .error f := by
  constructor
  · intro h
    induction items generalizing total with
    | nil => cases h
    | cons v rest ih =>
      rw [sumFrom] at h
      rcases hadd : s.addElement total v with g | t
      · rw [hadd] at h
        cases h
        exact ⟨[], v, rest, total, rfl, rfl, hadd⟩
      · rw [hadd] at h
        obtain ⟨before, x, after, u, rfl, hbefore, hx⟩ := ih h
        refine ⟨v :: before, x, after, u, rfl, ?_, hx⟩
        rw [sumFrom, hadd]
        exact hbefore
  · rintro ⟨before, x, after, t, rfl, hbefore, hx⟩
    rw [sumFrom_append_of_ok hbefore, sumFrom, hx]

/-! ### Sums without real numbers -/

/-- Integers and truth values are added exactly. -/
theorem sumFrom_of_integral (h : ∀ x ∈ items, x.integer?.isSome = true) (m : Int) :
    s.sumFrom (.int m) items = .ok (.int (m + (items.map Value.integer).sum)) := by
  have hitems : items.map Value.integer? = (items.map Value.integer).map some := by
    rw [List.map_map]
    exact List.map_congr_left fun x hx => Value.integer?_eq_integer (h x hx)
  exact sumFrom_of_integers hitems m

/-- The first element that is no integer and no truth value ends the sum. -/
theorem sumFrom_of_not_integral {before after : List Value} {x : Value} (m : Int)
    (hbefore : ∀ y ∈ before, y.integer?.isSome = true) (hx : x.number? = none) :
    s.sumFrom (.int m) (before ++ x :: after) = .error (.notAddable .int (s.kind x)) := by
  rw [sumFrom_append_of_ok (sumFrom_of_integral hbefore m), sumFrom, addElement, hx]
  rfl

/-- A list either has integers and truth values only, or a first element that is neither. -/
theorem integral_or_first (items : List Value) :
    (∀ x ∈ items, x.integer?.isSome = true) ∨
      ∃ before x after, items = before ++ x :: after ∧
        (∀ y ∈ before, y.integer?.isSome = true) ∧ x.integer? = none := by
  induction items with
  | nil => exact .inl nofun
  | cons v rest ih =>
    rcases hv : v.integer? with _ | n
    · exact .inr ⟨[], v, rest, rfl, nofun, hv⟩
    have hsome : v.integer?.isSome = true := by rw [hv, Option.isSome_some]
    rcases ih with hrest | ⟨before, x, after, rfl, hbefore, hx⟩
    · exact .inl (List.forall_mem_cons.2 ⟨hsome, hrest⟩)
    · exact .inr ⟨v :: before, x, after, rfl, List.forall_mem_cons.2 ⟨hsome, hbefore⟩, hx⟩

/-! ### What is summed -/

/-- A sum begins at zero. -/
theorem fst_sum_of_elements (h : s.elements v = .ok items) :
    (s.sum v).1 = s.sumFrom (.int 0) items := by
  rw [sum, h]

/-- The elements that an object gives. -/
theorem elements_of_cell? {c : Cell} (h : s.cell? v = some c) :
    s.elements v =
      match c with
      | .list items | .tuple items => .ok items
      | .dict entries => .ok (entries.map (·.1))
      | .iterator it => it.ahead s
      | .record _ => .error (.notIterable (s.kind v)) := by
  cases v with
  | ref a | description d => cases c <;> simp only [elements, h]
  | _ => cases h

theorem fst_sum_of_list (h : s.cell? v = some (.list items)) :
    (s.sum v).1 = s.sumFrom (.int 0) items :=
  fst_sum_of_elements (elements_of_cell? h)

end Store

/-- **Sums of lists.** Whatever the elements of a list are,

* if its sum fails, then that of the list with any further elements fails in the same way, and if
  not, then the further elements are added to it from left to right;
* if no element is a real number, then it has a sum if all are integers and truth values, and only
  then;
* that sum is exact, and the same for the same elements in another order;
* the first element that is neither ends the sum, as its kind cannot be added to an integer. -/
theorem sum_folds_left (s : Store) (v : Value) (xs : List Value)
    (hv : s.cell? v = some (.list xs)) :
    (∀ w ys, s.cell? w = some (.list (xs ++ ys)) →
      (∀ f, (s.sum v).1 = .error f → (s.sum w).1 = .error f) ∧
        ∀ t, (s.sum v).1 = .ok t → (s.sum w).1 = ys.foldlM s.addElement t) ∧
    ((∀ x mark, .real x mark ∉ xs) →
      ((∃ t, (s.sum v).1 = .ok t) ↔ ∀ x ∈ xs, x.integer?.isSome = true) ∧
      ((∀ x ∈ xs, x.integer?.isSome = true) →
        (s.sum v).1 = .ok (.int (xs.map Value.integer).sum) ∧
          ∀ w ys, s.cell? w = some (.list ys) → ys.Perm xs → (s.sum w).1 = (s.sum v).1) ∧
      ∀ before x after, xs = before ++ x :: after →
        (∀ y ∈ before, y.integer?.isSome = true) → x.integer? = none →
        ∃ f, (s.sum v).1 = .error f ∧ f.category = .kind ∧
          f.message s = "unsupported operand type(s) for +=: 'int' and '" ++ (s.kind x).name ++
            "'") := by
  have hsum := Store.fst_sum_of_list hv
  have hintegral {u : Value} {items : List Value} (hu : s.cell? u = some (.list items))
      (h : ∀ x ∈ items, x.integer?.isSome = true) :
      (s.sum u).1 = .ok (.int (items.map Value.integer).sum) := by
    rw [Store.fst_sum_of_list hu, Store.sumFrom_of_integral h, zero_add]
  refine ⟨fun w ys hw => ⟨fun f hf => ?_, fun t ht => ?_⟩, fun hreal => ?_⟩
  · rw [hsum] at hf
    rw [Store.fst_sum_of_list hw, Store.sumFrom_append_of_error hf]
  · rw [hsum] at ht
    rw [Store.fst_sum_of_list hw, Store.sumFrom_append_of_ok ht, Store.sumFrom_eq_foldlM]
  have hfirst {before after : List Value} {x : Value} (hxs : xs = before ++ x :: after)
      (hbefore : ∀ y ∈ before, y.integer?.isSome = true) (hx : x.integer? = none) :
      (s.sum v).1 = .error (.notAddable .int (s.kind x)) := by
    have hnumber : x.number? = none := by
      refine Value.number?_eq_none (fun y mark hy => hreal y mark ?_) hx
      rw [hxs, ← hy]
      exact List.mem_append_right _ List.mem_cons_self
    rw [hsum, hxs, Store.sumFrom_of_not_integral 0 hbefore hnumber]
  refine ⟨⟨?_, fun h => ⟨_, hintegral hv h⟩⟩, fun h => ⟨hintegral hv h, fun w ys hw hperm => ?_⟩, ?_⟩
  · rintro ⟨t, ht⟩
    rcases Store.integral_or_first xs with h | ⟨before, x, after, hxs, hbefore, hx⟩
    · exact h
    · rw [hfirst hxs hbefore hx] at ht
      cases ht
  · have hys : ∀ y ∈ ys, y.integer?.isSome = true := fun y hy => h y (hperm.mem_iff.1 hy)
    rw [hintegral hw hys, hintegral hv h, (hperm.map Value.integer).sum_eq]
  · intro before x after hxs hbefore hx
    exact ⟨_, hfirst hxs hbefore hx, rfl, rfl⟩

/-- Integers beyond a machine word and a truth value, in two orders, and a text behind them. -/
theorem sum_folds_left_of_text :
    let numbers : List Value := [.int (2 ^ 70), .bool true, .int (-3)]
    let s : Store :=
      { cells := #[.list numbers, .list (numbers ++ [.text "a", .null]), .list numbers.reverse] }
    (s.sum (.ref 0)).1 = .ok (.int (2 ^ 70 - 2)) ∧ (s.sum (.ref 2)).1 = (s.sum (.ref 0)).1 ∧
      (s.sum (.ref 1)).1 = [.text "a", .null].foldlM s.addElement (.int (2 ^ 70 - 2)) ∧
      ∃ f, (s.sum (.ref 1)).1 = .error f ∧ f.category = .kind ∧
        f.message s = "unsupported operand type(s) for +=: 'int' and 'str'" := by
  intro numbers s
  have hnumbers : ∀ x ∈ numbers, x.integer?.isSome = true := by decide
  obtain ⟨happend, hplain⟩ := sum_folds_left s (.ref 0) numbers rfl
  obtain ⟨-, hsum, -⟩ := hplain (by simp [numbers])
  obtain ⟨-, hlonger⟩ := sum_folds_left s (.ref 1) (numbers ++ [.text "a", .null]) rfl
  obtain ⟨-, -, hfirst⟩ := hlonger (by simp [numbers])
  have htotal : (s.sum (.ref 0)).1 = .ok (.int (2 ^ 70 - 2)) := (hsum hnumbers).1
  exact ⟨htotal, (hsum hnumbers).2 (.ref 2) _ rfl (List.reverse_perm _),
    (happend (.ref 1) _ rfl).2 _ htotal, hfirst numbers (.text "a") [.null] rfl hnumbers rfl⟩

end Walkthrough
