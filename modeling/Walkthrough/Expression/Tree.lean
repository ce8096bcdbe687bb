import Walkthrough.Expression.Pattern
import Walkthrough.Expression.Template

/-!
# Looking at trees

## Main definitions

* `Expression.Tree.formName` — what an expression is called where it has no place
* `Expression.Tree.strayTarget?` — the part of an expression that nothing can be assigned to
* `Expression.positionals`, `Expression.hasUnpacking` — the arguments of a call
-/

namespace Walkthrough.Expression

/-- The token of a tree that is one. -/
def Tree.token? : Tree → Option Token
  | .leaf t => some t
  | .node _ _ => none

/-- Whether a tree is a single token with a spelling, in plain letters. -/
def Tree.isSpelled (tree : Tree) (spelling : String) : Bool :=
  tree.token?.any (·.plainSpelling == spelling)

/-- The text that a tree is, if it is a token. -/
def Tree.quotation? (tree : Tree) : Option Quotation :=
  match tree with
  | .leaf t => if t.kind = .text then some (.ofSpelling t.spelling.toList) else none
  | .node _ _ => none

/-- What a token is called where it stands for an expression. -/
def Token.formName (t : Token) : String :=
  match t.kind with
  | .name => "name"
  | .text =>
    if (Quotation.ofSpelling t.spelling.toList).isTemplate then "f-string expression"
    else "literal"
  | .symbol =>
    if t.spelling = "..." then "ellipsis"
    else if t.spelling = "yield" then "yield expression"
    else t.spelling
  | _ => "literal"

/-- What an expression is called where it has no place. -/
def Tree.formName : Tree → String
  | .leaf t => t.formName
  | .node form parts =>
    match form with
    | .tuple => "tuple"
    | .set => "set display"
    | .dictionary => "dict literal"
    | .setComprehension => "set comprehension"
    | .dictionaryComprehension => "dict comprehension"
    | .generator => "generator expression"
    | .starred => "starred"
    | .suffixed =>
      if (parts.getLast?.bind Tree.token?).any (·.kind = .name) then "attribute"
      else "function call"
    | .awaited => "await expression"
    | .comparison => "comparison"
    | .conditional => "conditional expression"
    | .lambda => "lambda"
    | .assignment => "named expression"
    | .yielding => "yield expression"
    | .texts =>
      if (parts.filterMap Tree.quotation?).any (·.isTemplate) then "f-string expression"
      else "literal"
    | .pair | .unpackedPair | .clauses | .arguments | .keyword | .unpackedKeyword
    | .operation => "expression"

mutual

/-- The part of an expression that nothing can be assigned to, where it stands before `in`. -/
def Tree.strayTarget? : Tree → Option Tree
  | .leaf t => if t.kind = .name then none else some (.leaf t)
  | .node .tuple parts => strayTargetIn? parts
  | .node .starred parts => strayTargetIn? parts
  | .node .comparison (left :: .leaf sign :: _) =>
    if sign.spelling = "in" then left.strayTarget? else none
  | .node .comparison _ => none
  | .node form parts =>
    if form = .suffixed ∧ (Tree.node form parts).formName = "attribute" then none
    else some (.node form parts)

/-- The first such part of several expressions. -/
def strayTargetIn? : List Tree → Option Tree
  | [] => none
  | tree :: rest =>
    match tree.strayTarget? with
    | some stray => some stray
    | none => strayTargetIn? rest

end

/-- The arguments of a call. -/
def Tree.argumentList : Tree → List Tree
  | .node .arguments parts => parts
  | tree => [tree]

/-- Whether an argument has a name. -/
def Tree.isNamed : Tree → Bool
  | .node .keyword _ => true
  | .node .unpackedKeyword _ => true
  | _ => false

/-- Whether an argument stands for several with names. -/
def Tree.isUnpacked : Tree → Bool
  | .node .unpackedKeyword _ => true
  | _ => false

/-- The number of arguments without a name. -/
def positionals (arguments : Tree) : Nat :=
  (arguments.argumentList.filter (!·.isNamed)).length

/-- Whether an argument stands for several with names. -/
def hasUnpacking (arguments : Tree) : Bool := arguments.argumentList.any Tree.isUnpacked

end Walkthrough.Expression
