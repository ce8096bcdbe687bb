import Walkthrough.Expression.Quotation

/-!
# Templates

A template is a text that holds expressions in braces. Behind an expression may stand an equals
sign, a conversion and a format, which is a template again; it goes no deeper than that. A brace
that is meant as such is written twice, outside of formats.

A template is read from left to right. The parts between the expressions are texts, in which
backslashes count unless the template is raw; an expression holds no backslash and no comment.

## Main definitions

* `Expression.literalPart` — the text in front of the next expression
* `Expression.expressionPart` — where an expression ends
* `Expression.templateProblem?` — what is wrong with a template
-/

namespace Walkthrough.Expression

/-- Where in a text a character stands, as far as a brace may mean something else there. -/
inductive Surrounding
  | plain
  /-- Behind a backslash. -/
  | escaped
  /-- Behind a backslash and the letter for a name. -/
  | beforeName
  | inName

/-- The text in front of the next brace that counts, whether that brace is a doubled one, which
belongs to the text once, and what follows. In a format every brace counts. -/
def literalPart (isRaw isFormat : Bool) :
    Surrounding → List Char → Except Problem (List Char × Bool × List Char)
  | _, [] => .ok ([], false, [])
  | surrounding, c :: cs =>
    let goOn (next : Surrounding) : Except Problem (List Char × Bool × List Char) := do
      let (text, isDoubled, rest) ← literalPart isRaw isFormat next cs
      return (c :: text, isDoubled, rest)
    let unlessBrace : Except Problem (List Char × Bool × List Char) :=
      if c ≠ '\x7b' ∧ c ≠ '\x7d' then goOn .plain
      else if isFormat then .ok ([], false, c :: cs)
      else if cs.head? = some c then .ok ([c], true, cs.drop 1)
      else if c = '\x7d' then .error (.template .strayBrace)
      else .ok ([], false, c :: cs)
    match surrounding with
    | .plain => if c = '\\' ∧ !isRaw ∧ !cs.isEmpty then goOn .escaped else unlessBrace
    | .escaped => if c = 'N' then goOn .beforeName else unlessBrace
    | .beforeName => goOn (if c = '\x7b' then .inName else .plain)
    | .inName => goOn (if c = '\x7d' then .plain else .inName)

/-- What is open in an expression: the quote of a text, with whether three of them close it, and the
brackets, the innermost first. -/
structure Scan where
  quote : Option (Char × Bool) := none
  brackets : List Char := []

/-- The rest of a template from the character that ends an expression, and what is open there. The
number tells how many characters are passed over. -/
def expressionPart : Nat → Scan → List Char → Except TemplateProblem (Scan × List Char)
  | _, scan, [] => .ok (scan, [])
  | skipped + 1, scan, _ :: cs => expressionPart skipped scan cs
  | 0, scan, c :: cs =>
    if c = '\\' then .error .backslash
    else
      match scan.quote with
      | some (q, isLong) =>
        if c ≠ q then expressionPart 0 scan cs
        else if !isLong then expressionPart 0 { scan with quote := none } cs
        else if [q, q].isPrefixOf cs then expressionPart 2 { scan with quote := none } cs
        else expressionPart 0 scan cs
      | none =>
        if c = '\'' ∨ c = '"' then
          if [c, c].isPrefixOf cs then expressionPart 2 { scan with quote := some (c, true) } cs
          else expressionPart 0 { scan with quote := some (c, false) } cs
        else if c = '(' ∨ c = '[' ∨ c = '\x7b' then
          if 200 ≤ scan.brackets.length then .error .tooManyBrackets
          else expressionPart 0 { scan with brackets := c :: scan.brackets } cs
        else if c = '#' then .error .comment
        else if scan.brackets = [] ∧ c ∈ ['!', ':', '\x7d', '=', '<', '>'] then
          if c ∈ ['!', '=', '<', '>'] ∧ cs.head? = some '=' then expressionPart 1 scan cs
          else if c = '<' ∨ c = '>' then expressionPart 0 scan cs
          else .ok (scan, c :: cs)
        else
          match openingOf c, scan.brackets with
          | none, _ => expressionPart 0 scan cs
          | some _, [] => .error (.unmatched c)
          | some wanted, opening :: outer =>
            if opening = wanted then expressionPart 0 { scan with brackets := outer } cs
            else .error (.mismatched c opening)

/-- An expression at the beginning of the characters, and what follows. -/
def takeExpression (cs : List Char) : Except TemplateProblem (List Char × List Char) := do
  let (scan, rest) ← expressionPart 0 {} cs
  if scan.quote.isSome then .error .unterminatedText
  else
    match scan.brackets, rest with
    | opening :: _, _ => .error (.unmatched opening)
    | [], [] => .error .missingBrace
    | [], ending :: _ =>
      let expression := cs.take (cs.length - rest.length)
      if expression.all fun c => c ∈ [' ', '\t', '\n', '\x0c'] then
        if ending = '\x7d' then .error .emptyExpression else .error (.missingExpression ending)
      else .ok (expression, rest)

/-- What follows an equals sign and the blanks behind it, if one is there. -/
def afterEquals (cs : List Char) : Except TemplateProblem (List Char) :=
  match cs with
  | '=' :: rest =>
    let rest := rest.dropWhile fun c => c = ' ' ∨ ('\t' ≤ c ∧ c ≤ '\r')
    if rest.isEmpty then .error .missingBrace else .ok rest
  | _ => .ok cs

/-- What follows a conversion, if one is there. -/
def afterConversion (cs : List Char) : Except TemplateProblem (List Char) :=
  match cs with
  | ['!'] => .error .missingBrace
  | '!' :: c :: rest => if c ∈ ['s', 'r', 'a'] then .ok rest else .error .unknownConversion
  | _ => .ok cs

/-- What follows an expression in braces, behind the opening one, given what is wrong with an
expression and what follows a format. -/
def afterField (expression? : List Char → Option Problem)
    (afterFormat : List Char → Except Problem (List Char)) (cs : List Char) :
    Except Problem (List Char) := do
  let (expression, rest) ← (takeExpression cs).mapError .template
  match expression? expression with
  | some problem => throw problem
  | none =>
    let rest ← (afterEquals rest >>= afterConversion).mapError .template
    let rest ←
      match rest with
      | [':'] => throw (.template .missingBrace)
      | ':' :: format => afterFormat format
      | _ => pure rest
    match rest with
    | '\x7d' :: after => return after
    | _ => throw (.template .missingBrace)

/-- What follows a template, given what is wrong with an expression: nothing, or the brace that ends
a format. The first number bounds the parts, and the second tells how deep formats stand in each
other. -/
def afterTemplate (expression? : List Char → Option Problem) (isRaw : Bool) :
    Nat → Nat → List Char → Except Problem (List Char)
  | 0, _, cs => .ok cs
  | fuel + 1, level, cs => do
    let (text, isDoubled, rest) ← literalPart isRaw (0 < level) .plain cs
    match if isRaw then none else codesProblem? 0 text with
    | some problem => throw problem
    | none =>
      if isDoubled then afterTemplate expression? isRaw fuel level rest
      else
        match rest with
        | [] => if level = 0 then return [] else throw (.template .missingBrace)
        | '\x7d' :: _ => return rest
        | _ :: field =>
          if 2 ≤ level then throw (.template .tooDeep)
          else
            let after ← afterField expression? (afterTemplate expression? isRaw fuel (level + 1))
              field
            afterTemplate expression? isRaw fuel level after

/-- What is wrong with a template, given what is wrong with an expression. -/
def templateProblem? (expression? : List Char → Option Problem) (t : Quotation) : Option Problem :=
  match afterTemplate expression? t.isRaw (t.chars.length + 1) 0 t.chars with
  | .ok _ => none
  | .error problem => some problem

end Walkthrough.Expression
