import Walkthrough.Expression.Tree

/-!
# The grammar of expressions

An argument is one expression, or several with commas between. Expressions are conditionals,
lambdas, and operations by their precedence; the tightest are names, numerals, texts and what
stands in brackets. There are no lists and no indices, for an argument holds no square brackets.

Some patterns match nothing and find problems: they tell of mistakes that are easily made, in the
words of the mistake.

## Main definitions

* `Expression.Rule` — the rules
* `Expression.Rule.pattern`, `Expression.grammar` — their patterns
* `Expression.textsProblem?` — what is wrong with adjacent texts
* `Expression.parse` — reads an argument
-/

namespace Walkthrough.Expression

/-- The rules of the grammar. -/
inductive Rule
  | argument
  | fieldExpression
  | expressions
  | expression
  | plainExpression
  | yielding
  | starExpressions
  | starExpression
  | elements
  | element
  | assignment
  | named
  | disjunction
  | conjunction
  | inversion
  | comparison
  | alternation
  | exclusion
  | intersection
  | shift
  | sum
  | term
  | factor
  | power
  | awaited
  | primary
  | atom
  | texts
  | group
  | tuple
  | set
  | dictionary
  | entries
  | entry
  | pair
  | clauses
  | clause
  | setComprehension
  | generator
  | dictionaryComprehension
  | callArguments
  | arguments
  | keywords
  | starred
  | keywordOrStarred
  | keywordOrUnpacked
  | targets
  | target
  | plainTarget
  | atomTarget
  | ownerOfTarget
  | lambda
  | parameters
  | slashPlain
  | slashDefault
  | starParameters
  | keywordParameters
  | plainParameter
  | defaultParameter
  | eitherParameter
  | defaultValue
deriving BEq, Hashable

namespace Rule

instance : Coe String (Pattern Rule) := ⟨.symbol⟩

instance : Coe Rule (Pattern Rule) := ⟨.rule⟩

open Pattern

/-- A name. -/
def name : Pattern Rule := .kind .name

/-- An opening brace. -/
def leftBrace : Pattern Rule := "\x7b"

/-- A closing brace. -/
def rightBrace : Pattern Rule := "\x7d"

/-- A comma, which leaves nothing behind. -/
def comma : Pattern Rule := .drop ","

/-- The signs that compare, with what they are compared to. -/
def comparisons : Pattern Rule :=
  .any [.all ["==", alternation], .all ["!=", alternation], .all ["<=", alternation],
    .all ["<", alternation], .all [">=", alternation], .all [">", alternation],
    .all ["not", "in", alternation], .all ["in", alternation],
    .all ["is", "not", alternation], .all ["is", alternation]]

/-- Operations of one precedence, with the operands of the next. -/
def chain (signs : List String) (operand : Rule) : Pattern Rule :=
  .join .operation (.all [operand, .many (.all [.any (signs.map .symbol), operand])])

/-- A position that no equals sign follows. -/
def noEquals : Pattern Rule := .notAhead (.any ["=", ":="])

/-- What an element of a call may be. -/
def plainArgument : Pattern Rule := .any [assignment, .all [expression, .notAhead ":="]]

/-- Arguments without names. -/
def plainArguments : Pattern Rule :=
  .separated comma (.any [starred, .all [plainArgument, .notAhead "="]])

/-- What may follow the target of a comprehension. -/
def conditions : Pattern Rule := .all [disjunction, .many (.all ["if", disjunction])]

/-- The end of a parameter. -/
def parameterEnd : Pattern Rule := .any [",", .ahead ":"]

/-! ### What is wrong with expressions -/

/-- Two expressions without a comma in brackets, unless the first names an operation that once
took no parentheses. -/
def commaProblem? (trees : List Tree) (level : Nat) : Option Problem :=
  if level = 0 ∨ trees.head?.any fun t => t.isSpelled "print" || t.isSpelled "exec" then none
  else some .forgottenComma

/-- An operation that once took no parentheses. -/
def parenthesesProblem? (trees : List Tree) (_ : Nat) : Option Problem :=
  match trees with
  | .leaf t :: _ =>
    let name := t.plainSpelling
    if name = "print" ∨ name = "exec" then some (.missingParentheses name) else none
  | _ => none

/-- A problem that names the form of the first tree. -/
def formProblem (problem : String → Problem) (trees : List Tree) (_ : Nat) : Option Problem :=
  trees.head?.map fun tree => problem tree.formName

/-- A target that nothing can be assigned to. -/
def targetProblem? (trees : List Tree) (_ : Nat) : Option Problem :=
  (trees.getLast?.bind Tree.strayTarget?).map fun stray => .notAssignable stray.formName

/-- A generator behind other arguments. -/
def generatorProblem? (trees : List Tree) (_ : Nat) : Option Problem :=
  match trees with
  | called :: _ => if positionals called ≤ 1 then none else some .unparenthesizedGenerator
  | [] => none

/-- An argument without a name behind one that has one. -/
def orderProblem (trees : List Tree) (_ : Nat) : Option Problem :=
  some (if trees.head?.any hasUnpacking then .positionalAfterDoubleStarred
    else .positionalAfterKeyword)

/-- A decimal integer with too many digits. -/
def numeralProblem? (trees : List Tree) (_ : Nat) : Option Problem :=
  match trees with
  | .leaf t :: _ =>
    let digits := t.spelling.toList.filter (· ≠ '_')
    if digits.all Char.isDigit ∧ 4300 < digits.length then some (.numeralTooLong digits.length)
    else none
  | _ => none

/-- What is wrong with an expression. -/
def expressionProblems : Pattern Rule :=
  .any
    [.reject commaProblem?
      [.notAhead (.any [.all [name, .kind .text], .oneOf ["_", "case", "match"]]), disjunction,
       plainExpression],
     .wrong .missingElse [disjunction, "if", disjunction, .notAhead (.any ["else", ":"])]]

/-- What is wrong with a call without parentheses. -/
def callProblems : Pattern Rule :=
  .reject parenthesesProblem? [name, .notAhead "(", starExpressions]

/-- What is wrong with an expression that may be given a name. -/
def namedProblems : Pattern Rule :=
  .any
    [.reject (formProblem .notNameable) [expression, ":=", expression],
     .wrong .equalsSign [name, "=", alternation, noEquals],
     .reject (formProblem .notComparable)
      [.notAhead (.any [tuple, generator, "True", "None", "False"]), alternation, "=",
       alternation, noEquals]]

/-- What is wrong with an expression in parentheses. -/
def groupProblems : Pattern Rule :=
  .any [.wrong .starred ["(", starred, ")"], .wrong .doubleStarred ["(", "**", expression, ")"]]

/-- What is wrong with a comprehension. -/
def comprehensionProblems : Pattern Rule :=
  .any
    [.wrong .starredInComprehension [.any ["(", leftBrace], starred, clauses],
     .wrong .bareComprehensionTarget [leftBrace, element, ",", elements, clauses],
     .wrong .bareComprehensionTarget [leftBrace, element, ",", clauses]]

/-- What is wrong with an entry behind others. -/
def entryProblems : Pattern Rule :=
  .any
    [.wrong .missingColon [expression, .notAhead ":"],
     .wrong .starredEntry [expression, ":", "*", alternation],
     .wrong .missingEntry [expression, ":", .ahead (.any [rightBrace, ","])]]

/-- What is wrong with the entries of a dictionary. -/
def entriesProblems : Pattern Rule :=
  .any
    [.all [.separated "," entry, ",", entryProblems],
     .wrong .starredEntry [expression, ":", "*", alternation],
     .wrong .missingEntry [expression, ":", .ahead (.any [rightBrace, ","])]]

/-- What is wrong with the arguments of a call. -/
def argumentsProblems : Pattern Rule :=
  .any
    [.wrong .starredAfterDoubleStarred [arguments, ",", "*"],
     .wrong .unparenthesizedGenerator
      [expression, clauses, ",", .optional (.any [arguments, .all [expression, clauses]])],
     .wrong .equalsSign [name, "=", expression, clauses],
     .reject generatorProblem? [arguments, clauses],
     .wrong .unparenthesizedGenerator [arguments, ",", expression, clauses],
     .reject orderProblem [arguments, ",", arguments]]

/-- What is wrong with an argument that has a name. -/
def keywordProblems : Pattern Rule :=
  .any
    [.reject (formProblem .notAssignable) [.any ["True", "False", "None"], "="],
     .wrong .equalsSign [name, "=", expression, clauses],
     .wrong .assignmentInCall [.notAhead (.all [name, "="]), expression, "="]]

/-- What is wrong with the parameters of a lambda. -/
def parametersProblems : Pattern Rule :=
  .any
    [.wrong .defaultBeforeNone
      [.many plainParameter, .any [slashDefault, .several defaultParameter], plainParameter],
     .wrong .parenthesizedParameters
      [.many plainParameter, "(", .separated "," name, .optional ",", ")"],
     .wrong .leadingSlash ["/", ","],
     .wrong .repeatedSlash [.any [slashPlain, slashDefault], .many eitherParameter, "/"],
     .wrong .slashAfterStar
      [.optional (.any [slashPlain, slashDefault]), .many eitherParameter, "*",
       .any [",", plainParameter], .many eitherParameter, "/"],
     .wrong .missingCommaAfterSlash [.several eitherParameter, "/", "*"]]

/-- What is wrong with a starred parameter. -/
def starProblems : Pattern Rule :=
  .any
    [.wrong .nothingAfterStar ["*", .any [":", .all [",", .any [":", "**"]]]],
     .wrong .defaultOfStarred ["*", name, "="],
     .wrong .repeatedStar
      ["*", .any [plainParameter, ","], .many eitherParameter, "*", .any [plainParameter, ","]]]

/-- What is wrong with a doubly starred parameter. -/
def keywordParameterProblems : Pattern Rule :=
  .any
    [.wrong .defaultOfDoubleStarred ["**", name, "="],
     .wrong .parameterAfterDoubleStarred ["**", name, ",", name],
     .wrong .parameterAfterDoubleStarred ["**", name, ",", .any ["*", "**", "/"]]]

/-! ### The rules -/

/-- Several of a rule with commas between, or one with a comma behind it; else a single one. -/
def listOf (item : Rule) : Pattern Rule :=
  .any
    [.make .tuple (.all [item, .several (.all [comma, item]), .optional comma]),
     .make .tuple (.all [item, comma]),
     item]

/-- A conditional, an operation or a lambda. -/
def conditional : List (Pattern Rule) :=
  [.make .conditional (.all [disjunction, "if", disjunction, "else", expression]), disjunction,
   lambda]

/-- What a rule says, given what is wrong with adjacent texts. -/
def pattern (texts? : List Quotation → Option Problem) : Rule → Pattern Rule
  | argument => .all [expressions, .many (.drop (.kind .newline)), .drop (.kind .finish)]
  | fieldExpression => starExpressions
  | expressions => listOf expression
  | expression => .any (.careful expressionProblems :: .careful callProblems :: conditional)
  | plainExpression => .carefree (.any conditional)
  | yielding =>
    .any
      [.make .yielding (.all ["yield", "from", expression]),
       .make .yielding (.all ["yield", .optional starExpressions])]
  | starExpressions => listOf starExpression
  | starExpression => .any [.make .starred (.all [.drop "*", alternation]), expression]
  | elements => .all [.separated comma element, .optional comma]
  | element => .any [.make .starred (.all [.drop "*", alternation]), named]
  | assignment => .make .assignment (.all [name, ":=", expression])
  | named => .any [assignment, .careful namedProblems, .all [expression, .notAhead ":="]]
  | disjunction =>
    .any
      [.make .operation (.all [conjunction, .several (.all ["or", conjunction])]), conjunction]
  | conjunction =>
    .any [.make .operation (.all [inversion, .several (.all ["and", inversion])]), inversion]
  | inversion => .any [.make .operation (.all ["not", inversion]), comparison]
  | comparison => .any [.make .comparison (.all [alternation, .several comparisons]), alternation]
  | alternation => chain ["|"] exclusion
  | exclusion => chain ["^"] intersection
  | intersection => chain ["&"] shift
  | shift => chain ["<<", ">>"] sum
  | sum => chain ["+", "-"] term
  | term => chain ["*", "/", "//", "%", "@"] factor
  | factor => .any [.make .operation (.all [.any ["+", "-", "~"], factor]), power]
  | power => .any [.make .operation (.all [awaited, "**", factor]), awaited]
  | awaited => .any [.make .awaited (.all ["await", primary]), primary]
  | primary =>
    .join .suffixed
      (.all [atom,
        .many (.any
          [.all [".", name], generator, .all ["(", .optional callArguments, ")"]])])
  | atom =>
    .any
      [name, "True", "False", "None", .all [.ahead (.kind .text), texts],
       .check numeralProblem? (.kind .number),
       .all [.ahead "(", .any [tuple, group, generator]],
       .all [.ahead leftBrace, .any [dictionary, set, dictionaryComprehension, setComprehension]],
       "..."]
  | texts =>
    .join .texts
      (.check (fun trees _ => texts? (trees.filterMap Tree.quotation?)) (.several (.kind .text)))
  | group =>
    .any [.all [.drop "(", .any [yielding, named], .drop ")"], .careful groupProblems]
  | tuple =>
    .make .tuple
      (.all [.drop "(", .optional (.all [element, comma, .optional elements]), .drop ")"])
  | set => .make .set (.all [.drop leftBrace, elements, .drop rightBrace])
  | dictionary =>
    .any
      [.make .dictionary (.all [.drop leftBrace, .optional entries, .drop rightBrace]),
       .all [leftBrace, entriesProblems, rightBrace]]
  | entries => .all [.separated comma entry, .optional comma]
  | entry => .any [.make .unpackedPair (.all ["**", alternation]), pair]
  | pair => .make .pair (.all [expression, .drop ":", expression])
  | clauses => .make .clauses (.several clause)
  | clause =>
    .committed (.all ["async", "for", targets, "in"]) conditions
      (.committed (.all ["for", targets, "in"]) conditions
        (.careful (.reject targetProblem? [.optional "async", "for", starExpressions])))
  | setComprehension =>
    .any
      [.make .setComprehension (.all [leftBrace, named, clauses, rightBrace]),
       .careful comprehensionProblems]
  | generator =>
    .any
      [.make .generator (.all ["(", plainArgument, clauses, ")"]), .careful comprehensionProblems]
  | dictionaryComprehension =>
    .any
      [.make .dictionaryComprehension (.all [leftBrace, pair, clauses, rightBrace]),
       .careful
        (.wrong .doubleStarredInComprehension
          [leftBrace, "**", alternation, clauses, rightBrace])]
  | callArguments =>
    .any [.all [arguments, .optional ",", .ahead ")"], .careful argumentsProblems]
  | arguments =>
    .make .arguments
      (.any
        [.all [plainArguments, .optional (.all [comma, keywords])], keywords])
  | keywords =>
    .any
      [.all
        [.separated comma keywordOrStarred, comma, .separated comma keywordOrUnpacked],
       .separated comma keywordOrStarred, .separated comma keywordOrUnpacked]
  | starred => .make .starred (.all [.drop "*", expression])
  | keywordOrStarred =>
    .any [.careful keywordProblems, .make .keyword (.all [name, "=", expression]), starred]
  | keywordOrUnpacked =>
    .any
      [.careful keywordProblems, .make .keyword (.all [name, "=", expression]),
       .make .unpackedKeyword (.all ["**", expression])]
  | targets =>
    .any
      [.all [target, .notAhead ","],
       .all [target, .many (.all [",", target]), .optional ","]]
  | target => .any [.all ["*", .notAhead "*", target], plainTarget]
  | plainTarget =>
    .any [.all [ownerOfTarget, ".", name, .notAhead (.any ["(", "."])], atomTarget]
  | atomTarget =>
    .any
      [name, .all ["(", plainTarget, ")"],
       .all
        ["(",
         .optional
          (.any [.all [target, .several (.all [",", target]), .optional ","],
            .all [target, ","]]),
         ")"]]
  | ownerOfTarget =>
    .all
      [atom, .ahead (.any ["(", "."]),
       .many
        (.all
          [.any [.all [".", name], generator, .all ["(", .optional callArguments, ")"]],
           .ahead (.any ["(", "."])])]
  | lambda => .make .lambda (.all ["lambda", .optional parameters, ":", expression])
  | parameters =>
    .any
      [.careful parametersProblems,
       .all
        [slashPlain, .many plainParameter, .many defaultParameter, .optional starParameters],
       .all [slashDefault, .many defaultParameter, .optional starParameters],
       .all [.several plainParameter, .many defaultParameter, .optional starParameters],
       .all [.several defaultParameter, .optional starParameters],
       starParameters]
  | slashPlain => .all [.several plainParameter, "/", parameterEnd]
  | slashDefault => .all [.many plainParameter, .several defaultParameter, "/", parameterEnd]
  | starParameters =>
    .any
      [.careful starProblems,
       .all ["*", plainParameter, .many eitherParameter, .optional keywordParameters],
       .all ["*", ",", .several eitherParameter, .optional keywordParameters],
       keywordParameters]
  | keywordParameters => .any [.careful keywordParameterProblems, .all ["**", plainParameter]]
  | plainParameter => .all [name, parameterEnd]
  | defaultParameter => .all [name, defaultValue, parameterEnd]
  | eitherParameter => .all [name, .optional defaultValue, parameterEnd]
  | defaultValue =>
    .any
      [.all ["=", expression],
       .careful (.wrong .missingDefault ["=", .ahead (.any [")", ","])])]

/-- Whether what a rule matched is remembered. -/
def isRemembered : Rule → Bool
  | expression | starExpression | disjunction | conjunction | inversion | alternation | exclusion
  | intersection | shift | sum | term | factor | awaited | primary | texts | callArguments
  | target | plainTarget | ownerOfTarget => true
  | _ => false

end Rule

/-- The grammar of expressions, given what is wrong with adjacent texts. -/
def grammar (texts? : List Quotation → Option Problem) : Grammar Rule :=
  ⟨Rule.pattern texts?, Rule.isRemembered⟩

/-- What is wrong with an expression of a template, given what is wrong with adjacent texts. It is
read in parentheses, on a line of its own. -/
def fieldProblem? (texts? : List Quotation → Option Problem) (cs : List Char) : Option Problem :=
  match (grammar texts?).parse .fieldExpression (tokenize ('(' :: cs ++ [')', '\n'])) with
  | .ok _ => none
  | .error problem => some problem.inside

/-- What is wrong with adjacent texts. The number bounds how deep templates stand in each other. -/
def textsProblem? : Nat → List Quotation → Option Problem
  | 0, _ => none
  | depth + 1, quotations =>
    quotationsProblem? (templateProblem? (fieldProblem? (textsProblem? depth))) none quotations

/-- Reads an argument. Every template is longer than those within. -/
def parse (cs : List Char) : Except Problem (List Tree) :=
  (grammar (textsProblem? (cs.length + 1))).parse .argument (tokenize cs)

end Walkthrough.Expression
