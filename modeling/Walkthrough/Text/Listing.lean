/-!
# Listings

How several names stand in a sentence.

## Main definitions

* `commaSeparated` — texts one after the other
* `enumerated` — names in quotes, the last after an "and"
* `counted` — a number of things
-/

namespace Walkthrough

/-- Texts with a comma and a space between them. -/
def commaSeparated (parts : List String) : String := ", ".intercalate parts

/-- Names in single quotes with commas and a final "and" between them; two names take no comma. -/
def enumerated (names : List String) : String :=
  let quoted := names.map fun name => "'" ++ name ++ "'"
  match quoted with
  | [first, second] => first ++ " and " ++ second
  | _ =>
    if quoted.length ≤ 2 then commaSeparated quoted
    else commaSeparated quoted.dropLast ++ ", and " ++ quoted.getLastD ""

/-- A number of things, by the word for one of them. -/
def counted (n : Nat) (thing : String) : String :=
  toString n ++ " " ++ thing ++ (if n = 1 then "" else "s")

/-- That arguments are missing from a call. -/
def missingArguments (callee : String) (names : List String) : String :=
  callee ++ "() missing " ++ counted names.length "required positional argument" ++ ": " ++
    enumerated names

example : enumerated ["a", "b", "c"] = "'a', 'b', and 'c'" := by decide
example : missingArguments "f" ["a"] = "f() missing 1 required positional argument: 'a'" := by
  decide

end Walkthrough
