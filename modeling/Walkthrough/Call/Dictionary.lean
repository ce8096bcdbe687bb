import Walkthrough.Call.Action

/-!
# Operations of dictionaries

Values are looked up, added and taken away by key, and the entries of another dictionary, or of a
sequence of pairs, are put in. If such a sequence turns out not to be one, the entries before the
fault stay.

The attributes of a record are a dictionary too, and a change of them is a change of the record.

## Main definitions

* `Action.merge`, `Action.mergeFrom` — putting in the entries of something else
* `Action.ofDictionary` — an operation of a dictionary
-/

namespace Walkthrough

namespace Store

/-- Entries without that of a key. -/
def withoutEntry (s : Store) (key : Value) : Table Value → Except Fault (Table Value)
  | [] => .ok []
  | (k, v) :: rest => do
    if ← s.same k key then return rest else return (k, v) :: (← s.withoutEntry key rest)

/-- A view of a dictionary: its keys, its values, or both. -/
def displayView (s : Store) (name : String) (entries : Table Value) : Except Fault String := do
  let parts ← match name with
    | "keys" => entries.mapM fun entry => s.display entry.1
    | "values" => entries.mapM fun entry => s.display entry.2
    | _ => entries.mapM fun entry => do
      return "(" ++ (← s.display entry.1) ++ ", " ++ (← s.display entry.2) ++ ")"
  return "dict_" ++ name ++ "([" ++ commaSeparated parts ++ "])"

end Store

namespace Action

/-- The entries of the dictionary at an address. -/
def entriesAt (a : Addr) : Action (Table Value) := read fun s => .ok (s.attributesAt a)

/-- Sets the value of a key of the dictionary at an address. -/
def putEntry (a : Addr) (key v : Value) : Action Unit := do
  let entries ← entriesAt a
  write a (.dict (← read fun s => s.addEntry entries key v))

/-- Takes a key of the dictionary at an address away, and gives its value. -/
def takeEntry (a : Addr) (key : Value) : Action Value := do
  let entries ← entriesAt a
  let v ← read fun s => s.entry entries key
  write a (.dict (← read fun s => s.withoutEntry key entries))
  return v

/-- Puts entries into the dictionary at an address. -/
def merge (a : Addr) (entries : Table Value) : Action Unit :=
  entries.forM fun entry => putEntry a entry.1 entry.2

/-- The two parts of an element of a sequence of pairs. -/
def pairAt (index : Nat) (v : Value) : Action (Value × Value) := do
  let parts ← tryCatch (elements v) fun f =>
    match f with
    | .notIterable _ => misuse (.entryNotSequence index)
    | _ => throw f
  match parts with
  | [key, w] => return (key, w)
  | _ => misuse (.entryLength index parts.length)

/-- Puts the entries of a dictionary, or the pairs of a sequence, into the dictionary at an
address. -/
def mergeFrom (a : Addr) (v : Value) : Action Unit := do
  match ← read fun s => .ok (s.cell? v) with
  | some (.dict entries) => merge a entries
  | _ => forElements v fun index pair => do
    let (key, w) ← pairAt index pair
    putEntry a key w

/-- A new dictionary with entries. -/
def dictionary (entries : Table Value) : Action Addr := do
  let a ← read fun s => .ok s.size
  let _ ← make (.dict entries)
  return a

/-- A new dictionary with the elements of a value as keys. -/
def fromKeys (v : Value) : Action Value := do
  let a ← dictionary []
  forElements v fun _ key => putEntry a key .null
  return .ref a

/-- Two dictionaries in one; something else is not known. -/
def united (first second : Value) : Action Value := do
  match ← read fun s => .ok (s.cell? first), ← read fun s => .ok (s.cell? second) with
  | some (.dict entries), some (.dict others) =>
    let a ← dictionary entries
    merge a others
    return .ref a
  | _, _ => return .notImplemented

/-- Takes the last entry of the dictionary at an address away. -/
def popItem (a : Addr) (entries : Table Value) : Action Value :=
  match entries.getLast? with
  | some (key, v) => do
    write a (.dict entries.dropLast)
    tuple [key, v]
  | none => throw (.unknownName (.text "popitem(): dictionary is empty"))

/-- An operation of the dictionary at an address with one argument. -/
def ofDictionaryWith (a : Addr) (entries : Table Value) (name : String) (v : Value) :
    Action Value := do
  match name with
  | "__getitem__" => read fun s => s.entry entries v
  | "__contains__" => return .bool (← read fun s => s.entry? entries v).isSome
  | "__delitem__" =>
    let _ ← takeEntry a v
    return .null
  | "get" => return (← read fun s => s.entry? entries v).getD .null
  | "setdefault" =>
    match ← read fun s => s.entry? entries v with
    | some w => return w
    | none =>
      putEntry a v .null
      return .null
  | "pop" => if entries.isEmpty then throw (.unknownName v) else takeEntry a v
  | "update" | "__init__" =>
    mergeFrom a v
    return .null
  | "__or__" => united (.ref a) v
  | "__ror__" => united v (.ref a)
  | "__ior__" =>
    mergeFrom a v
    return .ref a
  | _ => return .notImplemented

/-- An operation of the dictionary at an address. -/
def ofDictionary (a : Addr) (entries : Table Value) (name : String) (args : List Value) :
    Action Value := do
  match name, args with
  | "__repr__", _ => return .text (← read fun s => s.display (.ref a))
  | "__len__", _ => return .int entries.length
  | "__iter__", _ => built fun s => s.walk (.ref a)
  | "__reversed__", _ => return .shown .object "<dict_reversekeyiterator object>"
  | "__sizeof__", _ => return .int (if entries.isEmpty then 48 else 168)
  | "keys", _ | "values", _ | "items", _ =>
    return .shown .object (← read fun s => s.displayView name entries)
  | "popitem", _ => popItem a entries
  | "clear", _ =>
    write a (.dict [])
    return .null
  | "copy", _ => make (.dict entries)
  | "update", [] | "__init__", [] => return .null
  | _, [v] => ofDictionaryWith a entries name v
  | _, _ => return .notImplemented

end Action

end Walkthrough
