import FrixelConnect.Python.Text

/-!
# JSON values as Python objects

A body is what `json.loads` makes of it. A float is kept as its `repr`, which
determines it. Looking up a key in something that is not a dict raises
`AttributeError`, iterating over something without elements `TypeError`.
-/

namespace Python

open Decimals

inductive Json where
  | null
  | bool (b : Bool)
  | int (n : ℤ)
  | float (repr : String)
  | str (s : String)
  | arr (items : List Json)
  | obj (fields : List (String × Json))

/-- Errors of the language itself. -/
inductive Fault where
  | attributeError
  | typeError
  deriving DecidableEq

namespace Json

/-- `x.get(key, default)`. -/
def get (x : Json) (key : String) (default : Json := .null) : Except Fault Json :=
  match x with
  | .obj fields => .ok ((fields.lookup key).getD default)
  | _ => .error .attributeError

/-- `bool(x)`. -/
def truthy : Json → Bool
  | .null => false
  | .bool b => b
  | .int n => n != 0
  | .float repr => repr != "0.0" && repr != "-0.0"
  | .str s => s != ""
  | .arr items => !items.isEmpty
  | .obj fields => !fields.isEmpty

/-- `x == 0`. -/
def eqZero : Json → Bool
  | .bool b => !b
  | .int n => n == 0
  | .float repr => repr == "0.0" || repr == "-0.0"
  | _ => false

/-- `x == text`. -/
def eqText (x : Json) (text : String) : Bool :=
  match x with
  | .str s => s == text
  | _ => false

/-- `str(x)`. Of a container only the opening bracket is kept. -/
def text : Json → String
  | .null => "None"
  | .bool b => if b then "True" else "False"
  | .int n => toString n
  | .float repr => repr
  | .str s => s
  | .arr _ => "["
  | .obj _ => "\x7b"

/-- `Decimal(str(x))`. -/
def decimal : Json → Option Decimal
  | .int n => some (.finite n 0)
  | .float repr => decimalOfText repr
  | .str s => decimalOfText s
  | _ => none

/-- The elements of `for item in x`. -/
def elements : Json → Except Fault (List Json)
  | .arr items => .ok items
  | .obj fields => .ok (fields.map fun f => .str f.1)
  | .str s => .ok (s.toList.map fun c => .str (String.singleton c))
  | _ => .error .typeError

/-- The value can be a key of a dict. -/
def hashable : Json → Bool
  | .arr _ => false
  | .obj _ => false
  | _ => true

/-- `dict((item.get("Name"), item.get("Value")) for item in items)`, as the values of
its string keys; a later item replaces an earlier one. -/
def metadata : List Json → Except Fault (List (String × Json))
  | [] => .ok []
  | item :: rest => do
      let name ← item.get "Name"
      let value ← item.get "Value"
      if name.hashable then
        let tail ← metadata rest
        match name with
        | .str s => pure (if (tail.lookup s).isSome then tail else (s, value) :: tail)
        | _ => pure tail
      else throw .typeError

end Json

end Python
