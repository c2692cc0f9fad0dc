/-
  JSON values.

  Integers and binary floating-point numbers are different values, the
  members of an object are kept in insertion order, and a string may hold a
  surrogate that stands alone.
-/
import RateIsolation.Number.Binary64
import RateIsolation.Table
import RateIsolation.Text.Point

namespace RateIsolation

/-- A JSON value. -/
inductive Json where
  /-- The absent value. -/
  | null
  /-- A truth value. -/
  | bool (b : Bool)
  /-- An integer of any size. -/
  | int (n : Int)
  /-- A number with a fraction or an exponent. -/
  | float (x : Binary64)
  /-- A string. -/
  | str (s : WideText)
  /-- A list of values. -/
  | arr (items : List Json)
  /-- Named values in insertion order. -/
  | obj (members : List (WideText × Json))
deriving Repr, Inhabited

namespace Json

/-- An ordinary text. -/
def text (s : String) : Json := .str (.plain s)

/-- Named values with ordinary names. -/
def record (members : List (String × Json)) : Json :=
  .obj (members.map fun (k, v) => (.plain k, v))

/-- The value, or null. -/
def ofOption {α : Type} (f : α → Json) : Option α → Json
  | none => .null
  | some a => f a

/-- A list of texts. -/
def texts (ss : List String) : Json := .arr (ss.map text)

/-- A natural number. -/
def nat (n : Nat) : Json := .int n

/-- The member of that name, if the value is an object that has it. -/
def get? (name : String) : Json → Option Json
  | .obj members => Table.get? (.plain name) members
  | _ => none

/-- The ordinary text that the value is. -/
def text? : Json → Option String
  | .str (.plain s) => some s
  | _ => none

/-- The integer that the value is. -/
def int? : Json → Option Int
  | .int n => some n
  | _ => none

/-- The list that the value is. -/
def items? : Json → Option (List Json)
  | .arr items => some items
  | _ => none

/-- The named values, if the value is an object whose names are ordinary text. -/
def fields? : Json → Option (List (String × Json))
  | .obj members => members.mapM fun
    | (.plain k, v) => some (k, v)
    | _ => none
  | _ => none

/-- Whether the value is null. -/
def isNull : Json → Bool
  | .null => true
  | _ => false

end Json

end RateIsolation
