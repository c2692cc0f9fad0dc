/-
  One-line descriptions of values: the name of the type and its fields,
  texts in quotes.
-/
import RateIsolation.Text.Quoted

namespace RateIsolation.Describe

/-- The text of an integer. -/
def int (n : Int) : String := toString n

/-- The text of a truth value. -/
def bool (b : Bool) : String := if b then "True" else "False"

/-- The text of a value that may be absent. -/
def option {α : Type} (f : α → String) : Option α → String
  | none => "None"
  | some a => f a

/-- The name of a type and the texts of its fields. -/
def fields (name : String) (items : List (String × String)) : String :=
  name ++ "(" ++ ", ".intercalate (items.map fun (k, v) => k ++ "=" ++ v) ++ ")"

end RateIsolation.Describe
