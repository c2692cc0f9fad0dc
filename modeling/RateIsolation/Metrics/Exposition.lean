/-
  The text in which metrics are exported.

  Each family has a line of help, a line with its type and a line per
  sample. In a label value a backslash, a line feed and a quote are escaped.
  A positive number whose decimal text has more than six digits before the
  point is written with an exponent of at least two digits; all others as
  they are printed elsewhere. The times at which counters were first used are
  no part of it.
-/
import RateIsolation.Metrics.Basic
import RateIsolation.Number.Shortest

namespace RateIsolation.Metrics

/-- One character of a label value. -/
def escapeLabelChar (c : Char) : List Char :=
  if c = '\\' then ['\\', '\\']
  else if c = '\n' then ['\\', 'n']
  else if c = '"' then ['\\', '"']
  else [c]

/-- A label value between its quotes. -/
def escapeLabel (s : String) : String := String.ofList (s.toList.flatMap escapeLabelChar)

/-- The characters without the zeros and points at the end. -/
def dropZerosAndPoint (cs : List Char) : List Char :=
  (cs.reverse.dropWhile fun c => c == '0' || c == '.').reverse

/-- The text of a value: more than six digits before the point become an exponent. -/
def valueText (x : Binary64) : String :=
  match x with
  | .nan => "NaN"
  | .infinite negative => if negative then "-Inf" else "+Inf"
  | .finite _ _ =>
    let cs := x.toText.toList
    let whole := cs.takeWhile (· != '.')
    if x.isPositive && cs.contains '.' && decide (6 < whole.length) then
      let fraction := cs.drop (whole.length + 1)
      let mantissa := whole.take 1 ++ '.' :: (whole.drop 1 ++ fraction)
      String.ofList (dropZerosAndPoint mantissa ++
        'e' :: Binary64.exponentText 2 ((whole.length : Int) - 1))
    else String.ofList cs

/-- A line for one sample. -/
def sampleLine (name : String) (s : Sample) : String :=
  let labels := ",".intercalate (s.labels.map fun (k, v) => k ++ "=\"" ++ escapeLabel v ++ "\"")
  let braced := if s.labels.isEmpty then "" else "\x7b" ++ labels ++ "\x7d"
  name ++ braced ++ " " ++ valueText s.value ++ "\n"

/-- The lines of one family. -/
def familyText (f : Family) : String :=
  let kind := if f.counter then "counter" else "gauge"
  "# HELP " ++ f.name ++ " " ++ f.help ++ "\n# TYPE " ++ f.name ++ " " ++ kind ++ "\n" ++
    String.join (f.samples.map (sampleLine f.name))

/-- The exported text. -/
def exposition (m : Metrics) : String := String.join (m.families.map familyText)

end RateIsolation.Metrics
