/-
  What a gateway's answer means for a rate limit.

  * `Outcome.ofStatus` puts a status, or the lack of one, into one of three
    classes;
  * `Tally` counts the outcomes of a burst by class; `Tally.ofOutcomes` counts
    a list of them (`ofOutcomes_append`: two bursts add up,
    `total_ofOutcomes`: every outcome is counted once).
-/
import RateIsolation.Json.Basic

namespace RateIsolation

/-- The class of an answer. -/
inductive Outcome where
  /-- The request was served. -/
  | allowed
  /-- The request was over the quota. -/
  | throttled
  /-- Any other answer, or none. -/
  | other
deriving DecidableEq, Repr

namespace Outcome

/-- The class of a status: 200 is allowed, 429 throttled, all else other. -/
def ofStatus : Option Int → Outcome
  | some 200 => .allowed
  | some 429 => .throttled
  | _ => .other

/-- The name of a class. -/
def name : Outcome → String
  | allowed => "allowed"
  | throttled => "throttled"
  | other => "other"

end Outcome

/-- The number of outcomes of each class. -/
structure Tally where
  /-- Requests that were served. -/
  allowed : Int := 0
  /-- Requests over the quota. -/
  throttled : Int := 0
  /-- Requests with any other answer or none. -/
  other : Int := 0
deriving DecidableEq, Repr

namespace Tally

/-- All outcomes together. -/
def total (t : Tally) : Int := t.allowed + t.throttled + t.other

/-- Counts added class by class. -/
def plus (s t : Tally) : Tally :=
  ⟨s.allowed + t.allowed, s.throttled + t.throttled, s.other + t.other⟩

/-- The number of each class in a list. -/
def ofOutcomes (os : List Outcome) : Tally where
  allowed := os.count .allowed
  throttled := os.count .throttled
  other := os.count .other

/-- The counts under the names of the summary. -/
def fields (t : Tally) : List (String × Json) :=
  [("ok", .int t.allowed), ("tooMany", .int t.throttled), ("other", .int t.other)]

/-- The counts as a value. -/
def toJson (t : Tally) : Json := .record t.fields

theorem ofOutcomes_append (os ps : List Outcome) :
    ofOutcomes (os ++ ps) = (ofOutcomes os).plus (ofOutcomes ps) := by
  simp [ofOutcomes, plus, List.count_append]

theorem total_ofOutcomes (os : List Outcome) : (ofOutcomes os).total = os.length := by
  induction os with
  | nil => rfl
  | cons o os ih =>
    simp only [ofOutcomes, total, List.count_cons, List.length_cons] at ih ⊢
    cases o <;> simp <;> omega

end Tally

end RateIsolation
