/-
  The five isolation checks of a run.

  Experiment A spends the users quota of caller A and probes orders with the
  same caller; experiment B spends it again and probes users with caller B.
  All checks are evaluated, so that every failure is reported.
-/
import RateIsolation.Identity

namespace RateIsolation

/-- The result of one check. -/
structure Check where
  label : String
  passed : Bool
deriving DecidableEq, Repr

namespace Check

/-- A description of the result. -/
def describe (c : Check) : String :=
  Describe.fields "CheckResult" [("label", Text.quoted c.label), ("passed", Describe.bool c.passed)]

/-- Experiment A hit the quota. -/
def a1 : String := "A1: users burst has at least one 429"

/-- Experiment A was served below the quota. -/
def a2 : String := "A2: users burst still has successful requests"

/-- The users quota does not count for orders. -/
def a3 : String := "A3: orders call is not rate limited by users burst"

/-- Experiment B hit the quota. -/
def b1 : String := "B1: token A burst has at least one 429"

/-- The quota of caller A does not count for caller B. -/
def b2 : String := "B2: token B still allowed in same window"

/-- The labels in the order of evaluation. -/
def labels : List String := [a1, a2, a3, b1, b2]

/-- The checks on the results of both experiments; a probe without an answer is not throttled. -/
def evaluate (usersBurst : Tally) (ordersProbe : Probe) (tokenABurst : Tally)
    (tokenBProbe : Probe) : List Check := [
  ⟨a1, decide (0 < usersBurst.throttled)⟩,
  ⟨a2, decide (0 < usersBurst.allowed)⟩,
  ⟨a3, decide (ordersProbe.status ≠ some 429)⟩,
  ⟨b1, decide (0 < tokenABurst.throttled)⟩,
  ⟨b2, decide (tokenBProbe.status = some 200)⟩]

theorem labels_evaluate (u : Tally) (o : Probe) (a : Tally) (b : Probe) :
    (evaluate u o a b).map Check.label = labels := rfl

end Check

end RateIsolation
