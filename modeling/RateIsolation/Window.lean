/-
  Rate windows and the wait for the start of the next one.

  A gateway counts requests per window of fixed length, in whole milliseconds
  since the epoch. `waitFor` is the time until `margin` past the next
  boundary, and `Alignment` records one such wait.

  * `waitFor_eq_ok_iff`: a wait exists for a positive length and a margin that
    is not negative;
  * `wait_lands`: after the wait the clock is `margin` past a boundary;
  * `margin_lt_wait` and `wait_le`: the wait is longer than the margin, by at
    most one window.
-/
import RateIsolation.Describe
import RateIsolation.Error
import RateIsolation.Number.Binary64

namespace RateIsolation

/-- Nanoseconds since the epoch as whole milliseconds. -/
def millisOfNanos (ns : Int) : Int := ns.fdiv 1000000

/-- The number of the window that a reading falls into. -/
def windowOf (length now : Int) : Int := now.fdiv length

/-- Milliseconds from `now` to `margin` past the next boundary. -/
def waitFor (now length margin : Int) : Except ParameterFault Int :=
  if length ≤ 0 then .error (.windowNotPositive length)
  else if margin < 0 then .error (.marginNegative margin)
  else .ok (length - now.fmod length + margin)

/-- Milliseconds as seconds, unless there are too many of them for a number. -/
def secondsOfMillis (ms : Int) : Option Binary64 := (Binary64.ofInt? ms).map (Binary64.dividedBy 1000)

/-- One wait for the start of a window. -/
structure Alignment where
  /-- The reading before the wait. -/
  now : Int
  /-- The length of a window. -/
  window : Int
  /-- The margin past the boundary. -/
  margin : Int
  /-- The length of the wait. -/
  wait : Int
deriving DecidableEq, Repr

namespace Alignment

/-- The wait in seconds. -/
def waitSeconds (a : Alignment) : Option Binary64 := secondsOfMillis a.wait

/-- A description of the wait. -/
def describe (a : Alignment) : String :=
  Describe.fields "WindowAlignment" [("now_ms", Describe.int a.now),
    ("window_ms", Describe.int a.window), ("margin_ms", Describe.int a.margin),
    ("wait_ms", Describe.int a.wait)]

end Alignment

/-- The window length and margin of a scenario, checked once. -/
structure Aligner where
  window : Int := 1000
  margin : Int := 30
deriving DecidableEq, Repr

/-- An aligner, for a length and a margin that a wait can be computed for. -/
def Aligner.make (window margin : Int) : Except ParameterFault Aligner :=
  match waitFor 0 window margin with
  | .error e => .error e
  | .ok _ => .ok ⟨window, margin⟩

theorem waitFor_eq_ok_iff {now length margin wait : Int} :
    waitFor now length margin = .ok wait ↔
      0 < length ∧ 0 ≤ margin ∧ wait = length - now.fmod length + margin := by
  unfold waitFor
  by_cases h₁ : length ≤ 0
  · have : ¬ 0 < length := by omega
    simp [h₁, this]
  · have hl : 0 < length := by omega
    by_cases h₂ : margin < 0
    · have : ¬ 0 ≤ margin := by omega
      simp [h₁, h₂, this]
    · have hm : 0 ≤ margin := by omega
      simp [h₁, h₂, hl, hm, eq_comm]

/-- After the wait the clock is the margin past the next boundary. -/
theorem wait_lands {now length margin wait : Int} (h : waitFor now length margin = .ok wait) :
    now + wait = (windowOf length now + 1) * length + margin := by
  obtain ⟨_, _, rfl⟩ := waitFor_eq_ok_iff.1 h
  have := Int.mul_fdiv_add_fmod now length
  simp only [windowOf, Int.add_mul, Int.one_mul, Int.mul_comm (now.fdiv length)]
  omega

theorem margin_lt_wait {now length margin wait : Int} (h : waitFor now length margin = .ok wait) :
    margin < wait := by
  obtain ⟨hl, _, rfl⟩ := waitFor_eq_ok_iff.1 h
  have := Int.fmod_lt_of_pos now hl
  omega

theorem wait_le {now length margin wait : Int} (h : waitFor now length margin = .ok wait) :
    wait ≤ length + margin := by
  obtain ⟨hl, _, rfl⟩ := waitFor_eq_ok_iff.1 h
  have := Int.fmod_nonneg_of_pos now hl
  omega

end RateIsolation
