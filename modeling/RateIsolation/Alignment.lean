/-
  Waiting for the start of a rate window.

  The gateway does not show where a window starts, so the harness waits for
  the next boundary of its own clock and a margin, and starts there.
-/
import RateIsolation.Session
import RateIsolation.Window

namespace RateIsolation

namespace Aligner

/-- The logger of this module. -/
def logger : String := "ratecheck.window"

variable {σ : Type}

/-- Wait for the next window and describe the wait. -/
def align (w : World σ) (a : Aligner) : Harness σ Alignment := do
  let now ← Harness.readClock w
  let wait ← Harness.ofExcept (fun f => .harness f.error) (waitFor now a.window a.margin)
  Harness.log logger .debug "Aligning to window start"
    [("now_ms", .int now), ("wait_ms", .int wait), ("window_ms", .int a.window)]
  match secondsOfMillis wait with
  | none => throw .secondsOverflow
  | some seconds =>
    Harness.sleep w (.binary seconds)
    return { now := now, window := a.window, margin := a.margin, wait := wait }

end Aligner

end RateIsolation
