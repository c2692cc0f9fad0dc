/-
  Fixed-window rate limiting.

  A limiter counts calls per caller, route and window. On every call it
  forgets the counters of windows before the previous one, then counts the
  call; the call is allowed if the count is at most the quota of its route.

  * `Limiter.hit` is one call, `Limiter.run` a history of calls;
  * `Reference.allows` is what a limiter that never forgets answers: the
    number of calls so far with the same caller, route and window against the
    quota.
-/
import RateIsolation.Table
import RateIsolation.Window

namespace RateIsolation

/-- What a counter counts: the calls of a caller to a route in a window. -/
structure CounterKey where
  token : String
  route : String
  window : Int
deriving DecidableEq, Repr

/-- Counters by caller, route and window. -/
abbrev Counters := Table CounterKey Nat

/-- One call, with the reading of the clock at which it is handled. -/
structure LimiterCall where
  token : String
  route : String
  now : Int
deriving DecidableEq, Repr

/-- The counter of a call, in windows of a length. -/
def LimiterCall.key (length : Int) (c : LimiterCall) : CounterKey :=
  ⟨c.token, c.route, windowOf length c.now⟩

namespace Limiter

/-- Forget the counters of windows before the previous one. -/
def evict (current : Int) (counters : Counters) : Counters :=
  counters.filter fun e => decide (current - 1 ≤ e.1.window)

/-- Count a call after forgetting; the result is its count and the counters. -/
def hit (key : CounterKey) (counters : Counters) : Nat × Counters :=
  let kept := evict key.window counters
  let count := (Table.get? key kept).getD 0 + 1
  (count, Table.set key count kept)

/-- Whether a count is within a quota. -/
def within (quota : Int) (count : Nat) : Bool := decide ((count : Int) ≤ quota)

/-- Answer one call, given the quota of each route. -/
def step (length : Int) (quota : String → Int) (counters : Counters) (c : LimiterCall) :
    Bool × Counters :=
  let (count, counters') := hit (c.key length) counters
  (within (quota c.route) count, counters')

/-- Answer calls in order: whether each is allowed, and the counters after them. -/
def run (length : Int) (quota : String → Int) (counters : Counters) :
    List LimiterCall → List Bool × Counters
  | [] => ([], counters)
  | c :: rest =>
    let (allowed, counters') := step length quota counters c
    let (others, last) := run length quota counters' rest
    (allowed :: others, last)

end Limiter

namespace Reference

/-- How many of the calls count on a key. -/
def count (length : Int) (calls : List LimiterCall) (key : CounterKey) : Nat :=
  calls.countP fun c => c.key length = key

/-- Whether the last of the calls `before ++ [c]` is allowed when nothing is forgotten. -/
def allows (length : Int) (quota : String → Int) (before : List LimiterCall) (c : LimiterCall) :
    Bool :=
  Limiter.within (quota c.route) (count length (before ++ [c]) (c.key length))

/-- The answers to calls that follow others. -/
def run (length : Int) (quota : String → Int) : List LimiterCall → List LimiterCall → List Bool
  | _, [] => []
  | before, c :: rest => allows length quota before c :: run length quota (before ++ [c]) rest

end Reference

end RateIsolation
