/-
  A gateway that joins callers or routes is found out.

  * `Server.burstKeys_of_room` and `Server.probeKey_of_room`: where the rest of
    a window is long enough, an experiment is in one window;
  * `Server.Joins` are the two defects, each with the check that it fails;
  * `run_detects`: a run fails that check and no other.
-/
import RateIsolation.Proofs.Hosted

namespace RateIsolation

open Harness

/-! ## An experiment in one window -/

namespace Server

variable {s : Server} {token path : String} {latency start : Int}

/-- Where the rest of the window is long enough, calls are counted as at its start. -/
theorem counterKey_of_room (hw : 0 < s.window) {rest : Int} (hr : 0 ≤ rest)
    (hroom : start.fmod s.window + rest < s.window) (token path : String) :
    s.counterKey token path (start + rest) = s.counterKey token path start := by
  rw [counterKey, counterKey, windowOf_add_of_lt hw hr hroom]

theorem burstKeys_of_room (hw : 0 < s.window) (hl : 0 ≤ latency) {n : Nat}
    (hroom : start.fmod s.window + (n + 1) * latency < s.window) (token path : String) :
    s.burstKeys token path latency n start = List.replicate n (s.counterKey token path start) := by
  rw [burstKeys, List.eq_replicate_iff]
  refine ⟨by rw [List.length_map, length_readings], ?_⟩
  intro k hk
  obtain ⟨time, htime, rfl⟩ := List.mem_map.1 hk
  obtain ⟨hle, hge⟩ := bounds_of_mem_readings hl htime
  obtain ⟨rest, rfl⟩ : ∃ rest, time = start + rest := ⟨time - start, by omega⟩
  refine counterKey_of_room hw (by omega) ?_ token path
  rw [Int.add_mul, Int.one_mul] at hroom
  omega

theorem probeKey_of_room (hw : 0 < s.window) (hl : 0 ≤ latency) {n : Nat}
    (hroom : start.fmod s.window + (n + 1) * latency < s.window) (token path : String) :
    s.probeKey token path latency n start = s.counterKey token path start :=
  counterKey_of_room hw (Int.mul_nonneg (by omega) hl) hroom token path

/-- A burst on one counter is served up to the quota. -/
theorem ofStatuses_replicate {quota : Int} {n : Nat} (hquota : 1 ≤ quota) (hn : quota < n)
    (key : CounterKey) :
    Tally.ofStatuses (burstStatuses quota (List.replicate n key)) = ⟨quota, n - quota, 0⟩ := by
  have hserved : (Limiter.served quota (List.replicate n key) : Int) = quota := by
    rw [Limiter.served_eq_sum (by omega), List.toFinset_replicate_of_ne_zero (by omega),
      Finset.sum_singleton, List.count_replicate_self, min_eq_left (by omega)]
  rw [ofStatuses_burstStatuses, hserved, List.length_replicate]

/-- A probe on the counter of a burst that spent the quota. -/
theorem probeStatus_of_spent {quota : Int} {n : Nat} (hn : quota < n) (key : CounterKey) :
    probeStatus quota (List.replicate n key) key = some 429 := by
  have hover : ¬ ((n + 1 : Nat) : Int) ≤ quota := by omega
  rw [probeStatus, List.count_replicate_self, statusFor, Limiter.within, decide_eq_false hover]
  rfl

/-- A probe on another counter. -/
theorem probeStatus_of_other {quota : Int} (hquota : 1 ≤ quota) (n : Nat) {key key' : CounterKey}
    (h : key ≠ key') : probeStatus quota (List.replicate n key) key' = some 200 := by
  have hone : ((0 + 1 : Nat) : Int) ≤ quota := hquota
  rw [probeStatus, List.count_replicate, if_neg (by simpa using h), statusFor, Limiter.within,
    decide_eq_true hone]
  rfl

/-- A gateway that joins callers or routes: the quotas that calls of users and orders then have, and
    the check that it fails. -/
inductive Joins (s : Server) (quota : Int) : Int → String → Prop
  | callers (ordersQuota : Int) (hs : s.sharing = .callers)
    (husers : Table.get? "/api/v1/users" s.quotas = some quota)
    (horders : Table.get? "/api/v1/orders" s.quotas = some ordersQuota) (hpos : 1 ≤ ordersQuota) :
    Joins s quota ordersQuota Check.b2
  | routes (hs : s.sharing = .routes) (hjoined : Table.get? joined s.quotas = some quota)
    (husers : Table.has "/api/v1/users" s.quotas = true)
    (horders : Table.has "/api/v1/orders" s.quotas = true) : Joins s quota quota Check.a3

theorem Joins.limited {quota ordersQuota : Int} {label : String} (h : s.Joins quota ordersQuota label) :
    s.Limited "/api/v1/users" quota ∧ s.Limited "/api/v1/orders" ordersQuota := by
  cases h with
  | callers _ hs husers horders =>
    refine ⟨⟨?_, ?_⟩, ?_, ?_⟩
    · rw [quotaRoute, hs]
      exact husers
    · rw [Table.has, husers]
      rfl
    · rw [quotaRoute, hs]
      exact horders
    · rw [Table.has, horders]
      rfl
  | routes hs hjoined husers horders =>
    refine ⟨⟨?_, husers⟩, ?_, horders⟩
    all_goals
      rw [quotaRoute, hs]
      exact hjoined

/-- Of the two probes, the one on the counter of its burst is throttled. -/
theorem Joins.probes {quota ordersQuota : Int} {label : String} (h : s.Joins quota ordersQuota label)
    (hquota : 1 ≤ quota) {n : Nat} (hn : quota < n) {tokenA tokenB : String} (htokens : tokenA ≠ tokenB)
    (startA startB : Int) :
    let ordersStatus := probeStatus ordersQuota
      (List.replicate n (s.counterKey tokenA "/api/v1/users" startA))
      (s.counterKey tokenA "/api/v1/orders" startA)
    let usersStatus := probeStatus quota
      (List.replicate n (s.counterKey tokenA "/api/v1/users" startB))
      (s.counterKey tokenB "/api/v1/users" startB)
    (label = Check.b2 ∧ ordersStatus = some 200 ∧ usersStatus = some 429) ∨
      (label = Check.a3 ∧ ordersStatus = some 429 ∧ usersStatus = some 200) := by
  cases h with
  | callers _ hs husers horders hpos =>
    -- caller B counts as caller A, the routes are apart
    have hsame : s.counterKey tokenB "/api/v1/users" startB =
        s.counterKey tokenA "/api/v1/users" startB := by
      simp [counterKey, hs]
    have hother : s.counterKey tokenA "/api/v1/users" startA ≠
        s.counterKey tokenA "/api/v1/orders" startA := by
      simp [counterKey, hs]
    refine Or.inl ⟨rfl, probeStatus_of_other hpos n hother, ?_⟩
    rw [hsame]
    exact probeStatus_of_spent hn _
  | routes hs =>
    -- orders count as users, the callers are apart
    have hsame : s.counterKey tokenA "/api/v1/orders" startA =
        s.counterKey tokenA "/api/v1/users" startA := by
      simp [counterKey, hs]
    have hother : s.counterKey tokenA "/api/v1/users" startB ≠
        s.counterKey tokenB "/api/v1/users" startB := by
      simp [counterKey, hs, htokens]
    refine Or.inr ⟨rfl, ?_, probeStatus_of_other hquota n hother⟩
    rw [hsame]
    exact probeStatus_of_spent hn _

end Server

/-- Two experiments, each in one window, fail the check of the defect and no other. -/
theorem Findings.Counted.failedChecks_of_joins {f : Findings} {s : Server} {quota ordersQuota : Int}
    {label tokenA tokenB : String} {latency startA startB : Int} {n : Nat}
    (h : f.Counted s quota ordersQuota tokenA tokenB latency n startA startB)
    (hjoins : s.Joins quota ordersQuota label) (hquota : 1 ≤ quota) (hn : quota < n)
    (htokens : tokenA ≠ tokenB) (hw : 0 < s.window) (hl : 0 ≤ latency)
    (hroomA : startA.fmod s.window + (n + 1) * latency < s.window)
    (hroomB : startB.fmod s.window + (n + 1) * latency < s.window) (id : String) :
    (f.result id).failedChecks = [label] := by
  have husersBurst : f.usersBurst = ⟨quota, n - quota, 0⟩ := by
    rw [h.usersBurst, Server.burstKeys_of_room hw hl hroomA, Server.ofStatuses_replicate hquota hn]
  have htokenABurst : f.tokenABurst = ⟨quota, n - quota, 0⟩ := by
    rw [h.tokenABurst, Server.burstKeys_of_room hw hl hroomB, Server.ofStatuses_replicate hquota hn]
  have horders := h.ordersProbe
  have husers := h.tokenBProbe
  rw [Server.burstKeys_of_room hw hl hroomA, Server.probeKey_of_room hw hl hroomA] at horders
  rw [Server.burstKeys_of_room hw hl hroomB, Server.probeKey_of_room hw hl hroomB] at husers
  have hallowed : 0 < quota := hquota
  have hthrottled : 0 < (n : Int) - quota := Int.sub_pos_of_lt hn
  rw [Findings.failedChecks_result, husersBurst, htokenABurst, horders, husers]
  rcases hjoins.probes hquota hn htokens startA startB with ⟨rfl, h₁, h₂⟩ | ⟨rfl, h₁, h₂⟩
  all_goals
    rw [h₁, h₂]
    simp only [if_pos hallowed, if_pos hthrottled]
    rfl

/-! ## The run -/

/-- **A broken gateway.**  Whatever earlier windows left on it, a run on a gateway that joins callers
    fails the check on caller B, and on one that joins routes the check on orders, and no other; a
    wait without a number of seconds ends it. -/
theorem run_detects {settings : Settings} {newId : Nat → String}
    {sleep : Seconds → Simulation → Except SleepFault Unit × Simulation} {s : Server}
    {st : Simulation} (h : settings.Hosted newId sleep s st) (hlater : s.NoLater st.now)
    {quota ordersQuota : Int} {label : String} (hjoins : s.Joins quota ordersQuota label)
    (hquota : 1 ≤ quota) (hburst : quota < settings.burstRequests)
    (hroom : settings.alignMarginMs.fmod settings.windowMs +
      (settings.burstRequests + 1) * st.latency < settings.windowMs)
    (shared : Bool) (runId : Option String) :
    let run := runScenario (Simulation.worldOf newId sleep) settings shared runId
    (settings.Waits st.latency st.now → ∃ (r : RunResult) (st' : Simulation),
      Leads run st (.ok r) st' ∧ r.failedChecks = [label]) ∧
    (¬ settings.Waits st.latency st.now → ∃ st', Leads run st (.error .secondsOverflow) st') := by
  intro run
  obtain ⟨n, hn⟩ := Int.eq_ofNat_of_zero_le (Int.le_trans (by decide) h.burst)
  have hw : 0 < settings.windowMs := Int.lt_of_lt_of_le Int.one_pos h.window
  have hws : 0 < s.window := h.sameWindow ▸ hw
  rw [hn] at hburst hroom
  obtain ⟨hok, hoverflow⟩ := h.run hlater hjoins.limited.1 hjoins.limited.2 shared runId
  refine ⟨fun hwaits => ?_, hoverflow⟩
  obtain ⟨tokenA, tokenB, f, id, st', htokens, hf, hrun⟩ := hok hwaits
  rw [hn, Int.toNat_natCast] at hf
  -- a wait ends the margin past a boundary, and so leaves room for an experiment
  have hland (now : Int) : (settings.scenario.aligner.landing now).fmod s.window +
      (n + 1) * st.latency < s.window := by
    have hfmod : (settings.scenario.aligner.landing now).fmod settings.windowMs =
        settings.alignMarginMs.fmod settings.windowMs :=
      @Aligner.landing_fmod settings.scenario.aligner hw h.margin now
    rw [← h.sameWindow, hfmod]
    exact hroom
  exact ⟨f.result id, st', hrun, hf.failedChecks_of_joins hjoins hquota hburst htokens hws h.latency
    (hland _) (hland _) id⟩

/-- Five of eight within the quota: joined callers fail the last check, joined routes the third. -/
theorem run_detects_default :
    let run := runScenario (Simulation.worldOf Simulation.unaryId Simulation.sleep)
      (Settings.ofWindow 1000) true none
    let joinedCallers : Server := { sharing := .callers }
    let joinedRoutes : Server :=
      { sharing := .routes, quotas := [("/api/v1/users", 5), ("/api/v1/orders", 5), ("*", 5)] }
    (∃ (r : RunResult) (st' : Simulation),
      Leads run { now := 0, latency := 7, gateway := .server joinedCallers } (.ok r) st' ∧
        r.failedChecks = [Check.b2]) ∧
    ∃ (r : RunResult) (st' : Simulation),
      Leads run { now := 0, latency := 7, gateway := .server joinedRoutes } (.ok r) st' ∧
        r.failedChecks = [Check.a3] := by
  intro run joinedCallers joinedRoutes
  have hnone {s : Server} (h : s.counters = []) : s.NoLater 0 := by
    intro key n hn
    rw [h] at hn
    cases hn
  constructor
  · exact (run_detects (Settings.hosted_default rfl rfl) (hnone rfl)
      (.callers 5 rfl rfl rfl (by decide)) (by decide) (by decide) (by decide) true none).1
        Settings.waits_default
  · exact (run_detects (Settings.hosted_default rfl rfl) (hnone rfl)
      (.routes rfl rfl rfl rfl) (by decide) (by decide) (by decide) true none).1
        Settings.waits_default

/-- A window of `10 ^ 309` is accepted, and is too long to wait for: the defect goes unreported. -/
theorem run_detects_of_long_window :
    let settings := Settings.ofWindow (10 ^ 155 * 10 ^ 154)
    let s : Server := { window := 10 ^ 155 * 10 ^ 154, sharing := .callers }
    let st : Simulation := { now := 0, gateway := .server s }
    Settings.load { overrides := [("window_ms", .int (10 ^ 155 * 10 ^ 154))] } = .ok settings ∧
      settings.Hosted Simulation.unaryId Simulation.sleep s st ∧ s.NoLater st.now ∧
      s.Joins 5 5 Check.b2 ∧
      settings.alignMarginMs.fmod settings.windowMs +
        (settings.burstRequests + 1) * st.latency < settings.windowMs ∧
      ∀ r st', ¬ Leads (runScenario (Simulation.worldOf Simulation.unaryId Simulation.sleep) settings
        true none) st (.ok r) st' := by
  intro settings s st
  have hlong : Alignment.waitLimit ≤ 10 ^ 155 * 10 ^ 154 := by decide +kernel
  have hlater : s.NoLater 0 := fun key n hn => by cases hn
  have hjoins : s.Joins 5 5 Check.b2 := .callers 5 rfl rfl rfl (by decide)
  refine ⟨rfl, Settings.hosted_of_long hlong rfl rfl, hlater, hjoins, by decide +kernel, ?_⟩
  exact Settings.no_results_of_long hlong rfl rfl hlater hjoins.limited.1 hjoins.limited.2 true none

end RateIsolation
