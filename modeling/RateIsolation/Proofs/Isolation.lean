/-
  A gateway that keeps callers and routes apart passes for what it is.

  * `Tally.perWindow` are the counts of a burst of which each window serves up
    to the quota;
  * `Server.count_probeKey_of_route` and `Server.count_probeKey_of_token`: the
    probes are not counted with the bursts before them;
  * `run_isolated`: a run finds the counts per window, whatever the windows and
    the latency are, and each probe is served if its route has a quota.
-/
import RateIsolation.Proofs.Hosted

namespace RateIsolation

open Harness

/-! ## Counts per window -/

/-- How many calls at some readings are served if each window serves up to the quota. -/
def servedPerWindow (quota length : Int) (times : List Int) : Int :=
  let windows := times.map (windowOf length)
  ∑ w ∈ windows.toFinset, min quota (windows.count w : Int)

/-- The counts of a burst of which each window serves up to the quota. -/
def Tally.perWindow (quota length : Int) (times : List Int) : Tally where
  allowed := servedPerWindow quota length times
  throttled := times.length - servedPerWindow quota length times
  other := 0

namespace Server

variable {s : Server}

theorem counterKey_of_isolated (hs : s.sharing = .none) (token path : String) (now : Int) :
    s.counterKey token path now = ⟨token, path, windowOf s.window now⟩ := by
  simp [counterKey, hs]

/-- The counters of a burst are as many as its windows. -/
theorem served_burstKeys (hs : s.sharing = .none) {quota : Int} (hquota : 0 ≤ quota)
    (token path : String) (latency : Int) (n : Nat) (start : Int) :
    (Limiter.served quota (s.burstKeys token path latency n start) : Int) =
      servedPerWindow quota s.window (readings latency n start) := by
  have hinj : Function.Injective (CounterKey.mk token path) := by
    intro w w' h
    cases h
    rfl
  have hkeys : s.burstKeys token path latency n start =
      ((readings latency n start).map (windowOf s.window)).map (CounterKey.mk token path) := by
    rw [burstKeys, List.map_map]
    exact List.map_congr_left fun now _ => counterKey_of_isolated hs token path now
  have himage (windows : List Int) : (windows.map (CounterKey.mk token path)).toFinset =
      windows.toFinset.image (CounterKey.mk token path) := by
    ext k
    simp
  rw [Limiter.served_eq_sum hquota, hkeys, himage, Finset.sum_image hinj.injOn]
  refine Finset.sum_congr rfl ?_
  intro w _
  rw [List.count_map_of_injective _ _ hinj]

/-- The counts of a burst on an isolated gateway. -/
theorem ofStatuses_burst_of_isolated (hs : s.sharing = .none) {quota : Int} (hquota : 0 ≤ quota)
    (token path : String) (latency : Int) (n : Nat) (start : Int) :
    Tally.ofStatuses (burstStatuses quota (s.burstKeys token path latency n start)) =
      .perWindow quota s.window (readings latency n start) := by
  rw [ofStatuses_burstStatuses, served_burstKeys hs hquota, Tally.perWindow, burstKeys,
    List.length_map]

/-- A probe of another route is not counted with the burst. -/
theorem count_probeKey_of_route (hs : s.sharing = .none) {token token' path path' : String}
    (h : path ≠ path') (latency : Int) (n : Nat) (start : Int) :
    (s.burstKeys token path latency n start).count (s.probeKey token' path' latency n start) = 0 := by
  rw [List.count_eq_zero, burstKeys, List.mem_map]
  rintro ⟨now, -, hkey⟩
  rw [probeKey, counterKey_of_isolated hs, counterKey_of_isolated hs] at hkey
  exact h (congrArg CounterKey.route hkey)

/-- A probe of another caller is not counted with the burst. -/
theorem count_probeKey_of_token (hs : s.sharing = .none) {token token' path path' : String}
    (h : token ≠ token') (latency : Int) (n : Nat) (start : Int) :
    (s.burstKeys token path latency n start).count (s.probeKey token' path' latency n start) = 0 := by
  rw [List.count_eq_zero, burstKeys, List.mem_map]
  rintro ⟨now, -, hkey⟩
  rw [probeKey, counterKey_of_isolated hs, counterKey_of_isolated hs] at hkey
  exact h (congrArg CounterKey.token hkey)

/-- The status of a probe that is counted first. -/
theorem probeStatus_of_first {quota : Int} {keys : List CounterKey} {key : CounterKey}
    (h : keys.count key = 0) : probeStatus quota keys key = some (if 1 ≤ quota then 200 else 429) := by
  rw [probeStatus, h, statusFor, Limiter.within]
  simp

end Server

/-! ## The run -/

/-- **An isolated gateway.**  Whatever earlier requests it answered, a run on a gateway that joins
    neither callers nor routes finds of each burst what its windows serve, and serves each probe
    that has a quota; a wait without a number of seconds ends it. -/
theorem run_isolated {settings : Settings} {newId : Nat → String}
    {sleep : Seconds → Simulation → Except SleepFault Unit × Simulation} {s : Server}
    {st : Simulation} (h : settings.Hosted newId sleep s st) (hreached : s.Reached st.now)
    (hs : s.sharing = .none) {usersQuota ordersQuota : Int}
    (husers : Table.get? "/api/v1/users" s.quotas = some usersQuota)
    (horders : Table.get? "/api/v1/orders" s.quotas = some ordersQuota) (hquota : 0 ≤ usersQuota)
    (shared : Bool) (runId : Option String) :
    let run := runScenario (Simulation.worldOf newId sleep) settings shared runId
    let times := readings st.latency settings.burstRequests.toNat
    (settings.Waits st.latency st.now → ∃ (r : RunResult) (st' : Simulation),
      Leads run st (.ok r) st' ∧
      r.usersBurst = .perWindow usersQuota s.window (times (settings.startA st.latency st.now)) ∧
      r.ordersProbe.status = some (if 1 ≤ ordersQuota then 200 else 429) ∧
      r.tokenABurst = .perWindow usersQuota s.window (times (settings.startB st.latency st.now)) ∧
      r.tokenBProbe.status = some (if 1 ≤ usersQuota then 200 else 429) ∧
      ⟨Check.a3, decide (1 ≤ ordersQuota)⟩ ∈ r.checks ∧
      ⟨Check.b2, decide (1 ≤ usersQuota)⟩ ∈ r.checks) ∧
    (¬ settings.Waits st.latency st.now → ∃ st', Leads run st (.error .secondsOverflow) st') := by
  intro run times
  have hws : 0 < s.window := h.sameWindow ▸ Int.lt_of_lt_of_le Int.one_pos h.window
  have hlimited {path : String} {quota : Int} (hq : Table.get? path s.quotas = some quota) :
      s.Limited path quota := by
    refine ⟨?_, ?_⟩
    · rw [Server.quotaRoute, hs]
      exact hq
    · rw [Table.has, hq]
      rfl
  obtain ⟨hok, hoverflow⟩ := h.run (hreached.noLater hws) (hlimited husers) (hlimited horders) shared
    runId
  refine ⟨fun hwaits => ?_, hoverflow⟩
  obtain ⟨tokenA, tokenB, f, id, st', htokens, hf, hrun⟩ := hok hwaits
  have horder : f.ordersProbe.status = some (if 1 ≤ ordersQuota then 200 else 429) := by
    rw [hf.ordersProbe]
    exact Server.probeStatus_of_first (Server.count_probeKey_of_route hs (by decide) _ _ _)
  have huser : f.tokenBProbe.status = some (if 1 ≤ usersQuota then 200 else 429) := by
    rw [hf.tokenBProbe]
    exact Server.probeStatus_of_first (Server.count_probeKey_of_token hs htokens _ _ _)
  refine ⟨f.result id, st', hrun, ?_, horder, ?_, huser, ?_, ?_⟩
  · exact hf.usersBurst.trans (Server.ofStatuses_burst_of_isolated hs hquota _ _ _ _ _)
  · exact hf.tokenABurst.trans (Server.ofStatuses_burst_of_isolated hs hquota _ _ _ _ _)
  · simp only [Findings.result, Check.evaluate, horder]
    by_cases hq : 1 ≤ ordersQuota <;> simp [hq]
  · simp only [Findings.result, Check.evaluate, huser]
    by_cases hq : 1 ≤ usersQuota <;> simp [hq]

/-- A new gateway, a latency of 7 milliseconds: five of eight are served, and so is caller B. -/
theorem run_isolated_default :
    let st : Simulation := { now := 0, latency := 7, gateway := .server {} }
    ∃ (r : RunResult) (st' : Simulation),
      Leads (runScenario (Simulation.worldOf Simulation.unaryId Simulation.sleep)
        (Settings.ofWindow 1000) true none) st (.ok r) st' ∧
      r.usersBurst = ⟨5, 3, 0⟩ ∧ r.ordersProbe.status = some 200 ∧ r.tokenBProbe.status = some 200 := by
  intro st
  have hnew : Server.Reached {} 0 := .new 0 ⟨rfl, rfl, rfl⟩
  obtain ⟨hok, -⟩ := run_isolated (Settings.hosted_default rfl rfl) hnew rfl rfl rfl (by decide) true
    none
  obtain ⟨r, st', hrun, husers, horders, -, hB, -⟩ := hok Settings.waits_default
  have hcounts : Tally.perWindow 5 1000 (readings 7 8 ((Settings.ofWindow 1000).startA 7 0)) =
      ⟨5, 3, 0⟩ := by decide +kernel
  exact ⟨r, st', hrun, husers.trans hcounts, horders, hB⟩

/-- A window of `10 ^ 309` is accepted, and is too long to wait for: the run has no results. -/
theorem run_isolated_of_long_window :
    let settings := Settings.ofWindow (10 ^ 155 * 10 ^ 154)
    let s : Server := { window := 10 ^ 155 * 10 ^ 154 }
    let st : Simulation := { now := 0, gateway := .server s }
    Settings.load { overrides := [("window_ms", .int (10 ^ 155 * 10 ^ 154))] } = .ok settings ∧
      settings.Hosted Simulation.unaryId Simulation.sleep s st ∧ s.Reached st.now ∧
      s.sharing = .none ∧
      ∀ r st', ¬ Leads (runScenario (Simulation.worldOf Simulation.unaryId Simulation.sleep) settings
        true none) st (.ok r) st' := by
  intro settings s st
  have hlong : Alignment.waitLimit ≤ 10 ^ 155 * 10 ^ 154 := by decide +kernel
  have hosted := @Settings.hosted_of_long _ hlong s rfl rfl
  have hreached : s.Reached 0 := .new 0 ⟨rfl, rfl, rfl⟩
  have hpos : 0 < s.window := by
    show (0 : Int) < 10 ^ 155 * 10 ^ 154
    decide +kernel
  refine ⟨rfl, hosted, hreached, rfl, ?_⟩
  exact Settings.no_results_of_long hlong rfl rfl (hreached.noLater hpos) ⟨rfl, rfl⟩ ⟨rfl, rfl⟩ true none

end RateIsolation
