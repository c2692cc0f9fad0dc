/-
  A run on a simulated gateway.

  * `Simulation.Hosts.experiment` is one experiment: after its wait no stored
    counter is of a window that its calls fall into, so its statuses follow
    from its own calls;
  * `Settings.Hosted` says what a run needs of the outside,
    `Settings.Hosted.run` what the run then finds, and
    `Settings.Hosted.run_overflow` that it ends early where a wait is too long.
-/
import RateIsolation.Proofs.Counting
import RateIsolation.Proofs.Service

namespace RateIsolation

open Harness

/-! ## Readings of the clock -/

theorem readings_concat (latency : Int) (n : Nat) (now : Int) :
    readings latency (n + 1) now = readings latency n now ++ [now + (n + 1) * latency] := by
  simp only [readings, List.range_succ, List.map_append, List.map_cons, List.map_nil]

theorem length_readings (latency : Int) (n : Nat) (now : Int) :
    (readings latency n now).length = n := by
  simp [readings]

/-- Readings are not before the first and not after the last. -/
theorem bounds_of_mem_readings {latency : Int} (hl : 0 ≤ latency) {n : Nat} {now time : Int}
    (h : time ∈ readings latency n now) : now ≤ time ∧ time ≤ now + n * latency := by
  simp only [readings, List.mem_map, List.mem_range] at h
  obtain ⟨i, hi, rfl⟩ := h
  have hstart : 0 ≤ ((i : Int) + 1) * latency := Int.mul_nonneg (by omega) hl
  have hend : ((i : Int) + 1) * latency ≤ n * latency := Int.mul_le_mul_of_nonneg_right (by omega) hl
  omega

theorem readings_mono {latency : Int} (hl : 0 ≤ latency) (n : Nat) (now : Int) :
    (readings latency n now).Pairwise (· ≤ ·) := by
  rw [readings, List.pairwise_map]
  refine List.pairwise_lt_range.imp ?_
  intro i j hij
  have := Int.mul_le_mul_of_nonneg_right (show ((i : Int) + 1) ≤ j + 1 by omega) hl
  omega

/-- Where the wait from a reading ends. -/
def Aligner.landing (a : Aligner) (now : Int) : Int := now + a.waitAt now

/-- A wait ends in a later window. -/
theorem Aligner.windowOf_lt_landing {a : Aligner} (hw : 0 < a.window) (hm : 0 ≤ a.margin)
    (now : Int) : windowOf a.window now < windowOf a.window (a.landing now) := by
  have hmargin := windowOf_mono hw hm
  rw [windowOf_eq_ediv hw 0, Int.zero_ediv] at hmargin
  rw [landing, windowOf_landing (waitFor_eq hw hm)]
  omega

/-- A wait ends as far past a boundary as the margin is. -/
theorem Aligner.landing_fmod {a : Aligner} (hw : 0 < a.window) (hm : 0 ≤ a.margin) (now : Int) :
    (a.landing now).fmod a.window = a.margin.fmod a.window := by
  rw [landing, wait_lands (waitFor_eq hw hm : waitFor now _ _ = _), Int.add_comm,
    Int.add_mul_fmod_self_right]

/-! ## One experiment -/

namespace Server

/-- The counters of a burst whose calls are a latency apart. -/
def burstKeys (s : Server) (token path : String) (latency : Int) (n : Nat) (start : Int) :
    List CounterKey :=
  (readings latency n start).map (s.counterKey token path)

/-- The counter of the probe after a burst. -/
def probeKey (s : Server) (token path : String) (latency : Int) (n : Nat) (start : Int) :
    CounterKey :=
  s.counterKey token path (start + (n + 1) * latency)

/-- The statuses of a burst whose counters are new. -/
def burstStatuses (quota : Int) (keys : List CounterKey) : List (Option Int) :=
  (Limiter.countsAfter [] [] keys).map fun count => some (statusFor quota count)

/-- The status of a probe after a burst, if the counters of both are new. -/
def probeStatus (quota : Int) (keys : List CounterKey) (key : CounterKey) : Option Int :=
  some (statusFor quota (keys.count key + 1))

theorem ofStatus_statusFor (quota : Int) (count : Nat) :
    Outcome.ofStatus (some (statusFor quota count)) =
      if Limiter.within quota count then .allowed else .throttled := by
  unfold statusFor
  split <;> rfl

/-- The counts of a burst on new counters: what is within the quota, and the rest. -/
theorem ofStatuses_burstStatuses (quota : Int) (keys : List CounterKey) :
    Tally.ofStatuses (burstStatuses quota keys) =
      ⟨Limiter.served quota keys, keys.length - Limiter.served quota keys, 0⟩ := by
  have hcounts : ∀ counts : List Nat,
      Tally.ofStatuses (counts.map fun count => some (statusFor quota count)) =
        ⟨counts.countP (Limiter.within quota),
          counts.length - counts.countP (Limiter.within quota), 0⟩ := by
    intro counts
    induction counts with
    | nil => rfl
    | cons count counts ih =>
      simp only [Tally.ofStatuses, Tally.ofOutcomes, List.map_map, Tally.mk.injEq] at ih
      obtain ⟨h₁, h₂, h₃⟩ := ih
      simp only [Tally.ofStatuses, Tally.ofOutcomes, List.map_cons, List.map_map,
        ofStatus_statusFor, List.count_cons, List.countP_cons, List.length_cons, Tally.mk.injEq]
      cases Limiter.within quota count
      · simp
        omega
      · simp
        omega
  rw [burstStatuses, hcounts, Limiter.length_countsAfter, Limiter.served]

/-- The windows of an experiment's calls are those of its readings. -/
theorem windows_of_experiment (s : Server) (token path token' path' : String) (latency : Int)
    (n : Nat) (start : Int) :
    (s.burstKeys token path latency n start ++ [s.probeKey token' path' latency n start]).map
        CounterKey.window =
      (readings latency (n + 1) start).map (windowOf s.window) := by
  rw [readings_concat, List.map_append, List.map_append, burstKeys, List.map_map]
  rfl

/-- **The calls of an experiment are counted among themselves.**  The counters are of no later window
    than a reading before the wait, the calls are after it. -/
theorem counts_of_experiment {s : Server} {counters : Counters} {latency now start : Int}
    (hw : 0 < s.window) (hl : 0 ≤ latency) (hlater : NoLater { s with counters := counters } now)
    (hstart : windowOf s.window now < windowOf s.window start) (n : Nat)
    (token path token' path' : String) :
    let keys := s.burstKeys token path latency n start
    let key := s.probeKey token' path' latency n start
    (Limiter.hitAll keys counters).1 = Limiter.countsAfter [] [] keys ∧
      (Limiter.hit key (Limiter.hitAll keys counters).2).1 = keys.count key + 1 ∧
      NoLater { s with counters := (Limiter.hit key (Limiter.hitAll keys counters).2).2 }
        (start + (n + 1) * latency) := by
  intro keys key
  have hwindows := s.windows_of_experiment token path token' path' latency n start
  have hmem : ∀ k ∈ keys ++ [key], windowOf s.window start ≤ k.window ∧
      k.window ≤ windowOf s.window (start + (n + 1) * latency) := by
    intro k hk
    have hk' : k.window ∈ (keys ++ [key]).map CounterKey.window := List.mem_map_of_mem hk
    rw [hwindows] at hk'
    obtain ⟨time, htime, hkw⟩ := List.mem_map.1 hk'
    obtain ⟨hle, hge⟩ := bounds_of_mem_readings hl htime
    rw [← hkw]
    refine ⟨windowOf_mono hw hle, windowOf_mono hw ?_⟩
    exact_mod_cast hge
  have hnew : ∀ k ∈ keys ++ [key], Table.get? k counters = none := by
    intro k hk
    rw [← Option.not_isSome_iff_eq_none, Option.isSome_iff_exists]
    rintro ⟨m, hm⟩
    have hbefore : k.window ≤ windowOf s.window now := hlater k m hm
    have hafter := (hmem k hk).1
    omega
  have hcounts : (Limiter.hitAll (keys ++ [key]) counters).1 =
      Limiter.countsAfter [] [] (keys ++ [key]) := by
    refine Limiter.hitAll_of_new ?_ hnew
    rw [hwindows, List.pairwise_map]
    exact (readings_mono hl _ _).imp (windowOf_mono hw)
  rw [Limiter.hitAll_append, Limiter.countsAfter_append] at hcounts
  obtain ⟨hburst, hprobe⟩ := List.append_inj hcounts (by
    rw [Limiter.length_hitAll, Limiter.length_countsAfter])
  refine ⟨hburst, ?_, ?_⟩
  · have hcount : (Limiter.hit key (Limiter.hitAll keys counters).2).1 =
        (Table.get? key ([] : Counters)).getD 0 + ([] ++ keys ++ [key]).count key :=
      (List.cons.inj hprobe).1
    rw [hcount, Table.get?_nil, Option.getD_none, Nat.zero_add, List.nil_append, List.count_append,
      List.count_singleton_self]
  · intro k m hk
    have hk' : Table.get? k (Limiter.hitAll (keys ++ [key]) counters).2 = some m := by
      rw [Limiter.hitAll_append]
      exact hk
    rcases Limiter.mem_or_kept_of_hitAll hk' with hmemk | ⟨m', hm'⟩
    · exact (hmem k hmemk).2
    · have hbefore : k.window ≤ windowOf s.window now := hlater k m' hm'
      have hlast := hmem key (by simp)
      show k.window ≤ windowOf s.window (start + (n + 1) * latency)
      omega

end Server

namespace Simulation

variable (newId : Nat → String)
  {sleep : Seconds → Simulation → Except SleepFault Unit × Simulation} {st : Simulation}
  {latency now : Int} {s : Server} {counters : Counters}

/-- **An experiment on new counters.**  A wait, a burst and a probe, from counters that are of no
    later window than the reading before the wait. -/
theorem Hosts.experiment (h : st.Hosts latency now s counters) (hl : 0 ≤ latency)
    (hlater : Server.NoLater { s with counters := counters } now) {a : Aligner}
    (hwindow : a.window = s.window) (hw : 0 < a.window) (hm : 0 ≤ a.margin)
    (hsleep : ExactSleep sleep a now) (hfits : a.Fits now) (g : GatewayClient) {count : Int}
    {n : Nat} (hn : count = n) (hpos : 1 ≤ n)
    (cA c : Credential) {users t : Target} {usersUrl url : Url} {usersPath path : String}
    {usersQuota quota : Int} (husers : Url.resolve users.url = .ok usersUrl)
    (hA : ∀ ch ∈ cA.token.toList, ch.toNat < 128)
    (hservesA : Serves s cA.token usersPath usersUrl usersQuota)
    (hurl : Url.resolve t.url = .ok url) (hc : ∀ ch ∈ c.token.toList, ch.toNat < 128)
    (hserves : Serves s c.token path url quota) :
    let start := a.landing now
    let keys := s.burstKeys cA.token usersPath latency n start
    let key := s.probeKey c.token path latency n start
    ∃ al st₁ st₂ st₃ counters',
      Leads (Scenario.alignWindow (worldOf newId sleep) a) st (.ok al) st₁ ∧
      Leads (g.burst (worldOf newId sleep) users cA count) st₁
        (.ok (.ofStatuses (Server.burstStatuses usersQuota keys))) st₂ ∧
      Leads (g.probe (worldOf newId sleep) t c) st₂
        (.ok ⟨t.name, Server.probeStatus quota keys key⟩) st₃ ∧
      st₃.Hosts latency (start + (n + 1) * latency) s counters' ∧
      Server.NoLater { s with counters := counters' } (start + (n + 1) * latency) := by
  intro start keys key
  have hstart : windowOf s.window now < windowOf s.window start :=
    hwindow ▸ Aligner.windowOf_lt_landing hw hm now
  obtain ⟨hcounts, hcount, hlater'⟩ := Server.counts_of_experiment (hwindow ▸ hw) hl hlater hstart n
    cA.token usersPath c.token path
  obtain ⟨st₁, halign, h₁⟩ := h.align newId hsleep hw hm hfits
  obtain ⟨hanswered, hstatuses, h₂⟩ := h₁.exchanges newId sleep g cA hservesA n
  obtain ⟨hprobed, hstatus, h₃⟩ := h₂.exchange newId sleep g c hserves
  subst hn
  have hburst := @GatewayClient.burst_leads _ _ g cA usersUrl users st₁ husers hA n (by omega)
    hanswered
  have hprobe := GatewayClient.probe_leads hurl hc hprobed
  have htime : now + a.waitAt now + n * latency + latency = start + (n + 1) * latency := by
    rw [Int.add_mul, Int.one_mul]
    simp only [start, Aligner.landing]
    omega
  have hkeys : (readings latency n (now + a.waitAt now)).map (s.counterKey cA.token usersPath) =
      keys := rfl
  have hkey : s.counterKey c.token path (start + (n + 1) * latency) = key := rfl
  rw [Int.toNat_natCast, hstatuses, hkeys, hcounts] at hburst
  rw [hstatus, htime, hkeys, hkey, hcount] at hprobe
  rw [htime, hkeys, hkey] at h₃
  exact ⟨_, st₁, _, _, _, halign, hburst, hprobe, h₃, hlater'⟩

end Simulation

/-! ## Whole runs -/

namespace Settings

/-- The clock before the first wait of a run, after the two logins. -/
def readingA (_ : Settings) (latency now : Int) : Int := now + 2 * latency

/-- The clock after the first wait. -/
def startA (settings : Settings) (latency now : Int) : Int :=
  settings.scenario.aligner.landing (settings.readingA latency now)

/-- The clock before the second wait, after a burst and a probe. -/
def readingB (settings : Settings) (latency now : Int) : Int :=
  settings.startA latency now + (settings.burstRequests + 1) * latency

/-- The clock after the second wait. -/
def startB (settings : Settings) (latency now : Int) : Int :=
  settings.scenario.aligner.landing (settings.readingB latency now)

/-- Whether both waits of a run have a number of seconds. -/
def Waits (settings : Settings) (latency now : Int) : Prop :=
  settings.scenario.aligner.Fits (settings.readingA latency now) ∧
    settings.scenario.aligner.Fits (settings.readingB latency now)

/-- A simulated outside on which a run can be made: the gateway `s` has the windows of the settings,
    knows both callers and is reached at the default paths; ids are texts that can be tokens, and
    none is given twice; each wait moves the clock by exactly its length. -/
structure Hosted (settings : Settings) (newId : Nat → String)
    (sleep : Seconds → Simulation → Except SleepFault Unit × Simulation) (s : Server)
    (st : Simulation) : Prop where
  gateway : st.gateway = .server s
  latency : 0 ≤ st.latency
  burst : 2 ≤ settings.burstRequests
  window : 1 ≤ settings.windowMs
  margin : 0 ≤ settings.alignMarginMs
  sameWindow : settings.windowMs = s.window
  callerA : Table.get? settings.username s.users = some settings.password
  callerB : Table.get? settings.identityBUsername s.users = some settings.identityBPassword
  auth : ∃ url, Url.resolve settings.scenario.auth.loginUrl = .ok url ∧
    url.decodedPath = "/auth/login"
  users : ∃ url, Url.resolve settings.scenario.users.url = .ok url ∧ url.Reaches "/api/v1/users"
  orders : ∃ url, Url.resolve settings.scenario.orders.url = .ok url ∧ url.Reaches "/api/v1/orders"
  fresh : Function.Injective newId
  nonempty : ∀ n, newId n ≠ ""
  ascii : ∀ n, ∀ ch ∈ (newId n).toList, ch.toNat < 128
  sleepA : Simulation.ExactSleep sleep settings.scenario.aligner
    (settings.readingA st.latency st.now)
  sleepB : Simulation.ExactSleep sleep settings.scenario.aligner
    (settings.readingB st.latency st.now)

end Settings

/-- What the experiments find whose calls are counted on new counters: the first burst and probe are
    those of caller A on users and orders, the second burst is that of caller A on users and the
    second probe that of caller B. -/
structure Findings.Counted (f : Findings) (s : Server) (usersQuota ordersQuota : Int)
    (tokenA tokenB : String) (latency : Int) (n : Nat) (startA startB : Int) : Prop where
  usersBurst : f.usersBurst =
    .ofStatuses (Server.burstStatuses usersQuota (s.burstKeys tokenA "/api/v1/users" latency n startA))
  ordersProbe : f.ordersProbe.status = Server.probeStatus ordersQuota
    (s.burstKeys tokenA "/api/v1/users" latency n startA)
    (s.probeKey tokenA "/api/v1/orders" latency n startA)
  tokenABurst : f.tokenABurst =
    .ofStatuses (Server.burstStatuses usersQuota (s.burstKeys tokenA "/api/v1/users" latency n startB))
  tokenBProbe : f.tokenBProbe.status = Server.probeStatus usersQuota
    (s.burstKeys tokenA "/api/v1/users" latency n startB)
    (s.probeKey tokenB "/api/v1/users" latency n startB)

namespace Settings.Hosted

variable {settings : Settings} {newId : Nat → String}
  {sleep : Seconds → Simulation → Except SleepFault Unit × Simulation} {s : Server}
  {st st₀ : Simulation} {latency now : Int}

/-- The server after the logins of both callers. -/
def loggedIn (settings : Settings) (s : Server) (tokenA tokenB : String) : Server :=
  let tokens := Table.set tokenA settings.username s.tokens
  { s with tokens := Table.set tokenB settings.identityBUsername tokens }

/-- The logins give two tokens, and take two latencies. -/
theorem logins (h : settings.Hosted newId sleep s st)
    (hst : st₀.Hosts st.latency st.now s s.counters) :
    ∃ k k' st₁ st₂, newId k ≠ newId k' ∧
      Leads (settings.scenario.auth.acquire (Simulation.worldOf newId sleep) settings.scenario.callerA)
        st₀ (.ok (settings.scenario.callerA.granted (newId k))) st₁ ∧
      Leads (settings.scenario.auth.acquire (Simulation.worldOf newId sleep) settings.scenario.callerB)
        st₁ (.ok (settings.scenario.callerB.granted (newId k'))) st₂ ∧
      st₂.Hosts st.latency (settings.readingA st.latency st.now)
        (loggedIn settings s (newId k) (newId k')) s.counters := by
  obtain ⟨url, hurl, hpath⟩ := h.auth
  obtain ⟨⟨rA, hrA, hjA⟩, h₁, hnext⟩ := hst.login newId sleep settings.scenario.auth
    settings.scenario.callerA hpath h.callerA (h.nonempty _)
  obtain ⟨⟨rB, hrB, hjB⟩, h₂, -⟩ := h₁.login newId sleep settings.scenario.auth
    settings.scenario.callerB hpath h.callerB (h.nonempty _)
  have htime : st.now + st.latency + st.latency = settings.readingA st.latency st.now := by
    rw [readingA]
    omega
  rw [htime] at h₂
  refine ⟨_, _, _, _, ?_, LoginService.acquire_leads hurl hrA hjA,
    LoginService.acquire_leads hurl hrB hjB, h₂⟩
  exact fun heq => Nat.ne_of_lt hnext (h.fresh heq)

theorem has_tokenA (tokenA tokenB : String) :
    Table.has tokenA (loggedIn settings s tokenA tokenB).tokens = true := by
  rw [Table.has, loggedIn, Table.get?_set]
  split
  · rfl
  · rw [Table.get?_set_self]
    rfl

theorem has_tokenB (tokenA tokenB : String) :
    Table.has tokenB (loggedIn settings s tokenA tokenB).tokens = true := by
  rw [Table.has, loggedIn, Table.get?_set_self]
  rfl

/-- Calls with a token that the logins gave are counted. -/
theorem serves (h : settings.Hosted newId sleep s st) {tokenA tokenB token path name : String}
    {url : Url} {quota : Int} (hplain : Server.Plain path name) (hurl : url.Reaches path)
    (hlimited : s.Limited path quota)
    (htoken : Table.has token (loggedIn settings s tokenA tokenB).tokens = true) :
    Simulation.Serves (loggedIn settings s tokenA tokenB) token path url quota where
  plain := ⟨name, hplain⟩
  reaches := hurl
  limited := ⟨hlimited.quota, hlimited.route⟩
  token := htoken
  window := by
    have hw := h.window
    rw [h.sameWindow] at hw
    exact Int.ne_of_gt hw

/-- The experiments find what their own calls count to, unless a wait has no number of seconds. -/
theorem experiments (h : settings.Hosted newId sleep s st) (hlater : s.NoLater st.now)
    {usersQuota ordersQuota : Int} (husers : s.Limited "/api/v1/users" usersQuota)
    (horders : s.Limited "/api/v1/orders" ordersQuota)
    (hst : st₀.Hosts st.latency st.now s s.counters) :
    (settings.Waits st.latency st.now →
      ∃ (tokenA tokenB : String) (f : Findings) (st' : Simulation), tokenA ≠ tokenB ∧
        f.Counted s usersQuota ordersQuota tokenA tokenB st.latency settings.burstRequests.toNat
          (settings.startA st.latency st.now) (settings.startB st.latency st.now) ∧
        Leads (settings.scenario.experiments (Simulation.worldOf newId sleep)) st₀ (.ok f) st') ∧
    (¬ settings.Waits st.latency st.now → ∃ st',
      Leads (settings.scenario.experiments (Simulation.worldOf newId sleep)) st₀
        (.error .secondsOverflow) st') := by
  obtain ⟨n, hn⟩ := Int.eq_ofNat_of_zero_le (Int.le_trans (by decide) h.burst)
  have hpos : 1 ≤ n := by
    have := h.burst
    omega
  have hw : 0 < settings.windowMs := Int.lt_of_lt_of_le Int.one_pos h.window
  have hcount : settings.burstRequests.toNat = n := by rw [hn, Int.toNat_natCast]
  have hreadingB : settings.readingB st.latency st.now =
      settings.startA st.latency st.now + (n + 1) * st.latency := by rw [readingB, hn]
  have hlater' : s.NoLater (settings.readingA st.latency st.now) := by
    have := h.latency
    refine hlater.mono (h.sameWindow ▸ hw) ?_
    rw [readingA]
    omega
  -- the logins, and what the calls need after them
  obtain ⟨k, k', st₁, st₂, hne, hloginA, hloginB, h₂⟩ := h.logins hst
  obtain ⟨usersUrl, husersUrl, husersReach⟩ := h.users
  obtain ⟨ordersUrl, hordersUrl, hordersReach⟩ := h.orders
  have hA := h.serves Server.plain_users husersReach husers (has_tokenA (newId k) (newId k'))
  have hAOrders := h.serves Server.plain_orders hordersReach horders
    (has_tokenA (newId k) (newId k'))
  have hB := h.serves Server.plain_users husersReach husers (has_tokenB (newId k) (newId k'))
  let cA := settings.scenario.callerA.granted (newId k)
  let cB := settings.scenario.callerB.granted (newId k')
  by_cases hfitsA : settings.scenario.aligner.Fits (settings.readingA st.latency st.now)
  · obtain ⟨alA, st₃, st₄, st₅, counters, halignA, hburstA, hprobeA, h₅, hlater₅⟩ :=
      h₂.experiment newId h.latency hlater' h.sameWindow hw h.margin h.sleepA hfitsA
        settings.scenario.gateway hn hpos cA cA husersUrl (h.ascii k) hA hordersUrl (h.ascii k)
        hAOrders
    by_cases hfitsB : settings.scenario.aligner.Fits (settings.readingB st.latency st.now)
    · have hfits : settings.Waits st.latency st.now := ⟨hfitsA, hfitsB⟩
      have hsleepB := h.sleepB
      rw [hreadingB] at hsleepB hfitsB
      obtain ⟨alB, st₆, st₇, st₈, -, halignB, hburstB, hprobeB, -, -⟩ :=
        h₅.experiment newId h.latency hlater₅ h.sameWindow hw h.margin hsleepB hfitsB
          settings.scenario.gateway hn hpos cA cB husersUrl (h.ascii k) hA husersUrl (h.ascii k') hB
      refine ⟨fun _ => ⟨newId k, newId k', _, st₈, hne, ?_, Scenario.experiments_leads hloginA
        hloginB halignA hburstA hprobeA halignB hburstB hprobeB⟩, fun hnot => absurd hfits hnot⟩
      rw [hcount, startB, hreadingB]
      exact ⟨rfl, rfl, rfl, rfl⟩
    · refine ⟨fun hfits => absurd hfits.2 hfitsB, fun _ => ⟨st₅, ?_⟩⟩
      rw [hreadingB] at hfitsB
      exact Scenario.experiments_ends_second hloginA hloginB halignA hburstA hprobeA
        (h₅.align_overflow newId hw h.margin hfitsB)
  · refine ⟨fun hfits => absurd hfits.1 hfitsA, fun _ => ⟨st₂, ?_⟩⟩
    exact Scenario.experiments_ends_first hloginA hloginB
      (h₂.align_overflow newId hw h.margin hfitsA)

/-- **A run on a simulated gateway.**  Where no counter is of a later window and both routes have
    quotas, the run finds what its own calls count to, unless a wait has no number of seconds. -/
theorem run (h : settings.Hosted newId sleep s st) (hlater : s.NoLater st.now)
    {usersQuota ordersQuota : Int} (husers : s.Limited "/api/v1/users" usersQuota)
    (horders : s.Limited "/api/v1/orders" ordersQuota) (shared : Bool) (runId : Option String) :
    (settings.Waits st.latency st.now →
      ∃ (tokenA tokenB : String) (f : Findings) (id : String) (st' : Simulation), tokenA ≠ tokenB ∧
        f.Counted s usersQuota ordersQuota tokenA tokenB st.latency settings.burstRequests.toNat
          (settings.startA st.latency st.now) (settings.startB st.latency st.now) ∧
        Leads (runScenario (Simulation.worldOf newId sleep) settings shared runId) st
          (.ok (f.result id)) st') ∧
    (¬ settings.Waits st.latency st.now → ∃ st',
      Leads (runScenario (Simulation.worldOf newId sleep) settings shared runId) st
        (.error .secondsOverflow) st') := by
  have hw : 0 < settings.windowMs := Int.lt_of_lt_of_le Int.one_pos h.window
  have hstart : ((Simulation.worldOf newId sleep).startRun runId st).2.Hosts st.latency st.now s
      s.counters := by
    cases runId with
    | some id => exact ⟨rfl, rfl, s.log, h.gateway⟩
    | none => exact ⟨rfl, rfl, s.log, h.gateway⟩
  obtain ⟨hok, hoverflow⟩ := h.experiments hlater husers horders hstart
  constructor
  · intro hwaits
    obtain ⟨tokenA, tokenB, f, st', htokens, hf, hend⟩ := hok hwaits
    exact ⟨tokenA, tokenB, f, _, st', htokens, hf, runScenario_leads hw h.margin hend⟩
  · intro hwaits
    obtain ⟨st', hend⟩ := hoverflow hwaits
    exact ⟨st', runScenario_leads hw h.margin hend⟩

end Settings.Hosted

/-! ## The default settings on the gateway of this machine -/

namespace Simulation

/-- An id of its own for each number. -/
def unaryId (n : Nat) : String := String.ofList (List.replicate (n + 1) 'i')

theorem unaryId_injective : Function.Injective unaryId := by
  intro m n h
  have hlength := congrArg (fun id => id.toList.length) h
  simp only [unaryId, String.toList_ofList, List.length_replicate] at hlength
  omega

/-- A sleep is exact where the wait is read back from its seconds. -/
theorem exactSleep_of_readBack {a : Aligner} {now : Int}
    (h : ((secondsOfMillis (a.waitAt now)).bind fun x => (x.times 1000).nearestInt?) =
      some (a.waitAt now)) : ExactSleep sleep a now := by
  intro st seconds hnow hseconds
  refine ⟨st.sleeps ++ [.binary seconds], ?_⟩
  rw [hseconds, Option.bind_some] at h
  rw [sleep]
  dsimp only
  rw [Seconds.millis, h]
  dsimp only
  rw [hnow]

end Simulation

theorem Url.reaches_users : (Url.local 8085 "/api/v1/users").Reaches "/api/v1/users" :=
  ⟨by decide +kernel, ⟨'h', ['t', 't', 'p'], rfl, by decide⟩, rfl⟩

theorem Url.reaches_orders : (Url.local 8085 "/api/v1/orders").Reaches "/api/v1/orders" :=
  ⟨by decide +kernel, ⟨'h', ['t', 't', 'p'], rfl, by decide⟩, rfl⟩

/-- The default settings can be run on a gateway with their window and the default users. -/
theorem Settings.hosted_ofWindow {window : Int} (hw : 1 ≤ window)
    {sleep : Seconds → Simulation → Except SleepFault Unit × Simulation} {s : Server}
    (hwindow : window = s.window) (husers : s.users = [("user_all", "123"), ("user_b", "123")])
    {st : Simulation} (hgateway : st.gateway = .server s) (hl : 0 ≤ st.latency)
    (hsleepA : Simulation.ExactSleep sleep ⟨window, 30⟩
      ((ofWindow window).readingA st.latency st.now))
    (hsleepB : Simulation.ExactSleep sleep ⟨window, 30⟩
      ((ofWindow window).readingB st.latency st.now)) :
    (ofWindow window).Hosted Simulation.unaryId sleep s st where
  gateway := hgateway
  latency := hl
  burst := show (2 : Int) ≤ 8 by decide
  window := hw
  margin := show (0 : Int) ≤ 30 by decide
  sameWindow := hwindow
  callerA := by
    rw [husers]
    rfl
  callerB := by
    rw [husers]
    rfl
  auth := ⟨_, resolve_login window, by decide +kernel⟩
  users := ⟨_, resolve_users window, Url.reaches_users⟩
  orders := ⟨_, resolve_orders window, Url.reaches_orders⟩
  fresh := Simulation.unaryId_injective
  nonempty := by
    intro n h
    have hlength := congrArg (fun id => id.toList.length) h
    simp [Simulation.unaryId] at hlength
  ascii := by
    intro n ch hch
    simp only [Simulation.unaryId, String.toList_ofList, List.mem_replicate] at hch
    rw [hch.2]
    decide
  sleepA := hsleepA
  sleepB := hsleepB

/-- They can be run on a gateway a latency of 7 milliseconds away. -/
theorem Settings.hosted_default {s : Server} (hwindow : 1000 = s.window)
    (husers : s.users = [("user_all", "123"), ("user_b", "123")]) :
    (ofWindow 1000).Hosted Simulation.unaryId Simulation.sleep s
      { now := 0, latency := 7, gateway := .server s } := by
  have hsleepA : Simulation.ExactSleep Simulation.sleep ⟨1000, 30⟩ ((ofWindow 1000).readingA 7 0) := by
    apply Simulation.exactSleep_of_readBack
    decide +kernel
  have hsleepB : Simulation.ExactSleep Simulation.sleep ⟨1000, 30⟩ ((ofWindow 1000).readingB 7 0) := by
    apply Simulation.exactSleep_of_readBack
    decide +kernel
  exact hosted_ofWindow (by decide) hwindow husers rfl (show (0 : Int) ≤ 7 by decide) hsleepA hsleepB

theorem Settings.waits_default : (ofWindow 1000).Waits 7 0 := ⟨fits_default _, fits_default _⟩

/-! ## A window that is too long -/

namespace Settings

variable {window : Int}

theorem not_fits_readingA (hlong : Alignment.waitLimit ≤ window) :
    ¬ (⟨window, 30⟩ : Aligner).Fits ((ofWindow window).readingA 0 0) := by
  have hreading : (ofWindow window).readingA 0 0 = 0 := rfl
  apply Aligner.not_fits_of_long hlong
  rw [hreading, Int.zero_fmod]
  exact (by decide : (0 : Int) ≤ 30)

theorem not_fits_readingB (hlong : Alignment.waitLimit ≤ window) :
    ¬ (⟨window, 30⟩ : Aligner).Fits ((ofWindow window).readingB 0 0) := by
  have hlimit : 30 < Alignment.waitLimit := Alignment.lt_waitLimit (by decide)
  have hreading : (ofWindow window).readingB 0 0 = 30 + window := by
    have hA : (ofWindow window).readingA 0 0 = 0 := rfl
    have haligner : (ofWindow window).scenario.aligner = ⟨window, 30⟩ := rfl
    rw [readingB, startA, hA, haligner, Aligner.landing, Aligner.waitAt, Int.zero_fmod]
    dsimp only
    omega
  apply Aligner.not_fits_of_long hlong
  rw [hreading, Int.add_fmod_right, Int.fmod_eq_of_lt (by decide) (by omega)]

/-- No run with such a window waits. -/
theorem not_waits_of_long (hlong : Alignment.waitLimit ≤ window) : ¬ (ofWindow window).Waits 0 0 :=
  fun h => not_fits_readingA hlong h.1

/-- Nothing but the length of the window is in the way. -/
theorem hosted_of_long (hlong : Alignment.waitLimit ≤ window) {s : Server} (hwindow : window = s.window)
    (husers : s.users = [("user_all", "123"), ("user_b", "123")]) :
    (ofWindow window).Hosted Simulation.unaryId Simulation.sleep s
      { now := 0, gateway := .server s } := by
  have hpos : 1 ≤ window := by
    have := Alignment.lt_waitLimit (show (1 : Int) ≤ 2 ^ 64 by decide)
    omega
  have hexact {now : Int} (h : ¬ (⟨window, 30⟩ : Aligner).Fits now) :
      Simulation.ExactSleep Simulation.sleep ⟨window, 30⟩ now := by
    intro st seconds _ hseconds
    rw [(Aligner.secondsOfMillis_waitAt (show 0 < window by omega) (show (0 : Int) ≤ 30 by decide)).2
      h] at hseconds
    cases hseconds
  exact hosted_ofWindow hpos hwindow husers rfl (Int.le_refl 0) (hexact (not_fits_readingA hlong))
    (hexact (not_fits_readingB hlong))

/-- A run with such a window has no results. -/
theorem no_results_of_long (hlong : Alignment.waitLimit ≤ window) {s : Server}
    (hwindow : window = s.window) (husers : s.users = [("user_all", "123"), ("user_b", "123")])
    (hlater : s.NoLater 0) {usersQuota ordersQuota : Int}
    (hlimited : s.Limited "/api/v1/users" usersQuota)
    (hlimited' : s.Limited "/api/v1/orders" ordersQuota) (shared : Bool) (runId : Option String)
    (r : RunResult) (st' : Simulation) :
    ¬ Leads (runScenario (Simulation.worldOf Simulation.unaryId Simulation.sleep) (ofWindow window)
      shared runId) { now := 0, gateway := .server s } (.ok r) st' := by
  intro hrun
  obtain ⟨-, hoverflow⟩ := (hosted_of_long hlong hwindow husers).run hlater hlimited hlimited' shared
    runId
  obtain ⟨_, hfault⟩ := hoverflow (not_waits_of_long hlong)
  cases (hfault.unique hrun).1

end Settings

end RateIsolation
