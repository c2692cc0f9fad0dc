/-
  The gateway as a run meets it.

  * `Server.handle_login`: a login of a known user gives the next id as token;
  * `Server.handle_get`: a call with an issued token is counted, and its status
    tells whether the count is within the quota;
  * `Simulation.Hosts` describes a simulated outside by its clock and its
    gateway; `Hosts.login`, `Hosts.exchange`, `Hosts.exchanges` and
    `Hosts.align` are the steps of a run on it.
-/
import Mathlib.Tactic.Ring
import RateIsolation.Proofs.Gateway
import RateIsolation.Proofs.ReadBack
import RateIsolation.Proofs.Run

namespace RateIsolation

/-! ## Messages -/

namespace Incoming

theorem header?_cons (name value : String) (rest : List (String × String)) (m : Incoming)
    (h : m.headers = (name, value) :: rest) (wanted : String) :
    m.header? wanted =
      if Text.toAsciiLower name == Text.toAsciiLower wanted then some value
      else { m with headers := rest }.header? wanted := by
  rw [header?, h, List.find?_cons]
  split
  · rename_i heq
    rw [if_pos heq, Option.map_some]
  · rename_i heq
    rw [heq, if_neg (by simp), header?]

theorem headers_ofRequest {r : Request} {a id : String} (ha : r.authorization = some a)
    (hid : r.requestId = some id) (hbody : r.body = none) :
    (ofRequest r).headers = [("authorization", a), ("x-request-id", id)] := by
  simp only [ofRequest, ha, hid, hbody, List.singleton_append, List.append_nil]

/-- A request with a body and without an id has the content type of its body. -/
theorem contentType_ofRequest {r : Request} {body : Json} (hid : r.requestId = none)
    (hbody : r.body = some body) :
    (ofRequest r).header? "content-type" = some "application/json" := by
  cases ha : r.authorization with
  | none =>
    have hheaders : (ofRequest r).headers = [("content-type", "application/json")] := by
      simp only [ofRequest, ha, hid, hbody, List.nil_append]
    rw [header?_cons _ _ _ _ hheaders, if_pos (by decide)]
  | some a =>
    have hheaders : (ofRequest r).headers =
        [("authorization", a), ("content-type", "application/json")] := by
      simp only [ofRequest, ha, hid, hbody, List.append_nil, List.singleton_append]
    rw [header?_cons _ _ _ _ hheaders, if_neg (by decide), header?_cons _ _ [] _ rfl,
      if_pos (by decide)]

end Incoming

/-- A token in a header is read back. -/
theorem Server.bearerToken_bearer {s : Server} {token : String} (h : Table.has token s.tokens = true) :
    s.bearerToken (some ("Bearer " ++ token)) = some token := by
  have hprefix : "Bearer ".toList.isPrefixOf ("Bearer " ++ token).toList = true := by
    rw [String.toList_append, List.isPrefixOf_iff_prefix]
    exact List.prefix_append _ _
  have hdrop : String.ofList (("Bearer " ++ token).toList.drop 7) = token := by
    rw [String.toList_append, List.drop_append]
    simp
  simp only [bearerToken, hprefix, ↓reduceIte, hdrop, h]

/-- An address of a path that is read as it is: it has a scheme, and names no user. -/
structure Url.Reaches (u : Url) (path : String) : Prop where
  path : u.decodedPath = path
  scheme : ∃ c rest, u.scheme.toList = c :: rest ∧ c ≠ ':'
  anonymous : u.login? = none

/-- A route whose path is read as it is. -/
structure Server.Plain (path name : String) : Prop where
  route : routeOf path = some (.resource name)
  plain : path.toList.all (fun c => decide (c ∉ ['\t', '\n', '\r', '?', '#'])) = true

theorem Server.plain_users : Plain "/api/v1/users" "users" := ⟨rfl, by decide⟩

theorem Server.plain_orders : Plain "/api/v1/orders" "orders" := ⟨rfl, by decide⟩

theorem Server.quotaPath_eq {m : Incoming} {path name : String} (hplain : Plain path name)
    (hpath : m.path = path) (horigin : ∃ c rest, m.origin.toList = c :: rest ∧ c ≠ ':') :
    quotaPath m = path := by
  obtain ⟨c, rest, hc, hne⟩ := horigin
  have hkept : ∀ c ∈ path.toList, c ∉ ['\t', '\n', '\r', '?', '#'] := by
    have hplain := hplain.plain
    rw [List.all_eq_true] at hplain
    exact fun c hc => of_decide_eq_true (hplain c hc)
  have hfilter : m.path.toList.filter (fun c => c != '\t' && c != '\n' && c != '\r') =
      path.toList := by
    rw [hpath, List.filter_eq_self]
    intro c hc
    have := hkept c hc
    simp only [List.mem_cons, List.not_mem_nil, or_false, not_or] at this
    simp [this]
  have htake : path.toList.takeWhile (fun c => c != '?' && c != '#') = path.toList := by
    rw [List.takeWhile_eq_self_iff]
    intro c hc
    have := hkept c hc
    simp only [List.mem_cons, List.not_mem_nil, or_false, not_or] at this
    simp [this]
  have hhead : ¬ m.origin.toList.head? = some ':' := by
    rw [hc, List.head?_cons]
    simpa using hne
  simp only [quotaPath, hfilter, htake, hhead, ↓reduceIte, String.ofList_toList]

/-! ## Calls of routes -/

namespace Server

/-- Calls of a path are counted, against that quota. -/
structure Limited (s : Server) (path : String) (quota : Int) : Prop where
  quota : Table.get? (s.quotaRoute path) s.quotas = some quota
  route : Table.has path s.quotas = true

/-- The server after a call that was counted. -/
def count (s : Server) (token route : String) (now : Int) (calls : List ServedCall) : Server :=
  { s with counters := (Limiter.hit (s.counterKey token route now) s.counters).2, log := calls }

/-- The status of a call with a count. -/
def statusFor (quota : Int) (count : Nat) : Int := if Limiter.within quota count then 200 else 429

variable {s : Server} {path name token id : String} {quota now : Int} {url : Url}

/-- A call with an issued token is answered by its count. -/
theorem resource_eq (now : Int) (hlimited : s.Limited path quota)
    (htoken : Table.has token s.tokens = true) (hw : s.window ≠ 0) :
    ∃ answer calls, s.resource path (some ("Bearer " ++ token)) now =
        (.ok answer, s.count token path now calls) ∧
      (if Limiter.within quota (Limiter.hit (s.counterKey token path now) s.counters).1
        then answer = .served else answer = .limited) := by
  have hallow : s.allow token path now =
      (.ok (Limiter.within quota (Limiter.hit (s.counterKey token path now) s.counters).1),
        { s with counters := (Limiter.hit (s.counterKey token path now) s.counters).2 }) := by
    simp only [allow, hw, ↓reduceIte, hlimited.quota]
  simp only [resource, hlimited.route, Bool.not_true, Bool.false_eq_true, ↓reduceIte,
    bearerToken_bearer htoken, hallow]
  cases Limiter.within quota (Limiter.hit (s.counterKey token path now) s.counters).1
  · exact ⟨.limited, _, rfl, rfl⟩
  · exact ⟨.served, _, rfl, rfl⟩

/-- The request id adds a header to an answer and may use up an id. -/
theorem handle_of_ok {newId : Nat → String} {next : Nat} {m : Incoming} {a : Answer} {s' : Server}
    (h : s.answer m now (newId next) = (.ok a, s')) :
    ∃ response next', s.handle newId next m now = (.ok (response, a.notes), next', s') ∧
      response.status = a.response.status ∧
      response.body = (if m.method = "HEAD" then [] else a.response.body) ∧
      response.reading = a.response.reading ∧ next + a.idsUsed ≤ next' := by
  unfold handle
  rw [h]
  refine ⟨_, _, rfl, rfl, rfl, rfl, ?_⟩
  split
  · exact Nat.le_succ _
  · split
    · exact Nat.le_succ _
    · exact Nat.le_refl _

/-- A message that was answered keeps its status and its body, and ids are only used up. -/
theorem handle_of_answer {newId : Nat → String} {next : Nat} {m : Incoming} {a : Answer} {s' : Server}
    (h : s.answer m now (newId next) = (.ok a, s')) (hmethod : m.method ≠ "HEAD") :
    ∃ response next', s.handle newId next m now = (.ok (response, a.notes), next', s') ∧
      response.status = a.response.status ∧ response.body = a.response.body ∧
      response.reading = a.response.reading ∧ next + a.idsUsed ≤ next' := by
  obtain ⟨response, next', hhandle, hstatus, hbody, hnext⟩ := handle_of_ok h
  exact ⟨response, next', hhandle, hstatus, hbody.trans (if_neg hmethod), hnext⟩

/-- A message of a route's path and method is dispatched. -/
theorem answer_eq_dispatch (s : Server) {m : Incoming} {route : Route}
    (hroute : routeOf m.path = some route) (hmethod : (methodsOf route).contains m.method = true)
    (now : Int) (token : String) :
    s.answer m now token = s.dispatch route m now token := by
  unfold answer
  rw [hroute]
  dsimp only
  rw [if_pos hmethod]

/-- **A call of a route is counted, and answered by its count.** -/
theorem handle_get (newId : Nat → String) (next : Nat) (g : GatewayClient) (c : Credential)
    (id : String) (now : Int) (hplain : Plain path name) (hurl : url.Reaches path)
    (hlimited : s.Limited path quota) (htoken : Table.has c.token s.tokens = true)
    (hw : s.window ≠ 0) :
    ∃ response notes next' calls,
      s.handle newId next (.ofRequest (g.request c id url)) now =
        (.ok (response, notes), next', s.count c.token path now calls) ∧
      next ≤ next' ∧
      response.status =
        statusFor quota (Limiter.hit (s.counterKey c.token path now) s.counters).1 := by
  let m : Incoming := .ofRequest (g.request c id url)
  have horigin : ∃ ch rest, m.origin.toList = ch :: rest ∧ ch ≠ ':' := by
    obtain ⟨ch, rest, hch, hne⟩ := hurl.scheme
    refine ⟨ch, rest ++ ("://".toList ++ url.hostAndPort.toList), ?_, hne⟩
    show (url.scheme ++ "://" ++ url.hostAndPort).toList = _
    rw [String.toList_append, String.toList_append, hch, List.append_assoc, List.cons_append]
  have hpath : quotaPath m = path := quotaPath_eq hplain hurl.path horigin
  have hheader : m.header? "authorization" = some ("Bearer " ++ c.token) := by
    have hauth : (g.request c id url).authorization = some ("Bearer " ++ c.token) := by
      rw [GatewayClient.request, authorizationFor, hurl.anonymous, Credential.authorization]
    have hheaders : m.headers = [("authorization", "Bearer " ++ c.token), ("x-request-id", id)] :=
      Incoming.headers_ofRequest hauth rfl rfl
    rw [Incoming.header?_cons _ _ _ m hheaders, if_pos (by decide)]
  obtain ⟨answer, calls, hresource, hanswer⟩ := resource_eq now hlimited htoken hw
  have hname : routeOf m.path = some (.resource name) :=
    (congrArg routeOf hurl.path).trans hplain.route
  have hdispatch := answer_eq_dispatch s hname rfl now (newId next)
  rw [dispatch, hpath, hheader, hresource] at hdispatch
  have hget : m.method ≠ "HEAD" := by
    show "GET" ≠ "HEAD"
    decide
  obtain ⟨response, next', hhandle, hstatus, -, -, hle⟩ := handle_of_answer hdispatch hget
  refine ⟨response, _, next', calls, hhandle, Nat.le_trans (Nat.le_add_right _ _) hle, ?_⟩
  · rw [hstatus, statusFor]
    split at hanswer
    · rename_i h
      rw [hanswer, if_pos h]
      rfl
    · rename_i h
      rw [hanswer, if_neg h]
      rfl

end Server

/-! ## Logins -/

/-- The body of a login is read back where there is room for one level. -/
theorem LoginService.ofBytes_loginBody (room : Nat) (i : Identity) :
    Json.ofBytes (room + 1) (utf8Bytes ((loginBody i).render Json.compact)) = .ok (loginBody i) :=
  Json.ofBytes_texts room "username" i.username [("password", i.password)]

/-- A token that is not empty is read from an answer. -/
theorem LoginService.judgeResponse_token {r : Response} {token : String} (hstatus : r.status = 200)
    (hbody : r.body = utf8Bytes ((Json.record [("token", .text token)]).render Json.compact))
    (hroom : r.reading.room ≠ 0) (htoken : token ≠ "") : judgeResponse r = .ok token := by
  have hjson : r.json = .ok (.obj [(.plain "token", .text token)]) := by
    obtain ⟨room, hroom⟩ := Nat.exists_eq_succ_of_ne_zero hroom
    rw [Response.json, hbody, hroom]
    exact Json.ofBytes_texts room "token" token []
  have hread : readToken (.obj [(.plain "token", .text token)]) = .ok token :=
    readToken_eq_ok_iff.2 ⟨_, rfl, rfl, htoken⟩
  have hok : ¬ r.status ≠ 200 := fun h => h hstatus
  rw [judgeResponse, if_neg hok, hjson]
  dsimp only
  rw [hread]

/-- A login message is read back as the caller's user name and password. -/
theorem Server.readLogin_request (l : LoginService) (i : Identity) (url : Url) :
    readLogin (.ofRequest (l.request i url)) = .ok (i.username, i.password) := by
  let m : Incoming := .ofRequest (l.request i url)
  have hbytes : Json.ofBytes Json.usualRoom m.body = .ok (LoginService.loginBody i) :=
    LoginService.ofBytes_loginBody _ i
  have hnonempty : m.body.isEmpty = false := by
    cases hbody : m.body with
    | nil =>
      rw [hbody] at hbytes
      cases hbytes
    | cons b bs => rfl
  have hheader : m.header? "content-type" = some "application/json" :=
    Incoming.contentType_ofRequest rfl rfl
  have hjson : (m.header? "content-type").any MediaType.isJson = true := by
    rw [hheader]
    decide
  show readLogin m = _
  simp only [readLogin, hnonempty, Bool.false_eq_true, ↓reduceIte, hjson, hbytes]
  rfl

/-- **A login of a known user gives the next id as token.** -/
theorem Server.handle_login {s : Server} (newId : Nat → String) (next : Nat) (l : LoginService)
    (i : Identity) {url : Url} (now : Int) (hurl : url.decodedPath = "/auth/login")
    (huser : Table.get? i.username s.users = some i.password) (htoken : newId next ≠ "") :
    ∃ response notes next',
      s.handle newId next (.ofRequest (l.request i url)) now =
        (.ok (response, notes), next',
          { s with tokens := Table.set (newId next) i.username s.tokens }) ∧
      next < next' ∧ LoginService.judgeResponse response = .ok (newId next) := by
  let m : Incoming := .ofRequest (l.request i url)
  have hroute : routeOf m.path = some .login := by
    have hpath : m.path = "/auth/login" := hurl
    rw [hpath]
    rfl
  have hdispatch := answer_eq_dispatch s hroute rfl now (newId next)
  rw [dispatch, readLogin_request] at hdispatch
  simp only [login, huser, ↓reduceIte] at hdispatch
  have hpost : m.method ≠ "HEAD" := by
    show "POST" ≠ "HEAD"
    decide
  obtain ⟨response, next', hhandle, hstatus, hbody, hreading, hle⟩ :=
    handle_of_answer hdispatch hpost
  have hroom : response.reading.room ≠ 0 := by
    rw [hreading]
    exact Nat.succ_ne_zero _
  exact ⟨response, _, next', hhandle, hle,
    LoginService.judgeResponse_token hstatus hbody hroom htoken⟩

/-! ## A simulated outside -/

/-- The readings at which a number of requests are handled, each a latency after the one before. -/
def readings (latency : Int) (n : Nat) (now : Int) : List Int :=
  (List.range n).map fun i : Nat => now + ((i : Int) + 1) * latency

theorem readings_succ (latency : Int) (n : Nat) (now : Int) :
    readings latency (n + 1) now = (now + latency) :: readings latency n (now + latency) := by
  simp only [readings, List.range_succ_eq_map, List.map_cons, List.map_map]
  congr 1
  · simp
  · apply List.map_congr_left
    intro i _
    simp only [Function.comp_apply]
    push_cast
    ring

namespace Simulation

/-- A simulated outside at a reading of its clock: its gateway is the server with these counters,
    whatever it logged. -/
structure Hosts (st : Simulation) (latency now : Int) (s : Server) (counters : Counters) : Prop where
  latency : st.latency = latency
  now : st.now = now
  gateway : ∃ calls, st.gateway = .server { s with counters := counters, log := calls }

variable (newId : Nat → String)
  (sleep : Seconds → Simulation → Except SleepFault Unit × Simulation) {st : Simulation}
  {latency now : Int} {s : Server} {counters : Counters}

/-- A login of a known user. -/
theorem Hosts.login (h : st.Hosts latency now s counters) (l : LoginService) (i : Identity) {url : Url}
    (hurl : url.decodedPath = "/auth/login")
    (huser : Table.get? i.username s.users = some i.password) (htoken : newId st.nextId ≠ "") :
    (∃ r, ((worldOf newId sleep).send (l.request i url) st).1.reply = .ok r ∧
      LoginService.judgeResponse r = .ok (newId st.nextId)) ∧
    ((worldOf newId sleep).send (l.request i url) st).2.Hosts latency (now + latency)
      { s with tokens := Table.set (newId st.nextId) i.username s.tokens } counters ∧
    st.nextId < ((worldOf newId sleep).send (l.request i url) st).2.nextId := by
  obtain ⟨calls, hgateway⟩ := h.gateway
  obtain ⟨response, notes, next, hhandle, hnext, hjudge⟩ :=
    Server.handle_login (s := { s with counters := counters, log := calls }) newId st.nextId l i
      (st.now + st.latency) hurl huser htoken
  have hsend : (worldOf newId sleep).send (l.request i url) st =
      ({ reply := .ok response, notes := notes },
        { st with
          now := st.now + st.latency
          nextId := next
          gateway := .server { s with
            counters := counters, log := calls
            tokens := Table.set (newId st.nextId) i.username s.tokens } }) := by
    simp only [worldOf, send, hgateway, hhandle]
  rw [hsend]
  exact ⟨⟨response, rfl, hjudge⟩, ⟨h.latency, by rw [← h.now, ← h.latency], calls, rfl⟩, hnext⟩

/-- What a call of a route needs of the server and of the address. -/
structure Serves (s : Server) (token path : String) (url : Url) (quota : Int) : Prop where
  plain : ∃ name, Server.Plain path name
  reaches : url.Reaches path
  limited : s.Limited path quota
  token : Table.has token s.tokens = true
  window : s.window ≠ 0

/-- One call: it is handled a latency later, counted, and answered by its count. -/
theorem Hosts.exchange (h : st.Hosts latency now s counters) (g : GatewayClient) (c : Credential)
    {path : String} {url : Url} {quota : Int} (hserves : Serves s c.token path url quota) :
    Reply.Answered (g.exchange (worldOf newId sleep) c url st).1.reply ∧
    (g.exchange (worldOf newId sleep) c url st).1.status = some (Server.statusFor quota
      (Limiter.hit (s.counterKey c.token path (now + latency)) counters).1) ∧
    (g.exchange (worldOf newId sleep) c url st).2.Hosts latency (now + latency) s
      (Limiter.hit (s.counterKey c.token path (now + latency)) counters).2 := by
  obtain ⟨calls, hgateway⟩ := h.gateway
  obtain ⟨name, hplain⟩ := hserves.plain
  obtain ⟨response, notes, next, calls', hhandle, -, hstatus⟩ :=
    Server.handle_get (s := { s with counters := counters, log := calls }) newId (st.nextId + 1) g c
      (newId st.nextId) (st.now + st.latency) hplain hserves.reaches
      ⟨hserves.limited.quota, hserves.limited.route⟩ hserves.token hserves.window
  have hexchange : g.exchange (worldOf newId sleep) c url st =
      (⟨g.request c (newId st.nextId) url, .ok response⟩,
        { st with
          now := st.now + st.latency
          nextId := next
          gateway := .server (Server.count { s with counters := counters, log := calls } c.token path
            (st.now + st.latency) calls') }) := by
    simp only [GatewayClient.exchange, worldOf, send, hgateway, hhandle]
  rw [hexchange, ← h.now, ← h.latency]
  exact ⟨trivial, congrArg some hstatus, rfl, rfl, calls', rfl⟩

/-- A burst: its calls are counted one after another. -/
theorem Hosts.exchanges (h : st.Hosts latency now s counters) (g : GatewayClient) (c : Credential)
    {path : String} {url : Url} {quota : Int} (hserves : Serves s c.token path url quota) (n : Nat) :
    (∀ call ∈ (g.exchanges (worldOf newId sleep) c url n st).1, Reply.Answered call.reply) ∧
    (g.exchanges (worldOf newId sleep) c url n st).1.map Call.status =
      (Limiter.hitAll ((readings latency n now).map (s.counterKey c.token path)) counters).1.map
        (fun count => some (Server.statusFor quota count)) ∧
    (g.exchanges (worldOf newId sleep) c url n st).2.Hosts latency (now + n * latency) s
      (Limiter.hitAll ((readings latency n now).map (s.counterKey c.token path)) counters).2 := by
  induction n generalizing st now counters with
  | zero =>
    refine ⟨fun _ h => absurd h List.not_mem_nil, rfl, ?_⟩
    have hnow : now + (0 : Nat) * latency = now := by simp
    rw [hnow]
    exact h
  | succ n ih =>
    obtain ⟨hanswered, hstatus, hnext⟩ := h.exchange newId sleep g c hserves
    obtain ⟨ihanswered, ihstatus, ihnext⟩ := ih hnext
    have hnow : now + (n + 1 : Nat) * latency = now + latency + n * latency := by
      push_cast
      ring
    rw [readings_succ, hnow]
    refine ⟨?_, ?_, ihnext⟩
    · intro call hcall
      rcases List.mem_cons.1 hcall with rfl | hcall
      · exact hanswered
      · exact ihanswered call hcall
    · simp only [GatewayClient.exchanges, List.map_cons, hstatus, ihstatus, Limiter.hitAll]

/-- From a reading on, the sleep of a wait moves the clock by exactly the wait, and nothing else. -/
def ExactSleep (sleep : Seconds → Simulation → Except SleepFault Unit × Simulation) (a : Aligner)
    (now : Int) : Prop :=
  ∀ (st : Simulation) (seconds : Binary64), st.now = now →
    secondsOfMillis (a.waitAt now) = some seconds →
    ∃ sleeps, sleep (.binary seconds) st =
      (.ok (), { st with now := now + a.waitAt now, sleeps := sleeps })

variable {sleep}

/-- A wait. -/
theorem Hosts.align (h : st.Hosts latency now s counters) {a : Aligner}
    (hsleep : ExactSleep sleep a now)
    (hw : 0 < a.window) (hm : 0 ≤ a.margin) (hfits : a.Fits now) :
    ∃ st', Harness.Leads (Scenario.alignWindow (worldOf newId sleep) a) st
        (.ok ⟨now, a.window, a.margin, a.waitAt now⟩) st' ∧
      st'.Hosts latency (now + a.waitAt now) s counters := by
  obtain ⟨seconds, hseconds⟩ := hfits.exists_seconds hw hm
  obtain ⟨sleeps, hslept⟩ := hsleep st seconds h.now hseconds
  have hreading : ((worldOf newId sleep).readClock st).1 = now := h.now
  have hleads := @Scenario.alignWindow_leads _ (worldOf newId sleep) a st seconds hw hm
    (by rw [hreading, hseconds]) (congrArg Prod.fst hslept)
  have hafter : ((worldOf newId sleep).sleep (.binary seconds)
      ((worldOf newId sleep).readClock st).2).2 =
      { st with now := now + a.waitAt now, sleeps := sleeps } := congrArg Prod.snd hslept
  rw [hreading, hafter] at hleads
  exact ⟨_, hleads, h.latency, rfl, h.gateway⟩

/-- A wait without a number of seconds. -/
theorem Hosts.align_overflow (h : st.Hosts latency now s counters) {a : Aligner} (hw : 0 < a.window)
    (hm : 0 ≤ a.margin) (hfits : ¬ a.Fits now) :
    Harness.Leads (Scenario.alignWindow (worldOf newId sleep) a) st (.error .secondsOverflow) st := by
  rw [← h.now] at hfits
  exact Scenario.alignWindow_overflow hw hm hfits

end Simulation

end RateIsolation
