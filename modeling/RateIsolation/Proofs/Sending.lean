/-
  What a call of a route can send, and that nothing else ends a burst early.

  * `LoginService.exists_grant_iff`: a login can give any token that is not
    empty; `Settings.load_apiBaseUrl`: any text is a base address;
  * `Sendable`: the address of a route can be read and the token is ASCII,
    and `Unsendable` what is raised where this fails;
  * `burst_ends`: a burst and a probe come to their end where they are
    sendable, and before anything is sent where they are not.
-/
import RateIsolation.Proofs.FatalLogin
import RateIsolation.Proofs.Service

namespace RateIsolation

open Harness

variable {σ : Type}

/-! ## Tokens and addresses that a run can meet -/

/-- Tokens are any texts that are not empty, in ASCII or not. -/
theorem LoginService.exists_grant_iff {token : String} :
    (∃ r, judgeResponse r = .ok token) ↔ token ≠ "" := by
  constructor
  · rintro ⟨r, hr⟩
    obtain ⟨-, _, -, -, hne⟩ := judgeResponse_eq_ok_iff.1 hr
    exact hne
  · intro hne
    exact ⟨{ status := 200, body := _ }, judgeResponse_token rfl rfl nofun hne⟩

/-- Any text is accepted as the base address of the routes. -/
theorem Settings.load_apiBaseUrl (base : String) :
    ∃ settings, Settings.load { overrides := [("api_base_url", .text base)] } = .ok settings ∧
      settings.apiBaseUrl = stripSlashes base ∧ settings.usersPath = "/api/v1/users" :=
  ⟨_, rfl, rfl, rfl⟩

/-! ## What can be sent -/

theorem headerFault?_eq_none_iff {value : String} :
    headerFault? value = none ↔ ∀ c ∈ value.toList, c.toNat < 128 := by
  refine ⟨?_, headerFault?_eq_none⟩
  let p : Char → Bool := fun c => decide (c.toNat < 128)
  have hdrop : value.toList.drop (value.toList.takeWhile p).length = value.toList.dropWhile p := by
    have h := @List.drop_left _ (value.toList.takeWhile p) (value.toList.dropWhile p)
    rwa [List.takeWhile_append_dropWhile] at h
  intro h
  cases hrest : value.toList.dropWhile p with
  | nil => simpa [p] using List.dropWhile_eq_nil_iff.1 hrest
  | cons c rest =>
    -- the text goes on with a character outside ASCII, which is at fault
    have hc : p c = false := by
      have := List.head?_dropWhile_not p value.toList
      rwa [hrest] at this
    have hfault : headerFault? value =
        ((c :: rest).takeWhile fun c => !p c).head?.map fun d =>
          ⟨d, (value.toList.takeWhile p).length, ((c :: rest).takeWhile fun c => !p c).length⟩ := by
      rw [← hrest, ← hdrop]
      rfl
    rw [hfault, List.takeWhile_cons, hc] at h
    simp at h

/-- The address of the route can be read, and the token is ASCII. -/
def Sendable (t : Target) (c : Credential) : Prop :=
  (∃ url, Url.resolve t.url = .ok url) ∧ ∀ ch ∈ c.token.toList, ch.toNat < 128

/-- What is raised where the request for a route cannot be built. -/
inductive Unsendable (t : Target) (c : Credential) : Fault → Prop
  | url {f : UrlFault} (h : Url.resolve t.url = .error f) : Unsendable t c (.url f)
  | header {url : Url} {f : HeaderFault} (hurl : Url.resolve t.url = .ok url)
    (h : headerFault? c.authorization = some f) : Unsendable t c (.header f)

theorem exists_unsendable {t : Target} {c : Credential} (h : ¬ Sendable t c) :
    ∃ fault, Unsendable t c fault := by
  cases hurl : Url.resolve t.url with
  | error f => exact ⟨_, .url hurl⟩
  | ok url =>
    cases hheader : headerFault? c.authorization with
    | some f => exact ⟨_, .header hurl hheader⟩
    | none =>
      have hascii := headerFault?_eq_none_iff.1 hheader
      refine absurd ⟨⟨url, hurl⟩, fun ch hch => hascii ch ?_⟩ h
      rw [Credential.authorization, String.toList_append]
      exact List.mem_append_right _ hch

namespace GatewayClient

variable {w : World σ} {g : GatewayClient} {t : Target} {c : Credential} {fault : Fault}

theorem build_of_unsendable (h : Unsendable t c fault) (id : String) :
    g.build t c id = .error fault := by
  cases h with
  | url h => rw [build, h]
  | header hurl h =>
    rw [build, hurl]
    dsimp only
    rw [h]

/-- A call that cannot be sent takes an id and does nothing else. -/
theorem counted_of_unsendable (h : Unsendable t c fault) (st : σ) :
    Leads (g.counted w t c) st (.error fault) (w.newId st).2 := by
  have hcall : Leads (g.call w t c) st (.error fault) (w.newId st).2 := by
    refine (leads_newId w st).bind ?_
    rw [build_of_unsendable h]
    exact Leads.bind_error (leads_throw fault _)
  exact hcall.bind_error

theorem burst_of_unsendable (h : Unsendable t c fault) {count : Int} (hcount : 1 ≤ count)
    (st : σ) : Leads (g.burst w t c count) st (.error fault) (w.newId st).2 := by
  obtain ⟨n, hn⟩ : ∃ n, count.toNat = n + 1 := ⟨count.toNat - 1, by omega⟩
  unfold burst
  rw [if_neg (by omega), hn]
  exact Leads.bind_error (Leads.bind_error (counted_of_unsendable h st))

theorem probe_of_unsendable (h : Unsendable t c fault) (st : σ) :
    Leads (g.probe w t c) st (.error fault) (w.newId st).2 :=
  (counted_of_unsendable h st).bind_error

end GatewayClient

/-! ## Bursts and probes -/

theorem Tally.total_ofStatuses (ss : List (Option Int)) : (ofStatuses ss).total = ss.length := by
  rw [ofStatuses, total_ofOutcomes, List.length_map]

/-- **Nothing ends a burst early but a request that cannot be built.**  Against any outside that
    answers or fails in its transport, a burst of at least one request counts that many outcomes and
    a probe gives a status, if the address of the route can be read and the token is ASCII; else
    both end in the fault of the first request, of which the outside sees nothing. -/
theorem burst_ends {w : World σ} (hw : ∀ request st, Reply.Answered (w.send request st).1.reply)
    (g : GatewayClient) (t : Target) (c : Credential) {count : Int} (hcount : 1 ≤ count) (st : σ) :
    (Sendable t c →
      (∃ tally st', Leads (g.burst w t c count) st (.ok tally) st' ∧ tally.total = count) ∧
      ∃ probe st', Leads (g.probe w t c) st (.ok probe) st' ∧ probe.target = t.name) ∧
    (¬ Sendable t c → ∃ fault, Unsendable t c fault ∧
      Leads (g.burst w t c count) st (.error fault) (w.newId st).2 ∧
      Leads (g.probe w t c) st (.error fault) (w.newId st).2) := by
  constructor
  · rintro ⟨⟨url, hurl⟩, htoken⟩
    have hburst := GatewayClient.burst_leads hurl htoken hcount
      (GatewayClient.exchanges_answered w g c url hw count.toNat st)
    refine ⟨⟨_, _, hburst, ?_⟩, _, _, GatewayClient.probe_leads hurl htoken (hw _ _), rfl⟩
    rw [Tally.total_ofStatuses, List.length_map, GatewayClient.length_exchanges]
    omega
  · intro h
    obtain ⟨fault, hfault⟩ := exists_unsendable h
    exact ⟨fault, hfault, GatewayClient.burst_of_unsendable hfault hcount st,
      GatewayClient.probe_of_unsendable hfault st⟩

theorem burst_ends_default :
    (∃ tally st', Leads ((Settings.ofWindow 1000).scenario.gateway.burst World.serving
        (Settings.ofWindow 1000).scenario.users
        ((Settings.ofWindow 1000).scenario.callerA.granted "t") 8) 0 (.ok tally) st' ∧
      tally.total = 8) ∧
    ∃ fault, Leads ((Settings.ofWindow 1000).scenario.gateway.burst World.serving
      (Settings.ofWindow 1000).scenario.users
      ((Settings.ofWindow 1000).scenario.callerA.granted "é") 8) 0 (.error fault) 1 := by
  have hends (token : String) := burst_ends World.serving_responds.answers
    (Settings.ofWindow 1000).scenario.gateway (Settings.ofWindow 1000).scenario.users
    ((Settings.ofWindow 1000).scenario.callerA.granted token) (by decide : (1 : Int) ≤ 8) 0
  have ht := (World.serving_grants (Settings.ofWindow 1000).scenario.auth
    (Settings.ofWindow 1000).scenario.callerA (Url.local 8084 "/auth/login") 0).ascii
  constructor
  · exact ((hends "t").1 ⟨⟨_, Settings.resolve_users 1000⟩, ht⟩).1
  · have hnot : ¬ Sendable (Settings.ofWindow 1000).scenario.users
        ((Settings.ofWindow 1000).scenario.callerA.granted "é") := by
      rintro ⟨-, h⟩
      exact absurd (h 'é' (by decide)) (by decide)
    obtain ⟨fault, -, hburst, -⟩ := (hends "é").2 hnot
    exact ⟨fault, hburst⟩

/-- A token outside ASCII and a base address that cannot be read are let through, and end a burst
    with the default settings before its first request. -/
theorem burst_of_refused_request :
    (∃ r, LoginService.judgeResponse r = .ok "é") ∧
      Leads ((Settings.ofWindow 1000).scenario.gateway.burst World.serving
          (Settings.ofWindow 1000).scenario.users
          ((Settings.ofWindow 1000).scenario.callerA.granted "é") 8) 0
        (.error (.header ⟨'é', 7, 1⟩)) 1 ∧
    ∃ settings, Settings.load { overrides :=
        [("api_base_url", .text "http://localhost:port")] } = .ok settings ∧
      Leads (settings.scenario.gateway.burst World.serving settings.scenario.users
          (settings.scenario.callerA.granted "t") 8) 0 (.error (.url (.port "port"))) 1 := by
  refine ⟨LoginService.exists_grant_iff.2 (by decide), ?_, ?_⟩
  · exact GatewayClient.burst_of_unsendable (.header (Settings.resolve_users 1000) rfl) (by decide) 0
  · obtain ⟨settings, hload, hbase, hpath⟩ := Settings.load_apiBaseUrl "http://localhost:port"
    refine ⟨settings, hload, GatewayClient.burst_of_unsendable (.url ?_) (by decide) 0⟩
    have hurl : settings.scenario.users.url =
        stripSlashes (stripSlashes "http://localhost:port") ++ "/api/v1/users" := by
      rw [← hbase, ← hpath]
      rfl
    rw [hurl]
    rfl

end RateIsolation
