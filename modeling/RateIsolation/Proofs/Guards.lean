/-
  Accepted settings and the guards of a run.

  * `Settings.addresses` are the texts of the addresses that a run asks for, in
    order: a base address as it was accepted, and a path;
  * `Step.Asks`: requests that were sent to the addresses that some texts name;
    `Settings.Runs.asks`: a run sends its requests to the first of its addresses;
  * `Settings.Runs.isAuthentication`: a failure that the harness reports of a run
    is one of a login;
  * `Settings.Accepted.unguarded`: accepted settings pass the guards of window,
    margin and burst, and their addresses are used as they are.
-/
import RateIsolation.Proofs.Causes

namespace RateIsolation

open Harness

variable {σ : Type}

/-! ## Addresses -/

namespace Settings

/-- The address of the logins. -/
def loginAddress (s : Settings) : String := s.authBaseUrl ++ "/auth/login"

/-- The address of the users route. -/
def usersAddress (s : Settings) : String := s.apiBaseUrl ++ s.usersPath

/-- The address of the orders route. -/
def ordersAddress (s : Settings) : String := s.apiBaseUrl ++ s.ordersPath

/-- The addresses that a run asks for, in order. -/
def addresses (s : Settings) : List String :=
  s.loginAddress :: s.loginAddress :: (.replicate s.burstRequests.toNat s.usersAddress ++
    s.ordersAddress :: (.replicate s.burstRequests.toNat s.usersAddress ++ [s.usersAddress]))

namespace Sound

variable {s : Settings} (h : s.Sound)

include h

theorem login : s.scenario.auth.loginUrl = s.loginAddress :=
  congrArg (· ++ "/auth/login") (stripSlashes_eq_self_iff.2 h.authBaseUrl)

theorem users : s.scenario.users.url = s.usersAddress :=
  congrArg (· ++ s.usersPath) (stripSlashes_eq_self_iff.2 h.apiBaseUrl)

theorem orders : s.scenario.orders.url = s.ordersAddress :=
  congrArg (· ++ s.ordersPath) (stripSlashes_eq_self_iff.2 h.apiBaseUrl)

end Sound

end Settings

/-! ## Requests -/

namespace Step

/-- The request, if the step sends one. -/
def request? : Step → Option Request
  | sent request _ => some request
  | _ => none

/-- The requests that were sent go to the addresses that some texts name, one after another. -/
def Asks (addresses : List String) (steps : List Step) : Prop :=
  List.Forall₂ (fun address request => Url.resolve address = .ok request.url) addresses
    (steps.filterMap request?)

variable {addresses addresses' : List String} {steps steps' : List Step}

theorem Asks.append (h : Asks addresses steps) (h' : Asks addresses' steps') :
    Asks (addresses ++ addresses') (steps ++ steps') := by
  rw [Asks, List.filterMap_append]
  exact List.rel_append h h'

/-- The requests go to the first of some addresses. -/
def AsksFirst (addresses : List String) (steps : List Step) : Prop :=
  ∃ made, made <+: addresses ∧ Asks made steps

theorem AsksFirst.after (h : Asks addresses steps) (h' : AsksFirst addresses' steps') :
    AsksFirst (addresses ++ addresses') (steps ++ steps') := by
  obtain ⟨made, hmade, hasks⟩ := h'
  exact ⟨addresses ++ made, List.prefix_append_right_inj _ |>.2 hmade, h.append hasks⟩

theorem AsksFirst.append (h : AsksFirst addresses steps) (addresses' : List String) :
    AsksFirst (addresses ++ addresses') steps := by
  obtain ⟨made, hmade, hasks⟩ := h
  exact ⟨made, hmade.trans (List.prefix_append _ _), hasks⟩

end Step

section Tasks

variable {a : Aligner} {g : GatewayClient} {steps : List Step} {calls : List Recording}

/-- The text of the address that a task asks for. -/
def Task.address? : Task → Option String
  | wait => none
  | call t _ => some t.url

theorem Task.Done.asks {task : Task} (h : task.Done a g steps calls) :
    Step.Asks task.address?.toList steps := by
  cases h with
  | wait => exact .nil
  | call hbuild => exact .cons (GatewayClient.build_url _ _ _ hbuild) .nil

theorem Task.Stopped.asksFirst {task : Task} {fault : Fault} (h : task.Stopped a g fault steps) :
    Step.AsksFirst task.address?.toList steps := by
  cases h with
  | overflow => exact ⟨[], List.nil_prefix, .nil⟩
  | sleep => exact ⟨[], List.nil_prefix, .nil⟩
  | unbuilt => exact ⟨[], List.nil_prefix, .nil⟩
  | broken hbuild => exact ⟨_, List.prefix_rfl, .cons (GatewayClient.build_url _ _ _ hbuild) .nil⟩

/-- Tasks ask for their addresses in order, up to the first that fails. -/
theorem Performs.asksFirst {tasks : List Task} {r : Except Fault Unit}
    (h : Performs a g tasks r steps calls) :
    Step.AsksFirst (tasks.filterMap Task.address?) steps := by
  have hcons (task : Task) (tasks : List Task) : (task :: tasks).filterMap Task.address? =
      task.address?.toList ++ tasks.filterMap Task.address? := by
    cases task <;> rfl
  induction h with
  | done => exact ⟨[], List.nil_prefix, .nil⟩
  | next hdone _ ih =>
    rw [hcons]
    exact .after hdone.asks ih
  | stop hstopped =>
    rw [hcons]
    exact hstopped.asksFirst.append _

/-- No task fails with a failure that the harness reports. -/
theorem Task.Stopped.ne_harness {task : Task} {fault : Fault} (h : task.Stopped a g fault steps)
    (e : HarnessError) : fault ≠ .harness e := by
  cases h with
  | overflow => exact nofun
  | sleep => exact nofun
  | unbuilt hbuild =>
    rcases GatewayClient.build_error hbuild with ⟨f, -, rfl⟩ | ⟨f, -, rfl⟩ <;> exact nofun
  | broken => exact nofun

theorem Performs.ne_harness {tasks : List Task} {fault : Fault}
    (h : Performs a g tasks (.error fault) steps calls) (e : HarnessError) : fault ≠ .harness e := by
  obtain ⟨task, -, steps', hstopped, -⟩ := h.exists_stopped
  exact hstopped.ne_harness e

end Tasks

namespace LoginService

variable {l : LoginService} {i : Identity} {steps : List Step}

theorem Attempts.asksFirst {r : Except Fault Credential} (h : l.Attempts i r steps) :
    Step.AsksFirst [l.loginUrl] steps := by
  cases h with
  | unreadable => exact ⟨[], List.nil_prefix, .nil⟩
  | sent hurl => exact ⟨_, List.prefix_rfl, .cons hurl .nil⟩

theorem Attempts.asks {c : Credential} (h : l.Attempts i (.ok c) steps) :
    Step.Asks [l.loginUrl] steps := by
  obtain ⟨url, exchange, token, hurl, rfl, -⟩ := h.granted
  exact .cons hurl .nil

end LoginService

/-- A failure that the harness reports of a login is one of a login. -/
theorem LoginService.Attempts.isAuthentication {l : LoginService} {i : Identity} {steps : List Step}
    {e : HarnessError} (h : l.Attempts i (.error (.harness e)) steps) :
    e.isAuthentication = true := by
  generalize hr : (.error (.harness e) : Except Fault Credential) = r at h
  cases h with
  | unreadable => cases hr
  | sent _ exchange =>
    replace hr : .error (.harness e) = ending i exchange.reply := hr
    rcases ending_cases i exchange.reply with ⟨_, -, hend⟩ | ⟨_, -, hend, hauthentication⟩ |
      ⟨_, hescapes, hend⟩ <;> cases hr.trans hend
    · exact hauthentication
    · exact absurd rfl (hescapes.unreported _)

/-! ## Runs -/

namespace Scenario

variable {s : Scenario} {r : Except Fault Findings} {steps : List Step} {calls : List Recording}

/-- The addresses that the experiments ask for after the logins, in order. -/
def routeAddresses (s : Scenario) : List String :=
  .replicate s.burstRequests.toNat s.users.url ++ s.orders.url ::
    (.replicate s.burstRequests.toNat s.users.url ++ [s.users.url])

theorem addresses_tasks (s : Scenario) (cA cB : Credential) :
    (s.tasks cA cB).filterMap Task.address? = s.routeAddresses := by
  have hcall (t : Target) (c : Credential) : Task.address? (.call t c) = some t.url := rfl
  have hwait : Task.address? .wait = none := rfl
  simp only [tasks, routeAddresses, List.filterMap_cons, List.filterMap_append, hwait, hcall,
    List.filterMap_replicate_of_some (hcall _ _), List.filterMap_nil]

/-- The experiments ask for the addresses of both logins and then of the routes. -/
theorem Conducts.asksFirst (h : s.Conducts r steps calls) :
    Step.AsksFirst ([s.auth.loginUrl] ++ ([s.auth.loginUrl] ++ s.routeAddresses)) steps := by
  cases h with
  | loginA hA => exact hA.asksFirst.append _
  | loginB hA hB => exact .after hA.asks (hB.asksFirst.append _)
  | @routes cA cB _ _ _ _ _ hA hB hroutes =>
    rw [← addresses_tasks s cA cB]
    exact .after hA.asks (.after hB.asks hroutes.1.asksFirst)

/-- A failure that the harness reports of the experiments is one of a login. -/
theorem Conducts.isAuthentication {e : HarnessError}
    (h : s.Conducts (.error (.harness e)) steps calls) : e.isAuthentication = true := by
  generalize hr : (.error (.harness e) : Except Fault Findings) = r at h
  cases h with
  | loginA hA =>
    cases hr
    exact hA.isAuthentication
  | loginB hA hB =>
    cases hr
    exact hB.isAuthentication
  | routes hA hB hroutes =>
    subst hr
    exact absurd rfl (hroutes.1.ne_harness e)

end Scenario

namespace Settings

variable {settings : Settings} {r : Except Fault RunResult} {steps : List Step}
  {calls : List Recording}

theorem Sound.addresses_eq (h : settings.Sound) :
    settings.addresses = [settings.scenario.auth.loginUrl] ++
      ([settings.scenario.auth.loginUrl] ++ settings.scenario.routeAddresses) := by
  rw [Scenario.routeAddresses, h.login, h.users, h.orders]
  rfl

/-- A run sends its requests to the first of its addresses. -/
theorem Runs.asksFirst (h : settings.Runs r steps calls) (hsound : settings.Sound) :
    Step.AsksFirst settings.addresses steps := by
  obtain @⟨begun, steps', r, calls', id, hbegun, h⟩ := h
  have hid : Step.Asks [] begun := by
    rcases hbegun with rfl | rfl <;> exact .nil
  rw [hsound.addresses_eq, ← List.nil_append (_ ++ _)]
  exact .after hid h.asksFirst

/-- A failure that the harness reports of a run is one of a login. -/
theorem Runs.isAuthentication {e : HarnessError}
    (h : settings.Runs (.error (.harness e)) steps calls) : e.isAuthentication = true := by
  obtain ⟨_, _, _, -, -, -, h⟩ := h.error_conducts
  exact h.isAuthentication

/-- An address that could not be read is one of those of the run. -/
theorem Runs.address_of_url {f : UrlFault} (h : settings.Runs (.error (.url f)) steps calls)
    (hsound : settings.Sound) : ∃ address ∈ settings.addresses, Url.resolve address = .error f := by
  cases h.ended hsound.window hsound.margin with
  | caused hcause =>
    cases hcause with
    | body _ _ _ hescapes => rcases hescapes.decoding_or_nesting with ⟨_, h⟩ | ⟨_, h⟩ <;> cases h
    | login h => exact ⟨_, List.mem_cons_self, hsound.login ▸ h⟩
    | users h => exact ⟨_, by simp [addresses], hsound.users ▸ h⟩
    | orders h => exact ⟨_, by simp [addresses], hsound.orders ▸ h⟩

/-! ## Accepted settings -/

/-- The settings were accepted for a command, or for a fixture. -/
inductive Accepted (settings : Settings) : Prop
  | command {overrides : Table String Json} {environment : List (String × String)}
    {file : List (String × Option String)}
    (h : ofCommand overrides environment file = .ok settings) : Accepted settings
  | fixture {overrides : Table String Json} {environment : List (String × String)}
    (h : ofFixture overrides environment = .ok settings) : Accepted settings

theorem Accepted.sound (h : settings.Accepted) : settings.Sound := by
  cases h with
  | command h => exact load_sound h
  | fixture h => exact load_sound h

/-- A run, from the session before it to its end, that was ended by no guard. -/
structure Unguarded (settings : Settings) (before : Session (Traced σ))
    (run : Except Fault RunResult × Session (Traced σ)) : Prop where
  /-- A failure that the harness reports is one of a login, and so none of a parameter. -/
  authentication : ∀ e, run.1 = .error (.harness e) → e.isAuthentication = true
  asks : ∃ steps, run.2.world.2 = before.world.2 ++ steps ∧
    Step.AsksFirst settings.addresses steps
  unreadable : ∀ f, run.1 = .error (.url f) →
    ∃ address ∈ settings.addresses, Url.resolve address = .error f

/-- Bursts of accepted settings do not fail with a failure that the harness reports. -/
theorem Sound.burst_ne_harness (h : settings.Sound) (w : World σ) (g : GatewayClient) (t : Target)
    (c : Credential) (s : Session (Traced σ)) (e : HarnessError) :
    ((g.burst w.traced t c settings.burstRequests).run.run s).1 ≠ .error (.harness e) := by
  have hn : 1 ≤ settings.burstRequests := Int.le_trans (by decide) h.burst
  obtain ⟨steps, calls, -, -, hfollows, -⟩ := g.does_burst w settings.scenario.aligner t c hn s
  intro hend
  rw [hend] at hfollows
  exact hfollows.ne_harness e rfl

/-- **Accepted settings hit no guard of a run.**  Wherever their values came from, they obey the
    rules; so an aligner can be made of them, there is a wait from any reading of the clock, and no
    burst of theirs fails for its count; their base addresses are not stripped any further; and
    whatever its outside does, a run is ended by no failure of the harness but that of a login, and
    hands on the addresses that are the base address with the path after it. -/
theorem Accepted.unguarded (haccepted : settings.Accepted) :
    settings.Sound ∧
    Aligner.make settings.windowMs settings.alignMarginMs = .ok settings.scenario.aligner ∧
    (∀ now, ∃ wait, waitFor now settings.windowMs settings.alignMarginMs = .ok wait) ∧
    (stripSlashes settings.apiBaseUrl = settings.apiBaseUrl ∧
      stripSlashes settings.authBaseUrl = settings.authBaseUrl) ∧
    (settings.scenario.auth.loginUrl = settings.authBaseUrl ++ "/auth/login" ∧
      settings.scenario.users.url = settings.apiBaseUrl ++ settings.usersPath ∧
      settings.scenario.orders.url = settings.apiBaseUrl ++ settings.ordersPath) ∧
    ∀ (σ : Type) (w : World σ),
      (∀ (g : GatewayClient) (t : Target) (c : Credential) (s : Session (Traced σ)) e,
        ((g.burst w.traced t c settings.burstRequests).run.run s).1 ≠ .error (.harness e)) ∧
      ∀ (shared : Bool) (runId : Option String) (s : Session (Traced σ)),
        settings.Unguarded s ((runScenario w.traced settings shared runId).run.run s) := by
  have hsound := haccepted.sound
  have hwindow : 0 < settings.windowMs := hsound.window
  refine ⟨hsound, aligner_make hwindow hsound.margin,
    fun now => ⟨_, waitFor_eq_ok_iff.2 ⟨hwindow, hsound.margin, rfl⟩⟩,
    ⟨stripSlashes_eq_self_iff.2 hsound.apiBaseUrl, stripSlashes_eq_self_iff.2 hsound.authBaseUrl⟩,
    ⟨hsound.login, hsound.users, hsound.orders⟩, fun σ w => ⟨hsound.burst_ne_harness w, ?_⟩⟩
  intro shared runId s
  have hn : 1 ≤ settings.burstRequests := Int.le_trans (by decide) hsound.burst
  obtain ⟨steps, calls, hworld, -, hruns⟩ :=
    does_runScenario w hwindow hsound.margin hn shared runId s
  constructor
  · intro e he
    rw [he] at hruns
    exact hruns.isAuthentication
  · exact ⟨steps, hworld, hruns.asksFirst hsound⟩
  · intro f hf
    rw [hf] at hruns
    exact hruns.address_of_url hsound

/-- Slashes at the end of a base address are gone once it was accepted. -/
theorem Accepted.unguarded_slashes :
    ∃ settings, ofCommand [] [("API_GW_BASE_URL", "http://gateway//")] [] = .ok settings ∧
      settings.scenario.users.url = "http://gateway/api/v1/users" ∧
      settings.Unguarded { world := (0, []) }
        ((runScenario World.serving.traced settings true none).run.run { world := (0, []) }) := by
  obtain ⟨settings, hload, hbase, hpath⟩ : ∃ settings,
      ofCommand [] [("API_GW_BASE_URL", "http://gateway//")] [] = .ok settings ∧
        settings.apiBaseUrl = "http://gateway" ∧ settings.usersPath = "/api/v1/users" :=
    ⟨_, rfl, rfl, rfl⟩
  obtain ⟨-, -, -, -, ⟨-, husers, -⟩, hruns⟩ := Accepted.unguarded (.command hload)
  rw [hbase, hpath] at husers
  exact ⟨settings, hload, husers, (hruns Nat World.serving).2 true none { world := (0, []) }⟩

end Settings

end RateIsolation
