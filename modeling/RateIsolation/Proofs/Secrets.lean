/-
  The passwords and the tokens of a run do not show in what it reports.

  * `LoginService.twins_acquire`: logins that differ in the password give
    credentials that differ in the token; `GatewayClient.twins_burst` and
    `twins_probe`: calls with such credentials are alike;
  * `twins_runScenario`: so are two runs with settings that differ in the
    passwords, and the commands that run with them (`Command.twins_execute`);
  * `secrets_unreported`: where the answers are the same but for the tokens,
    the ends are the same, and what is left differs only in what was sent.
-/
import RateIsolation.Proofs.Ending
import RateIsolation.Proofs.Twins

namespace RateIsolation

open Harness

variable {σ τ : Type}

theorem Identity.Alike.name {i₁ i₂ : Identity} (h : i₁.Alike i₂) : i₁.name = i₂.name := by
  rw [Identity.name, Identity.name, h.label, h.username]

theorem Credential.Alike.name {c₁ c₂ : Credential} (h : c₁.Alike c₂) : c₁.name = c₂.name := by
  rw [Credential.name, Credential.name, h.label, h.username]

/-- The same settings with other passwords. -/
def Settings.withPasswords (s : Settings) (password : String) (passwordB : Option String) :
    Settings :=
  { s with password := password, passwordB := passwordB }

instance : Nonempty Credential := ⟨⟨"", "", ""⟩⟩

section Runs

variable {t₁ t₂ : List Step} {P : Prop} (h : SameAnswers t₁ t₂) (w₁ : World σ) (w₂ : World τ)

/-! ## Logging in -/

namespace LoginService

/-- A request of a login shows no more of the caller than its body does. -/
theorem request_alike (l : LoginService) {i₁ i₂ : Identity} (hi : i₁.Alike i₂) (url : Url) :
    (l.request i₁ url).Alike (l.request i₂ url) :=
  ⟨rfl, rfl, rfl, rfl, Or.inr ⟨i₁, i₂, hi, rfl, rfl⟩⟩

/-- Replies that are alike are judged alike. -/
theorem judge_alike {r₁ r₂ : Reply} (hr : r₁.Alike r₂) :
    ResultsAlike (ResultsAlike TokensAlike) (judge r₁) (judge r₂) := by
  rcases hr with rfl | ⟨token₁, token₂, h₁, h₂, hascii⟩
  · exact resultsAlike_refl (resultsAlike_refl tokensAlike_refl) _
  · rw [judge_of_gives h₁, judge_of_gives h₂]
    exact .ok (.ok (Or.inr hascii))

theorem twins_report {i₁ i₂ : Identity} (hi : i₁.Alike i₂) {j₁ j₂ : Except LoginFailure String}
    (hj : ResultsAlike TokensAlike j₁ j₂) :
    Twins t₁ t₂ P Eq (report (σ := Traced σ) i₁ j₁) (report (σ := Traced τ) i₂ j₂) := by
  cases hj with
  | ok _ =>
    simp only [report, hi.username, hi.name]
    exact twins_log _ _ _ _
  | error failure =>
    cases failure <;> simp only [report, hi.username]
    case notJson | tooDeep => exact twins_pure fun _ => rfl
    all_goals exact twins_log _ _ _ _

include h

/-- Logins of callers that are alike give credentials that are alike, or fail alike. -/
theorem twins_acquire (l : LoginService) {i₁ i₂ : Identity} (hi : i₁.Alike i₂) :
    Twins t₁ t₂ P Credential.Alike (l.acquire w₁.traced i₁) (l.acquire w₂.traced i₂) := by
  have : Nonempty Reply := ⟨.ok { status := 200 }⟩
  have : Nonempty (Except LoginFailure String) := ⟨.ok ""⟩
  unfold acquire
  split
  case' isTrue => refine (twins_openConnection _).bind_eq fun _ => ?_
  all_goals
    refine (twins_ofExcept_self _ _).bind_eq fun url => ?_
    refine (twins_send h w₁ w₂ fun _ => l.request_alike hi url).bind fun r₁ r₂ => ?_
    refine (twins_ofExcept _ fun hP => judge_alike hP.2).bind fun j₁ j₂ => ?_
    -- whatever is judged, the steps go on; the rest is asked only of what is judged alike
    refine twins_of_imp ((moves_report (respects_grows w₁).works i₁ j₁).bind composes_grows fun _ => ?_)
      ((moves_report (respects_grows w₂).works i₂ j₂).bind composes_grows fun _ => ?_)
      fun hP => (twins_report hi hP.2).bind_eq fun _ => ?_
    · cases j₁ with
      | ok _ => exact moves_pure composes_grows _
      | error _ => exact moves_throw composes_grows _
    · cases j₂ with
      | ok _ => exact moves_pure composes_grows _
      | error _ => exact moves_throw composes_grows _
    · cases hP.2 with
      | ok htoken => exact twins_pure fun _ => ⟨hi.username, hi.label, htoken⟩
      | error failure =>
        simp only [hi.username]
        exact twins_throw _

end LoginService

/-! ## Calling routes -/

namespace GatewayClient

variable (g : GatewayClient) (t : Target) {c₁ c₂ : Credential}

/-- What keeps a request from being built is not the token, where the tokens may differ. -/
theorem build_alike (hc : c₁.Alike c₂) (id : String) :
    ResultsAlike Request.Alike (g.build t c₁ id) (g.build t c₂ id) := by
  have hrequest (url : Url) : (g.request c₁ id url).Alike (g.request c₂ id url) :=
    ⟨rfl, rfl, rfl, rfl, Or.inl rfl⟩
  unfold build
  cases Url.resolve t.url with
  | error f => exact .error _
  | ok url =>
    rcases hc.token with htoken | ⟨h₁, h₂⟩
    · have hauthorization : c₁.authorization = c₂.authorization :=
        congrArg ("Bearer " ++ ·) htoken
      dsimp only
      rw [hauthorization]
      cases headerFault? c₂.authorization with
      | none => exact .ok (hrequest url)
      | some f => exact .error _
    · have hnone₁ : headerFault? c₁.authorization = none := headerFault?_eq_none (bearer_ascii h₁)
      have hnone₂ : headerFault? c₂.authorization = none := headerFault?_eq_none (bearer_ascii h₂)
      dsimp only
      rw [hnone₁, hnone₂]
      exact .ok (hrequest url)

theorem twins_statusOf (id : String) {r₁ r₂ : Reply} (hr : r₁.Alike r₂) :
    Twins t₁ t₂ P Eq (statusOf (σ := Traced σ) t id r₁) (statusOf (σ := Traced τ) t id r₂) := by
  rcases hr with rfl | ⟨token₁, token₂, ⟨_, rfl, h₁, -⟩, ⟨_, rfl, h₂, -⟩, -⟩
  · unfold statusOf
    split
    · exact twins_pure fun _ => rfl
    · exact (twins_log _ _ _ _).bind_eq fun _ => twins_pure fun _ => rfl
    · exact twins_throw _
  · exact twins_pure fun _ => by rw [h₁, h₂]

include h

theorem twins_counted (hc : c₁.Alike c₂) :
    Twins t₁ t₂ P Eq (g.counted w₁.traced t c₁) (g.counted w₂.traced t c₂) := by
  have : Nonempty Reply := ⟨.ok { status := 200 }⟩
  have : Nonempty Request := ⟨LoginService.request ⟨"", .binary default, true⟩ ⟨"", "", ""⟩ default⟩
  have hcall : Twins t₁ t₂ P Eq (g.call w₁.traced t c₁) (g.call w₂.traced t c₂) := by
    refine (twins_newId h w₁ w₂).bind_eq fun id => ?_
    refine (twins_ofExcept _ fun _ => g.build_alike t hc id).bind fun q₁ q₂ => ?_
    refine (twins_send h w₁ w₂ fun hP => hP.2).bind fun r₁ r₂ => ?_
    exact twins_of_imp (moves_statusOf (respects_grows w₁).works t id r₁)
      (moves_statusOf (respects_grows w₂).works t id r₂) fun hP => twins_statusOf t id hP.2
  refine hcall.bind_eq fun status => ?_
  rw [hc.name]
  exact (twins_record _).bind_eq fun _ => twins_pure fun _ => rfl

theorem twins_repeated (hc : c₁.Alike c₂) (n : Nat) :
    Twins t₁ t₂ P Eq (g.repeated w₁.traced t c₁ n) (g.repeated w₂.traced t c₂ n) := by
  induction n with
  | zero => exact twins_pure fun _ => rfl
  | succ n ih =>
    exact (twins_counted h w₁ w₂ g t hc).bind_eq fun _ => ih.bind_eq fun _ =>
      twins_pure fun _ => rfl

theorem twins_burst (hc : P → c₁.Alike c₂) (count : Int) :
    Twins t₁ t₂ P Eq (g.burst w₁.traced t c₁ count) (g.burst w₂.traced t c₂ count) := by
  refine twins_of_imp (g.moves_burst (respects_grows w₁) t c₁ count)
    (g.moves_burst (respects_grows w₂) t c₂ count) fun hP => ?_
  unfold burst
  rw [(hc hP).name]
  split
  case' isTrue => refine (twins_throw _).bind_eq fun _ => ?_
  all_goals
    refine (twins_repeated h w₁ w₂ g t (hc hP) _).bind_eq fun _ => ?_
    exact (twins_log _ _ _ _).bind_eq fun _ => twins_pure fun _ => rfl

theorem twins_probe (hc : P → c₁.Alike c₂) :
    Twins t₁ t₂ P Eq (g.probe w₁.traced t c₁) (g.probe w₂.traced t c₂) := by
  refine twins_of_imp (g.moves_probe (respects_grows w₁) t c₁)
    (g.moves_probe (respects_grows w₂) t c₂) fun hP => ?_
  unfold probe
  rw [(hc hP).name]
  exact (twins_counted h w₁ w₂ g t (hc hP)).bind_eq fun _ => (twins_log _ _ _ _).bind_eq fun _ =>
    twins_pure fun _ => rfl

end GatewayClient

/-! ## The run -/

namespace Scenario

theorem twins_reportAbort (e : Fault) :
    Twins t₁ t₂ P Eq (reportAbort (σ := Traced σ) e) (reportAbort (σ := Traced τ) e) := by
  unfold reportAbort
  split
  · exact (twins_log _ _ _ _).bind_eq fun _ => twins_record _
  · exact twins_pure fun _ => rfl

theorem twins_guarded {α : Type} {x₁ : Harness (Traced σ) α} {x₂ : Harness (Traced τ) α}
    (hx : Twins t₁ t₂ P Eq x₁ x₂) : Twins t₁ t₂ P Eq (guarded x₁) (guarded x₂) :=
  (hx.tryCatch fun e => (twins_reportAbort e).bind_eq fun _ => twins_throw e).ensuring
    (twins_setPhase none)

theorem twins_conclude (runId : String) (f : Findings) :
    Twins t₁ t₂ P Eq (conclude (σ := Traced σ) runId f) (conclude (σ := Traced τ) runId f) := by
  refine (twins_setPhase _).bind_eq fun _ => Twins.bind_eq ?_ fun _ =>
    (twins_setPhase _).bind_eq fun _ => twins_pure fun _ => rfl
  exact Twins.forM (fun c => (twins_record _).bind_eq fun _ => twins_log _ _ _ _) _

include h

theorem twins_alignWindow (a : Aligner) :
    Twins t₁ t₂ P Eq (alignWindow w₁.traced a) (alignWindow w₂.traced a) := by
  have halign : Twins t₁ t₂ P Eq (a.align w₁.traced) (a.align w₂.traced) := by
    refine (twins_readClock h w₁ w₂).bind_eq fun now => ?_
    refine (twins_ofExcept_self _ _).bind_eq fun wait => (twins_log _ _ _ _).bind_eq fun _ => ?_
    split
    · exact twins_throw _
    · exact (twins_sleep h w₁ w₂ _).bind_eq fun _ => twins_pure fun _ => rfl
  refine halign.bind_eq fun alignment => ?_
  split
  case' h_1 => refine (twins_throw _).bind_eq fun _ => ?_
  case' h_2 => refine (twins_record _).bind_eq fun _ => ?_
  all_goals exact (twins_log _ _ _ _).bind_eq fun _ => twins_pure fun _ => rfl

/-- The same scenario for other callers, as long as these differ in the passwords only. -/
theorem twins_experiments (s : Scenario) {callerA callerB : Identity}
    (hA : s.callerA.Alike callerA) (hB : s.callerB.Alike callerB) :
    Twins t₁ t₂ P Eq (s.experiments w₁.traced)
      (experiments w₂.traced { s with callerA := callerA, callerB := callerB }) := by
  refine (twins_setPhase _).bind_eq fun _ => ?_
  refine (s.auth.twins_acquire h w₁ w₂ hA).bind fun a₁ a₂ => ?_
  refine (s.auth.twins_acquire h w₁ w₂ hB).bind fun b₁ b₂ => (twins_setPhase _).bind_eq fun _ => ?_
  have ha (count : Int) : Twins t₁ t₂ ((P ∧ a₁.Alike a₂) ∧ b₁.Alike b₂) Eq
      (s.gateway.burst w₁.traced s.users a₁ count) (s.gateway.burst w₂.traced s.users a₂ count) :=
    s.gateway.twins_burst h w₁ w₂ s.users (fun hP => hP.1.2) count
  refine (twins_alignWindow h w₁ w₂ _).bind_eq fun alignmentA => ?_
  refine (ha _).bind_eq fun usersBurst => ?_
  refine (s.gateway.twins_probe h w₁ w₂ s.orders fun hP => hP.1.2).bind_eq fun ordersProbe => ?_
  refine (twins_setPhase _).bind_eq fun _ => ?_
  refine (twins_alignWindow h w₁ w₂ _).bind_eq fun alignmentB => (ha _).bind_eq fun tokenABurst => ?_
  exact (s.gateway.twins_probe h w₁ w₂ s.users fun hP => hP.2).bind_eq fun tokenBProbe =>
    twins_pure fun _ => rfl

end Scenario

include h

/-- Runs with settings that differ in the passwords only. -/
theorem twins_runScenario (settings : Settings) (password : String) (passwordB : Option String)
    (shared : Bool) (runId : Option String) :
    Twins t₁ t₂ P Eq (runScenario w₁.traced settings shared runId)
      (runScenario w₂.traced (settings.withPasswords password passwordB) shared runId) := by
  refine (twins_ofExcept_self _ _).bind_eq fun aligner => ?_
  split
  case' isTrue => refine (twins_openConnection _).bind_eq fun _ => ?_
  all_goals
    refine (twins_beginRun h w₁ w₂ runId).bind_eq fun id => (twins_log _ _ _ _).bind_eq fun _ => ?_
    refine Twins.bind_eq ?_ fun findings => Scenario.twins_conclude _ _
    exact Scenario.twins_guarded (Scenario.twins_experiments h w₁ w₂
      (Scenario.ofSettings settings aligner) ⟨rfl, rfl⟩ ⟨rfl, rfl⟩)

omit h

/-! ## The command -/

namespace Command

theorem twins_prepare (settings : Settings) (password : String) (passwordB : Option String) :
    Twins t₁ t₂ P Eq (prepare (σ := Traced σ) settings)
      (prepare (σ := Traced τ) (settings.withPasswords password passwordB)) :=
  twins_modify (fun _ => rfl) (fun _ => rfl) fun _ _ hs =>
    ⟨hs.steps, hs.context,
      congrArg ((LogSettings.ofNames service settings.logLevel).toOption.getD ·) hs.logging,
      hs.entries, hs.printed, rfl, hs.opened⟩

theorem twins_tellFailure (runId : String) (e : HarnessError) :
    Twins t₁ t₂ P Eq (tellFailure (σ := Traced σ) runId e) (tellFailure (σ := Traced τ) runId e) :=
  (twins_log _ _ _ _).bind_eq fun _ => twins_notice _

theorem twins_statusOfFault (runId : String) (e : Fault) :
    Twins t₁ t₂ P Eq (statusOfFault (σ := Traced σ) runId e)
      (statusOfFault (σ := Traced τ) runId e) := by
  unfold statusOfFault
  split
  · exact twins_pure fun _ => rfl
  · exact (twins_tellFailure runId _).bind_eq fun _ => twins_pure fun _ => rfl
  · exact twins_throw _

include h

theorem twins_writeMetrics (path : Option String) :
    Twins t₁ t₂ P Eq (writeMetrics w₁.traced path) (writeMetrics w₂.traced path) := by
  have hwrite (path content : String) : Twins t₁ t₂ P Eq (replaceFile w₁.traced path content)
      (replaceFile w₂.traced path content) :=
    twins_replaceFile h w₁ w₂ path content
  have hget : Twins t₁ t₂ P Session.Alike (get : Harness (Traced σ) (Session (Traced σ)))
      (get : Harness (Traced τ) (Session (Traced τ))) :=
    ⟨fun _ => List.prefix_rfl, fun _ => List.prefix_rfl, fun _ _ _ hs _ _ => ⟨.ok hs, hs⟩⟩
  refine hget.bind_of_grows (fun v₁ => ?_) (fun v₂ => ?_) fun v₁ v₂ hv => ?_
  · split
    · exact (hwrite _ _).grows₁
    · exact moves_pure composes_grows ()
  · split
    · exact (hwrite _ _).grows₂
    · exact moves_pure composes_grows ()
  · rw [hv.metrics]
    split
    · exact hwrite _ _
    · exact twins_pure fun _ => rfl

theorem twins_attempt (settings : Settings) (password : String) (passwordB : Option String)
    (o : CommandOptions) (runId : String) :
    Twins t₁ t₂ P Eq (attempt w₁.traced settings o runId)
      (attempt w₂.traced (settings.withPasswords password passwordB) o runId) := by
  refine (Twins.tryCatch ?_ fun e => ?_).ensuring (twins_writeMetrics h w₁ w₂ _)
  · rw [map_eq_pure_bind, map_eq_pure_bind]
    exact (twins_runScenario h w₁ w₂ settings password passwordB false _).bind_eq fun _ =>
      twins_pure fun _ => rfl
  · rw [map_eq_pure_bind, map_eq_pure_bind]
    exact (twins_statusOfFault runId e).bind_eq fun _ => twins_pure fun _ => rfl

theorem twins_announce (o : CommandOptions) (runId : String) (r : RunResult) :
    Twins t₁ t₂ P Eq (announce w₁.traced o runId r) (announce w₂.traced o runId r) := by
  have hreport : Twins t₁ t₂ P Eq (r.report (σ := Traced σ)) (r.report (σ := Traced τ)) :=
    (twins_print _).bind_eq fun _ => (twins_log _ _ _ _).bind_eq fun _ => twins_pure fun _ => rfl
  have hwrite (path text : String) : Twins t₁ t₂ P Eq (writeFile w₁.traced path text)
      (writeFile w₂.traced path text) :=
    twins_writeFile h w₁ w₂ path text
  have hfailed (e : HarnessError) : Twins t₁ t₂ P Eq
      (do tellFailure (σ := Traced σ) runId e; return exitChecksFailed)
      (do tellFailure (σ := Traced τ) runId e; return exitChecksFailed) :=
    (twins_tellFailure runId e).bind_eq fun _ => twins_pure fun _ => rfl
  unfold announce
  refine hreport.bind_eq fun summary => ?_
  cases r.failure? with
  | some e =>
    cases o.output with
    | none => exact hfailed e
    | some path => exact (hwrite _ _).bind_eq fun _ => hfailed e
  | none =>
    cases o.output with
    | none => exact (twins_log _ _ _ _).bind_eq fun _ => twins_pure fun _ => rfl
    | some path =>
      exact (hwrite _ _).bind_eq fun _ => (twins_log _ _ _ _).bind_eq fun _ =>
        twins_pure fun _ => rfl

/-- Commands that run with settings that differ in the passwords only. -/
theorem twins_execute (settings : Settings) (password : String) (passwordB : Option String)
    (o : CommandOptions) :
    Twins t₁ t₂ P Eq (execute w₁.traced settings o)
      (execute w₂.traced (settings.withPasswords password passwordB) o) := by
  refine (twins_prepare settings password passwordB).bind_eq fun _ => ?_
  refine (twins_beginRun h w₁ w₂ none).bind_eq fun runId => Twins.ensuring ?_ twins_clearContext
  refine (twins_attempt h w₁ w₂ settings password passwordB o runId).bind_eq fun verdict => ?_
  cases verdict with
  | error status => exact twins_pure fun _ => rfl
  | ok r => exact (twins_announce h w₁ w₂ o runId r).bind_eq fun _ => twins_pure fun _ => rfl

end Command

end Runs

/-! ## An outside that is steady -/

/-- An outside that answers the same at any time. -/
def World.steady (reply : Reply) : World Unit where
  readClock := fun st => (0, st)
  sleep := fun _ st => (.ok (), st)
  newId := fun st => ("", st)
  send := fun _ st => (⟨reply, []⟩, st)
  writeFile := fun _ _ st => (.ok (), st)
  replaceFile := fun _ _ st => (.ok (), st)

/-- A step against such an outside. -/
def Step.Steady (reply : Reply) : Step → Prop
  | readClock now => now = 0
  | slept _ result => result = .ok ()
  | newId id => id = ""
  | sent _ exchange => exchange = ⟨reply, []⟩
  | wrote _ _ result => result = .ok ()
  | replaced _ _ result => result = .ok ()

theorem World.steady_shows (reply : Reply) : (World.steady reply).Shows (Step.Steady reply) :=
  ⟨fun _ => rfl, fun _ _ => rfl, fun _ => rfl, fun _ _ => rfl⟩

/-- All steps of a run against such an outside are steady. -/
theorem steady_run (reply : Reply) (settings : Settings) (shared : Bool) (runId : Option String)
    {s : Session (Traced Unit)} (hs : s.world.2 = []) :
    ∀ e ∈ ((runScenario (World.steady reply).traced settings shared runId).run.run s).2.world.2,
      e.Steady reply := by
  obtain ⟨steps, hworld, hsteady⟩ :=
    moves_runScenario (World.steady_shows reply).respects settings shared runId s
  rw [hworld, hs, List.nil_append]
  exact hsteady

/-- And so are those of a command. -/
theorem steady_command (reply : Reply) (settings : Settings) (o : CommandOptions)
    {s : Session (Traced Unit)} (hs : s.world.2 = []) :
    ∀ e ∈ ((Command.execute (World.steady reply).traced settings o).run.run s).2.world.2,
      e.Steady reply := by
  have hwritable : Command.Writable (World.steady reply) o :=
    ⟨fun _ _ _ _ => rfl, fun _ _ _ _ => rfl⟩
  rcases hinner : (Command.inner (World.steady reply).traced settings).run.run s with ⟨r, s₁⟩
  obtain ⟨metrics, st, s', -, hexecute, hs'⟩ := Command.execute_of_inner hwritable hinner
  obtain ⟨steps, hworld, hsteady⟩ :=
    Command.inner_held (World.steady_shows reply) settings s
  have hsteps : s'.world.2 = steps ++ (Command.metricsSteps o metrics ++ Command.outputSteps o r) := by
    rw [hinner, hs, List.nil_append] at hworld
    rw [← hworld]
    exact congrArg (·.world.2) hs'
  rw [hexecute, hsteps]
  intro e he
  rcases List.mem_append.1 he with he | he
  · exact hsteady e he
  · rcases List.mem_append.1 he with he | he
    · obtain ⟨path, -, rfl⟩ := List.mem_map.1 he
      rfl
    · cases r with
      | ok r =>
        obtain ⟨path, -, rfl⟩ := List.mem_map.1 he
        rfl
      | error fault => cases he

theorem answers_of_const {γ : Type} {f : Step → Option γ} {R : γ → γ → Prop} {t₁ t₂ : List Step}
    {c₁ c₂ : γ} (h₁ : ∀ e ∈ t₁, ∀ a, f e = some a → a = c₁)
    (h₂ : ∀ e ∈ t₂, ∀ b, f e = some b → b = c₂) (hR : R c₁ c₂) : Answers f R t₁ t₂ := by
  rintro ⟨a, b⟩ hp
  obtain ⟨ha, hb⟩ := List.of_mem_zip hp
  obtain ⟨e₁, he₁, hf₁⟩ := List.mem_filterMap.1 ha
  obtain ⟨e₂, he₂, hf₂⟩ := List.mem_filterMap.1 hb
  cases h₁ e₁ he₁ a hf₁
  cases h₂ e₂ he₂ b hf₂
  exact hR

theorem sameAnswers_of_steady {reply₁ reply₂ : Reply} (hreply : Reply.Alike reply₁ reply₂)
    {t₁ t₂ : List Step} (h₁ : ∀ e ∈ t₁, e.Steady reply₁) (h₂ : ∀ e ∈ t₂, e.Steady reply₂) :
    SameAnswers t₁ t₂ := by
  have hreading {reply : Reply} (e : Step) (he : e.Steady reply) (a : Int)
      (ha : e.reading? = some a) : a = 0 := by
    cases e <;> cases ha
    exact he
  have hid {reply : Reply} (e : Step) (he : e.Steady reply) (a : String)
      (ha : e.id? = some a) : a = "" := by
    cases e <;> cases ha
    exact he
  have hrest {reply : Reply} (e : Step) (he : e.Steady reply) (a : Except SleepFault Unit)
      (ha : e.rest? = some a) : a = .ok () := by
    cases e <;> cases ha
    exact he
  have hwriting {reply : Reply} (e : Step) (he : e.Steady reply) (a : Except FileFault Unit)
      (ha : e.writing? = some a) : a = .ok () := by
    cases e <;> cases ha <;> exact he
  have hexchange {reply : Reply} (e : Step) (he : e.Steady reply) (a : Exchange)
      (ha : e.exchange? = some a) : a = ⟨reply, []⟩ := by
    cases e <;> cases ha
    exact he
  exact ⟨
    answers_of_const (fun e he => hreading e (h₁ e he)) (fun e he => hreading e (h₂ e he)) rfl,
    answers_of_const (fun e he => hid e (h₁ e he)) (fun e he => hid e (h₂ e he)) rfl,
    answers_of_const (fun e he => hrest e (h₁ e he)) (fun e he => hrest e (h₂ e he)) rfl,
    answers_of_const (fun e he => hwriting e (h₁ e he)) (fun e he => hwriting e (h₂ e he)) rfl,
    answers_of_const (fun e he => hexchange e (h₁ e he)) (fun e he => hexchange e (h₂ e he))
      ⟨hreply, rfl⟩⟩

/-- **Secrets do not show in what is reported.**  Two runs on sessions that are alike, with settings
    that differ in the passwords only, against outsides that give the same readings, ids and ends of
    sleeps and, but for the tokens in ASCII that replies give, the same replies: both end with the
    same results or in the same fault, and the sessions that they leave are alike, that is, the log,
    the metrics, the printed text and the connections are the same, and so are the steps but for the
    authorizations and the passwords that were sent.  The same holds for the commands that run with
    such settings, and so for their statuses, summaries and files. -/
theorem secrets_unreported (w₁ : World σ) (w₂ : World τ) (settings : Settings) (password : String)
    (passwordB : Option String) {s₁ : Session (Traced σ)} {s₂ : Session (Traced τ)}
    (hs : s₁.Alike s₂) :
    let other := settings.withPasswords password passwordB
    (∀ shared runId,
      let end₁ := (runScenario w₁.traced settings shared runId).run.run s₁
      let end₂ := (runScenario w₂.traced other shared runId).run.run s₂
      SameAnswers end₁.2.world.2 end₂.2.world.2 → end₁.1 = end₂.1 ∧ end₁.2.Alike end₂.2) ∧
    ∀ o,
      let end₁ := (Command.execute w₁.traced settings o).run.run s₁
      let end₂ := (Command.execute w₂.traced other o).run.run s₂
      SameAnswers end₁.2.world.2 end₂.2.world.2 → end₁.1 = end₂.1 ∧ end₁.2.Alike end₂.2 := by
  intro other
  constructor
  · intro shared runId end₁ end₂ h
    obtain ⟨hr, hsession⟩ :=
      (twins_runScenario h w₁ w₂ settings password passwordB shared runId).alike trivial s₁ s₂ hs
        List.prefix_rfl List.prefix_rfl
    exact ⟨hr.eq, hsession⟩
  · intro o end₁ end₂ h
    obtain ⟨hr, hsession⟩ :=
      (Command.twins_execute h w₁ w₂ settings password passwordB o).alike trivial s₁ s₂ hs
        List.prefix_rfl List.prefix_rfl
    exact ⟨hr.eq, hsession⟩

theorem secrets_unreported_tokens :
    let settings := Settings.ofWindow 1000
    let other := settings.withPasswords "secret" (some "another")
    let s : Session (Traced Unit) := { world := ((), []), metrics := some {} }
    let w₁ := (World.steady (.ok (.granting "t"))).traced
    let w₂ := (World.steady (.ok (.granting "u"))).traced
    let end₁ := (runScenario w₁ settings true none).run.run s
    let end₂ := (runScenario w₂ other true none).run.run s
    let done₁ := (Command.execute w₁ settings {}).run.run s
    let done₂ := (Command.execute w₂ other {}).run.run s
    (end₁.1 = end₂.1 ∧ end₁.2.Alike end₂.2) ∧ done₁.1 = done₂.1 ∧ done₁.2.Alike done₂.2 := by
  have hreply : Reply.Alike (.ok (.granting "t")) (.ok (.granting "u")) :=
    Or.inr ⟨"t", "u", ⟨_, rfl, LoginService.judgeResponse_eq_ok_iff.1 rfl⟩,
      ⟨_, rfl, LoginService.judgeResponse_eq_ok_iff.1 rfl⟩, by simp [SentAsIs], by simp [SentAsIs]⟩
  have h := @secrets_unreported _ _ (World.steady (.ok (.granting "t")))
    (World.steady (.ok (.granting "u"))) (Settings.ofWindow 1000) "secret" (some "another")
    { world := ((), []), metrics := some {} } { world := ((), []), metrics := some {} }
    ⟨.nil, rfl, rfl, rfl, rfl, rfl, rfl⟩
  exact ⟨h.1 true none (sameAnswers_of_steady hreply (steady_run _ _ _ _ rfl)
      (steady_run _ _ _ _ rfl)),
    h.2 {} (sameAnswers_of_steady hreply (steady_command _ _ _ rfl) (steady_command _ _ _ rfl))⟩

end RateIsolation
