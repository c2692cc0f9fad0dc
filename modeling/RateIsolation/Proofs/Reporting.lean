/-
  When the summary of a run is printed.

  * `Command.inner` is the run inside a command, `Command.metricsWritten` what
    comes of writing its metrics;
  * `Command.run_printed`: a command whose run gave results prints their
    summary, and nothing else, if the metrics could be written; if not, it ends
    in that failure and prints nothing.
-/
import RateIsolation.Command.Run
import RateIsolation.Proofs.Frame
import RateIsolation.Proofs.Transcript

namespace RateIsolation

open Harness

variable {σ : Type}

/-! ## The command -/

namespace Command

/-- The run inside a command. -/
def inner (w : World σ) (settings : Settings) : Harness σ RunResult := do
  prepare settings
  let runId ← beginRun w none
  runScenario w settings false (some runId)

/-- A command prepares and begins its run, and then runs. -/
theorem inner_run (w : World σ) (settings : Settings) (s₀ : Session σ) :
    ∃ sp runId sb, (prepare settings : Harness σ Unit).run.run s₀ = (.ok (), sp) ∧
      (beginRun w none).run.run sp = (.ok runId, sb) ∧
      (inner w settings).run.run s₀ =
        (runScenario w settings false (some runId)).run.run sb := by
  obtain ⟨sp, hprepare⟩ : ∃ sp, (prepare settings : Harness σ Unit).run.run s₀ = (.ok (), sp) :=
    ⟨_, rfl⟩
  obtain ⟨runId, sb, hbegin⟩ : ∃ runId sb, (beginRun w none).run.run sp = (.ok runId, sb) :=
    ⟨_, _, rfl⟩
  refine ⟨sp, runId, sb, hprepare, hbegin, ?_⟩
  rw [inner, run_bind_of_ok hprepare, run_bind_of_ok hbegin]

/-- What comes of writing the metrics of a session, if a file is named for them. -/
def metricsWritten (w : World σ) (o : CommandOptions) (s : Session σ) : Except FileFault Unit :=
  match o.metricsFile, s.metrics with
  | some path, some metrics => (w.replaceFile (PathName.normal path) metrics.exposition s.world).1
  | _, _ => .ok ()

section Aside

variable {τ : Type} {view : Session σ → τ} (hv : Aside view)

include hv

theorem keeps_writeMetrics (w : World σ) (path : Option String) :
    Keeps view (writeMetrics w path) := by
  have hget : Keeps view (get : Harness σ (Session σ)) := fun _ => rfl
  refine hget.bind fun s => ?_
  split
  · exact (keeps_ask hv _).bind fun _ => keeps_ofExcept _ _
  · exact keeps_pure ()

theorem keeps_configure (u : Surroundings) (o : CommandOptions) : Keeps view (configure u o) :=
  (Keeps.forM (fun _ => keeps_notice hv _) _).bind fun _ => keeps_pure _

theorem keeps_tellFailure (runId : String) (e : HarnessError) :
    Keeps view (tellFailure runId e) :=
  (keeps_log hv _ _ _ _).bind fun _ => keeps_notice hv _

end Aside

theorem keeps_inner_printed (w : World σ) (settings : Settings) :
    Keeps Session.printed (inner w settings) := by
  have hprepare : Keeps Session.printed (prepare settings : Harness σ Unit) :=
    keeps_modify fun _ => rfl
  refine hprepare.bind fun _ => (keeps_beginRun aside_printed w none).bind fun runId => ?_
  exact keeps_runScenario aside_printed w settings false (some runId)

/-- The metrics are written, or the failure to do so is raised. -/
theorem writeMetrics_result (w : World σ) (o : CommandOptions) (s : Session σ) :
    ((writeMetrics w o.metricsFile).run.run s).1 = (metricsWritten w o s).mapError .file := by
  have hfile (r : Except FileFault Unit) (s : Session σ) :
      ((ofExcept Fault.file r : Harness σ Unit).run.run s).1 = r.mapError .file := by
    cases r <;> rfl
  have hget : (get : Harness σ (Session σ)).run.run s = (.ok s, s) := rfl
  unfold writeMetrics metricsWritten
  rw [run_bind_of_ok hget]
  rcases o.metricsFile with _ | path
  · rfl
  · rcases s.metrics with _ | metrics
    · rfl
    · exact hfile _ _

/-- What a run with results comes to once its metrics are written. -/
theorem attempt_of_ok {w : World σ} {settings : Settings} {o : CommandOptions} {runId : String}
    {s s₁ : Session σ} {r : RunResult}
    (hrun : (runScenario w settings false (some runId)).run.run s = (.ok r, s₁)) :
    ∃ s₂, (attempt w settings o runId).run.run s =
        (((metricsWritten w o s₁).mapError .file).map fun _ => .ok r, s₂) ∧
      s₂.printed = s₁.printed := by
  have hmap : (Except.ok <$> runScenario w settings false (some runId) :
      Harness σ (Except Int RunResult)).run.run s = (.ok (.ok r), s₁) := by
    rw [map_eq_pure_bind, run_bind_of_ok hrun]
    rfl
  refine ⟨_, ?_, keeps_writeMetrics aside_printed w o.metricsFile s₁⟩
  have hwritten := writeMetrics_result w o s₁
  rw [attempt, run_ensuring, run_tryCatch, hmap]
  dsimp only
  rcases hwrite : (writeMetrics w o.metricsFile).run.run s₁ with ⟨_ | _, s₂⟩ <;>
    rw [hwrite] at hwritten <;> rw [← hwritten] <;> rfl

/-- The summary is printed, and nothing after it. -/
theorem announce_printed (w : World σ) (o : CommandOptions) (runId : String) (r : RunResult)
    (s : Session σ) :
    ((announce w o runId r).run.run s).2.printed = s.printed ++ r.reportText := by
  obtain ⟨entries, hreport⟩ := r.run_report s
  have hafter (k : Json → Harness σ Int) (hk : ∀ a, Keeps Session.printed (k a)) :
      ((r.report >>= k).run.run s).2.printed = s.printed ++ r.reportText := by
    rw [run_bind_of_ok hreport]
    exact hk r.summary _
  have hwrite (path text : String) : Keeps Session.printed (writeFile w path text) :=
    (keeps_ask aside_printed _).bind fun _ => keeps_ofExcept _ _
  refine hafter _ fun _ => ?_
  cases o.output
  case' some => refine (hwrite _ _).bind fun _ => ?_
  all_goals
    cases r.failure? with
    | some e => exact (keeps_tellFailure aside_printed _ _).bind fun _ => keeps_pure _
    | none => exact (keeps_log aside_printed _ _ _ _).bind fun _ => keeps_pure _

/-- A run with results is announced once its metrics are written; where they cannot be, the command
    ends in that failure. -/
theorem run_of_inner {w : World σ} {u : Surroundings} {words : List String} {o : CommandOptions}
    {settings : Settings} {s s₀ s₁ : Session σ} {r : RunResult}
    (hread : CommandLine.read words = .ok (.run o))
    (hconfigure : (configure u o).run.run s = (.ok (.ok settings), s₀))
    (hinner : (inner w settings).run.run s₀ = (.ok r, s₁)) :
    ∃ runId s₂, s₂.printed = s.printed ∧
      (metricsWritten w o s₁ = .ok () →
        ((run w u words).run.run s).2.printed = ((announce w o runId r).run.run s₂).2.printed) ∧
      ∀ fault, metricsWritten w o s₁ = .error fault →
        (run w u words).run.run s = (.error (.file fault), { s₂ with context := {} }) := by
  have hsilent : s₁.printed = s.printed := by
    have h₀ := keeps_configure aside_printed u o s
    have h₁ := keeps_inner_printed w settings s₀
    rw [hconfigure] at h₀
    rw [hinner] at h₁
    exact h₁.trans h₀
  -- the command prepares and begins the run as the run alone does
  obtain ⟨sp, runId, sb, hprepare, hbegin, hrun⟩ := inner_run w settings s₀
  obtain ⟨s₂, hattempt, hs₂⟩ := attempt_of_ok (o := o) (hrun.symm.trans hinner)
  have hclear (x : Harness σ CommandEnd) (s : Session σ) :
      (ensuring x clearContext).run.run s =
        ((x.run.run s).1, { (x.run.run s).2 with context := {} }) :=
    run_ensuring x clearContext s
  have hcommand : (run w u words).run.run s = (execute w settings o).run.run s₀ := by
    unfold run
    rw [hread]
    exact run_bind_of_ok hconfigure
  refine ⟨runId, s₂, hs₂.trans hsilent, ?_, ?_⟩
  all_goals
    rw [hcommand, execute, run_bind_of_ok hprepare, run_bind_of_ok hbegin, hclear]
  · intro hok
    rw [hok] at hattempt
    rw [run_bind_of_ok hattempt]
    have hend := run_bind_pure (announce w o runId r) CommandEnd.finished s₂
    exact congrArg (fun s => s.printed) hend
  · intro fault hfault
    rw [hfault] at hattempt
    rw [run_bind_of_error hattempt]

end Command

/-! ## Files that cannot be written -/

/-- An outside that serves, and where that comes of putting a file in place. -/
def World.servingFiles (replaced : Except FileFault Unit) : World Nat :=
  { World.serving with replaceFile := fun _ _ n => (replaced, n) }

theorem World.servingFiles_responds (replaced : Except FileFault Unit) :
    (World.servingFiles replaced).Responds fun n id => id.toList.length < n :=
  have h := World.serving_responds
  ⟨h.answers, h.sleeps, h.ids.fresh, h.ids.spent, h.ids.newId, h.ids.readClock, h.ids.sleep,
    h.ids.send⟩

theorem World.servingFiles_grants (replaced : Except FileFault Unit) (l : LoginService)
    (i : Identity) (url : Url) (n : Nat) : l.Grants (World.servingFiles replaced) i url n "t" :=
  have h := World.serving_grants l i url n
  ⟨h.ascii, h.answer⟩

namespace Command

theorem inner_measured {w : World σ} {settings : Settings} {s₀ s₁ : Session σ}
    {r : Except Fault RunResult} (hinner : (inner w settings).run.run s₀ = (r, s₁)) :
    ∃ metrics, s₁.metrics = some metrics := by
  obtain ⟨sp, runId, sb, hprepare, hbegin, hrun⟩ := inner_run w settings s₀
  have hsb := keeps_beginRun aside_measured w none sp
  have h₁ := keeps_runScenario aside_measured w settings false (some runId) sb
  rw [hbegin] at hsb
  rw [← hrun, hinner] at h₁
  cases hprepare
  exact Option.isSome_iff_exists.1 (h₁.trans hsb)

/-- Against an outside that serves, the run inside a command gives results. -/
theorem inner_serving (replaced : Except FileFault Unit) (s : Session (Nat × List WorldEvent)) :
    ∃ r s₁, (inner (World.servingFiles replaced).recording (Settings.ofWindow 1000)).run.run s =
      (.ok r, s₁) := by
  let w := World.servingFiles replaced
  let settings := Settings.ofWindow 1000
  have hwindow : 0 < settings.windowMs := by decide
  have hmargin : 0 ≤ settings.alignMarginMs := by decide
  obtain ⟨-, id, sb, -, -, hinner⟩ := inner_run w.recording settings s
  rcases experiments_transcript (World.servingFiles_responds replaced) (s := settings.scenario)
    hwindow hmargin (by decide) (Settings.resolve_login 1000) (Settings.resolve_users 1000)
    (Settings.resolve_orders 1000) sb.world.2
    (World.servingFiles_grants replaced _ _ _ sb.world.1)
    (World.servingFiles_grants replaced _ _ _ _) with
    ⟨t, alA, alB, st', hend, -⟩ | ⟨_, _, -, now, -, hnot⟩
  · obtain ⟨s₁, hrun, -⟩ := @runScenario_leads _ w.recording settings false (some id) sb.world _ _
      hwindow hmargin hend sb rfl
    refine ⟨(t.findings settings.scenario alA alB).result id, s₁, ?_⟩
    exact hinner.trans hrun
  · exact absurd (Settings.fits_default now) hnot

theorem metricsWritten_serving {replaced : Except FileFault Unit} {path : String} {metrics : Metrics}
    {s : Session (Nat × List WorldEvent)} (hmetrics : s.metrics = some metrics) :
    metricsWritten (World.servingFiles replaced).recording { metricsFile := some path } s =
      replaced := by
  rw [metricsWritten, hmetrics]
  rfl

/-- The words that name a file for the metrics in some directory. -/
def wordsForMetrics : List String := ["--metrics-file", "missing/m.prom"]

theorem read_wordsForMetrics : CommandLine.read wordsForMetrics =
    .ok (.run { metricsFile := some "missing/m.prom" }) := rfl

theorem configure_wordsForMetrics (s : Session σ) :
    (configure {} { metricsFile := some "missing/m.prom" }).run.run s =
      (.ok (.ok (Settings.ofWindow 1000)), s) := rfl

/-! ## Summaries -/

/-- **The summary is printed exactly where the metrics can be written.**  A command whose run gave
    results prints their summary and nothing else, whatever comes of writing the summary to a file,
    if a file for the metrics is not named or can be written; if it cannot, the command ends in that
    failure and prints nothing. -/
theorem run_printed {w : World σ} {u : Surroundings} {words : List String} {o : CommandOptions}
    {settings : Settings} {s s₀ s₁ : Session σ} {r : RunResult}
    (hread : CommandLine.read words = .ok (.run o))
    (hconfigure : (configure u o).run.run s = (.ok (.ok settings), s₀))
    (hinner : (inner w settings).run.run s₀ = (.ok r, s₁)) :
    (metricsWritten w o s₁ = .ok () →
      ((run w u words).run.run s).2.printed = s.printed ++ r.reportText) ∧
    (∀ fault, metricsWritten w o s₁ = .error fault →
      ∃ s', (run w u words).run.run s = (.error (.file fault), s') ∧ s'.printed = s.printed) := by
  obtain ⟨runId, s₂, hs₂, hok, hfault⟩ := run_of_inner hread hconfigure hinner
  constructor
  · intro hwritten
    rw [hok hwritten, announce_printed, hs₂]
  · intro fault hwritten
    exact ⟨_, hfault fault hwritten, hs₂⟩

theorem run_printed_default :
    ∃ r s₁, (inner (World.servingFiles (.ok ())).recording (Settings.ofWindow 1000)).run.run
        { world := (0, []) } = (.ok r, s₁) ∧
      ((run (World.servingFiles (.ok ())).recording {} wordsForMetrics).run.run
        { world := (0, []) }).2.printed = r.reportText := by
  obtain ⟨r, s₁, hinner⟩ := inner_serving (.ok ()) { world := (0, []) }
  obtain ⟨metrics, hmetrics⟩ := inner_measured hinner
  refine ⟨r, s₁, hinner, ?_⟩
  have hprinted := (run_printed read_wordsForMetrics (configure_wordsForMetrics _) hinner).1
    (metricsWritten_serving hmetrics)
  rw [hprinted]
  exact String.empty_append

/-- Where the file for the metrics cannot be written, the summary of a run with results is lost. -/
theorem run_silent_of_missing_directory :
    ∃ r s₁ s', (inner (World.servingFiles (.error .noSuchFile)).recording
        (Settings.ofWindow 1000)).run.run { world := (0, []) } = (.ok r, s₁) ∧
      (run (World.servingFiles (.error .noSuchFile)).recording {} wordsForMetrics).run.run
        { world := (0, []) } = (.error (.file .noSuchFile), s') ∧ s'.printed = "" := by
  obtain ⟨r, s₁, hinner⟩ := inner_serving (.error .noSuchFile) { world := (0, []) }
  obtain ⟨metrics, hmetrics⟩ := inner_measured hinner
  obtain ⟨runId, s₂, hs₂, -, hfault⟩ :=
    run_of_inner read_wordsForMetrics (configure_wordsForMetrics _) hinner
  exact ⟨r, s₁, _, hinner, hfault _ (metricsWritten_serving hmetrics), hs₂⟩

end Command

end RateIsolation
