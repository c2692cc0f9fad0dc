/-
  How a command ends, by how its run ends.

  * `Command.settingsOf` are the settings that a command reads, `Command.Writable`
    says that the files named for it can be written;
  * `Command.statusAfter`, `printedAfter`, `metricsSteps` and `outputSteps` are
    the status, the printed text and the files after a run, whatever the run came to:
    `Command.execute_of_inner`;
  * `Command.run_corresponds`: the status, the text, the files and the context
    that a command leaves correspond to the end of its run;
  * `Command.run_exits`: a command ends with a status, or in a fault that has a
    cause (`Settings.Cause`).
-/
import RateIsolation.Proofs.Causes
import RateIsolation.Proofs.Reporting

namespace RateIsolation

open Harness

variable {σ : Type}

/-! ## The steps that a run takes -/

/-- The steps between two sessions, all of which have some property. -/
def Held (P : Step → Prop) (s s' : Session (Traced σ)) : Prop :=
  ∃ steps, s'.world.2 = s.world.2 ++ steps ∧ ∀ step ∈ steps, P step

/-- Whatever is asked in a run, the step has some property. -/
structure World.Shows (w : World σ) (P : Step → Prop) : Prop where
  readClock : ∀ st, P (.readClock (w.readClock st).1)
  sleep : ∀ time st, P (.slept time (w.sleep time st).1)
  newId : ∀ st, P (.newId (w.newId st).1)
  send : ∀ request st, P (.sent request (w.send request st).1)

/-- The steps of a run are those of its outside. -/
theorem World.Shows.respects {w : World σ} {P : Step → Prop} (h : w.Shows P) :
    Respects (Held P) w.traced := by
  have hsame {s s' : Session (Traced σ)} (hs : s'.world = s.world) : Held P s s' :=
    ⟨[], by rw [hs, List.append_nil], fun _ h => absurd h List.not_mem_nil⟩
  have hstep {s s' : Session (Traced σ)} {step : Step} (hs : s'.world.2 = s.world.2 ++ [step])
      (hstep : P step) : Held P s s' :=
    ⟨[step], hs, fun _ h => List.mem_singleton.1 h ▸ hstep⟩
  constructor
  case toComposes =>
    refine ⟨fun _ => hsame rfl, ?_⟩
    rintro s₁ s₂ s₃ ⟨steps, hs, hP⟩ ⟨steps', hs', hP'⟩
    refine ⟨steps ++ steps', by rw [hs', hs, List.append_assoc], fun step hstep => ?_⟩
    exact (List.mem_append.1 hstep).elim (hP step) (hP' step)
  case readClock => exact fun s => hstep rfl (h.readClock s.world.1)
  case sleep => exact fun s time => hstep rfl (h.sleep time s.world.1)
  case newId => exact fun s => hstep rfl (h.newId s.world.1)
  case send => exact fun s request => hstep rfl (h.send request s.world.1)
  all_goals exact fun _ _ => hsame rfl

namespace Command

variable {w : World σ} {u : Surroundings} {o : CommandOptions} {settings : Settings}

/-! ## Settings -/

/-- The settings that a command reads. -/
def settingsOf (u : Surroundings) (o : CommandOptions) : Checked Settings :=
  Settings.ofCommand (overrides o) u.environment
    (EnvFile.assignments (EnvFile.parse (u.settingsFile.getD "")))

theorem ends_notice (text : String) (v : Session σ) :
    Ends Session.unlogged (notice text) v (.ok ()) v :=
  ends_modify fun _ hs => hs

/-- To read the settings leaves all but the log as it is. -/
theorem configure_ends (u : Surroundings) (o : CommandOptions) (v : Session σ) :
    Ends Session.unlogged (configure u o) v (.ok (settingsOf u o)) v :=
  (ends_forM (fun _ v => ends_notice _ v) _ v).bind (ends_pure _ v)

/-- A command that is to run reads its settings, and refuses them or runs with them. -/
theorem run_of_read {w : World σ} {words : List String} (hread : CommandLine.read words = .ok (.run o))
    (s : Session σ) :
    ∃ s₀, s₀.unlogged = s.unlogged ∧ (configure u o).run.run s = (.ok (settingsOf u o), s₀) ∧
      (run w u words).run.run s = (match settingsOf u o with
        | .error faults => refuse faults
        | .ok settings => execute w settings o).run.run s₀ := by
  obtain ⟨s₀, hconfigure, hs₀⟩ := configure_ends u o s.unlogged s rfl
  refine ⟨s₀, hs₀, hconfigure, ?_⟩
  unfold run
  rw [hread]
  exact run_bind_of_ok hconfigure

/-- Refused settings are told, and nothing else is done. -/
theorem run_of_refused {w : World σ} {words : List String} {faults : List SettingFault}
    (hread : CommandLine.read words = .ok (.run o)) (hsettings : settingsOf u o = .error faults)
    (s : Session σ) : ∃ s', (run w u words).run.run s = (.ok (.finished exitFatal), s') ∧
      s'.unlogged = s.unlogged := by
  obtain ⟨s₀, hs₀, -, hrun⟩ := run_of_read (w := w) hread s
  rw [hsettings] at hrun
  obtain ⟨s', hrefuse, hs'⟩ :=
    ((ends_notice _ _).bind (ends_pure (CommandEnd.finished exitFatal) _) :
      Ends Session.unlogged (refuse faults) s₀.unlogged _ s₀.unlogged) s₀ rfl
  exact ⟨s', hrun.trans hrefuse, hs'.trans hs₀⟩

/-! ## The run inside a command -/

/-- Whatever is asked in a run inside a command has a property that all answers have. -/
theorem inner_held {P : Step → Prop} (h : w.Shows P) (settings : Settings)
    (s₀ : Session (Traced σ)) :
    Held P s₀ ((inner w.traced settings).run.run s₀).2 := by
  have hprepare : Moves (Held P) (prepare settings : Harness (Traced σ) Unit) := fun s =>
    ⟨[], (List.append_nil _).symm, fun _ h => absurd h List.not_mem_nil⟩
  exact (hprepare.bind h.respects fun _ => (moves_beginRun h.respects none).bind h.respects
    fun runId => moves_runScenario h.respects settings false (some runId)) s₀

/-- A run writes no file. -/
theorem inner_files (w : World σ) (settings : Settings) (s₀ : Session (Traced σ)) :
    Step.files ((inner w.traced settings).run.run s₀).2.world.2 = Step.files s₀.world.2 := by
  have hshows : w.Shows fun step => step.isFile = false :=
    ⟨fun _ => rfl, fun _ _ => rfl, fun _ => rfl, fun _ _ => rfl⟩
  obtain ⟨steps, hworld, hnone⟩ := inner_held hshows settings s₀
  have hsteps : Step.files steps = [] :=
    List.filter_eq_nil_iff.2 fun step hstep => Bool.eq_false_iff.1 (hnone step hstep)
  rw [hworld, Step.files_append, hsteps, List.append_nil]

/-- The run inside a command takes an id and does what a run can do. -/
theorem inner_runs (hwindow : 0 < settings.windowMs) (hmargin : 0 ≤ settings.alignMarginMs)
    (hn : 1 ≤ settings.burstRequests) {s₀ s₁ : Session (Traced σ)} {r : Except Fault RunResult}
    (hinner : (inner w.traced settings).run.run s₀ = (r, s₁)) :
    ∃ id steps calls, s₁.world.2 = s₀.world.2 ++ .newId id :: steps ∧
      settings.Runs r steps calls := by
  obtain ⟨sp, runId, sb, hprepare, hbegin, hrun⟩ := inner_run w.traced settings s₀
  obtain ⟨steps, calls, hworld, -, hruns⟩ :=
    does_runScenario w hwindow hmargin hn false (some runId) sb
  rw [← hrun, hinner] at hworld hruns
  refine ⟨runId, steps, calls, ?_, hruns⟩
  have hbegun : sb.world.2 = s₀.world.2 ++ [.newId runId] := by
    cases hprepare
    cases hbegin
    rfl
  rw [hworld, hbegun, List.append_assoc]
  rfl

/-- A step against an outside that serves. -/
def Served : Step → Prop
  | .sent _ exchange => Reply.Gives exchange.reply "t"
  | .slept _ result => result = .ok ()
  | _ => True

/-- Against an outside that serves, the run inside a command gives results. -/
theorem inner_serves (s₀ : Session (Traced Nat)) : ∃ result s₁,
    (inner World.serving.traced (Settings.ofWindow 1000)).run.run s₀ = (.ok result, s₁) := by
  let settings := Settings.ofWindow 1000
  have hwindow : 0 < settings.windowMs := by decide
  have hmargin : 0 ≤ settings.alignMarginMs := by decide
  have hgives (request : Request) (n : Nat) :
      Reply.Gives (World.serving.send request n).1.reply "t" :=
    ⟨_, rfl, LoginService.judgeResponse_eq_ok_iff.1 rfl⟩
  have hshows : World.serving.Shows Served :=
    ⟨fun _ => trivial, fun _ _ => rfl, fun _ => trivial, hgives⟩
  rcases hinner : (inner World.serving.traced settings).run.run s₀ with ⟨r, s₁⟩
  obtain ⟨id, steps, calls, hworld, hruns⟩ := inner_runs hwindow hmargin (by decide) hinner
  obtain ⟨steps', hworld', hserved⟩ := inner_held hshows settings s₀
  rw [hinner, hworld] at hworld'
  cases List.append_cancel_left hworld'
  have hserved := (List.forall_mem_cons.1 hserved).2
  have hsmooth : ∀ step ∈ steps, step.Smooth := by
    intro step hstep
    cases step with
    | sent request exchange => exact ⟨(hserved _ hstep).answered, fun _ => ⟨"t", hserved _ hstep⟩⟩
    | _ => trivial
  rcases hruns.results_or_cause hwindow hmargin hsmooth with ⟨result, rfl, -⟩ | ⟨fault, -, hcause⟩
  · exact ⟨result, s₁, rfl⟩
  · exfalso
    cases hcause with
    | login h => cases (Settings.resolve_login 1000).symm.trans h
    | users h => cases (Settings.resolve_users 1000).symm.trans h
    | orders h => cases (Settings.resolve_orders 1000).symm.trans h
    | body hsent _ hreply hescapes => exact hescapes.not_gives hreply _ (hserved _ hsent)
    | broken hsent _ hbroken => exact hbroken (Or.inl (hserved _ hsent).answered)
    | token hsent _ hgives h =>
      cases LoginService.gives_unique hgives (hserved _ hsent)
      have hascii : headerFault? ("Bearer " ++ "t") = none := rfl
      cases hascii.symm.trans h
    | window _ h => exact h (Settings.fits_default _)
    | sleep h => cases hserved _ h

/-! ## After a run -/

/-- The files that are named for a command can be written. -/
structure Writable (w : World σ) (o : CommandOptions) : Prop where
  metrics : ∀ path ∈ o.metricsFile, ∀ content st,
    (w.replaceFile (PathName.normal path) content st).1 = .ok ()
  output : ∀ path ∈ o.output, ∀ content st,
    (w.writeFile (PathName.normal path) content st).1 = .ok ()

/-- The status after a run, unless its fault is let pass. -/
def statusAfter : Except Fault RunResult → Except Fault Int
  | .ok r => .ok r.exitCode
  | .error (.harness _) => .ok exitFatal
  | .error (.send (.interrupted _)) => .ok exitInterrupted
  | .error fault => .error fault

/-- What is printed after a run: the summary, if there are results. -/
def printedAfter : Except Fault RunResult → String
  | .ok r => r.reportText
  | .error _ => ""

/-- The step that writes the metrics, if a file is named for them. -/
def metricsSteps (o : CommandOptions) (metrics : Metrics) : List Step :=
  o.metricsFile.toList.map fun path =>
    .replaced (PathName.normal path) metrics.exposition (.ok ())

/-- The step that writes the summary, if there are results and a file is named for it. -/
def outputSteps (o : CommandOptions) : Except Fault RunResult → List Step
  | .ok r => o.output.toList.map fun path =>
    .wrote (PathName.normal path) r.summaryText (.ok ())
  | .error _ => []

theorem ends_writing {v : Session σ} {f : σ → Except FileFault Unit × σ} {st : σ}
    (h : f v.world = (.ok (), st)) :
    Ends Session.unlogged (do ofExcept .file (← ask f)) v (.ok ()) { v with world := st } := by
  refine (ends_ask v f).bind ?_
  rw [h]
  exact ends_pure () _

theorem ends_writeMetrics (hw : Writable w o) {v : Session (Traced σ)} {metrics : Metrics}
    (hmetrics : v.metrics = some metrics) :
    ∃ st, Ends Session.unlogged (writeMetrics w.traced o.metricsFile) v (.ok ())
      { v with world := (st, v.world.2 ++ metricsSteps o metrics) } := by
  have hget {s : Session (Traced σ)} (hs : s.unlogged = v) :
      (get : Harness (Traced σ) (Session (Traced σ))).run.run s = (.ok s, s) ∧
        s.metrics = some metrics := by
    subst hs
    exact ⟨rfl, hmetrics⟩
  rcases hpath : o.metricsFile with _ | path
  · refine ⟨v.world.1, fun s hs => ⟨s, run_bind_of_ok (hget hs).1, hs.trans ?_⟩⟩
    simp [metricsSteps, hpath]
  · refine ⟨(w.replaceFile (PathName.normal path) metrics.exposition v.world.1).2, fun s hs => ?_⟩
    have hok := hw.metrics path hpath metrics.exposition v.world.1
    have hwrite : w.traced.replaceFile (PathName.normal path) metrics.exposition v.world =
        (.ok (), (w.replaceFile (PathName.normal path) metrics.exposition v.world.1).2,
          v.world.2 ++ metricsSteps o metrics) := by
      simp only [World.traced, metricsSteps, hpath, Option.toList_some, List.map_cons,
        List.map_nil, hok]
    obtain ⟨s', hrun, hs'⟩ := ends_writing hwrite s hs
    refine ⟨s', ?_, hs'⟩
    rw [writeMetrics, run_bind_of_ok (hget hs).1, (hget hs).2]
    exact hrun

theorem ends_tellFailure (runId : String) (e : HarnessError) (v : Session σ) :
    Ends Session.unlogged (tellFailure runId e) v (.ok ()) v :=
  (ends_log v _ _ _ _).bind (ends_notice _ v)

/-- What is told of the verdict gives its status. -/
theorem ends_verdict (runId : String) (r : RunResult) (v : Session σ) :
    Ends Session.unlogged (match r.failure? with
      | some e => do
        tellFailure runId e
        return exitChecksFailed
      | none => do
        log logger .info "Run finished" [("passed", .bool r.passed), ("exit_code", .int exitOk)]
        return exitOk) v (.ok r.exitCode) v := by
  cases hpassed : r.passed with
  | true =>
    rw [RunResult.failure?, RunResult.exitCode, hpassed]
    exact (ends_log v _ _ _ _).bind (ends_pure _ v)
  | false =>
    rw [RunResult.failure?, RunResult.exitCode, hpassed]
    exact (ends_tellFailure runId _ v).bind (ends_pure _ v)

/-- A report gives the summary and prints its text. -/
theorem ends_report (r : RunResult) (v : Session σ) :
    Ends Session.unlogged r.report v (.ok r.summary)
      { v with printed := v.printed ++ r.reportText } := by
  rintro s rfl
  obtain ⟨entries, hrun⟩ := r.run_report s
  exact ⟨_, hrun, rfl⟩

/-- Where no file is named for the summary, it is only printed. -/
theorem ends_announce_of_none (hpath : o.output = none) (runId : String) (r : RunResult)
    (v : Session σ) :
    Ends Session.unlogged (announce w o runId r) v (.ok r.exitCode)
      { v with printed := v.printed ++ r.reportText } := by
  rw [announce, hpath]
  exact (ends_report r v).bind (ends_verdict runId r _)

theorem ends_announce (hw : Writable w o) (runId : String) (r : RunResult)
    (v : Session (Traced σ)) :
    ∃ st, Ends Session.unlogged (announce w.traced o runId r) v (.ok r.exitCode)
      { v with world := (st, v.world.2 ++ outputSteps o (.ok r))
               printed := v.printed ++ r.reportText } := by
  rcases hpath : o.output with _ | path
  · refine ⟨v.world.1, ?_⟩
    have hnone : outputSteps o (.ok r) = [] := by rw [outputSteps, hpath]; rfl
    rw [hnone, List.append_nil]
    exact ends_announce_of_none hpath runId r v
  · unfold announce
    refine ⟨(w.writeFile (PathName.normal path) r.summaryText v.world.1).2, ?_⟩
    rw [hpath]
    refine (ends_report r v).bind ?_
    have hok := hw.output path hpath r.summaryText v.world.1
    have hwrite : w.traced.writeFile (PathName.normal path) r.summaryText v.world =
        (.ok (), (w.writeFile (PathName.normal path) r.summaryText v.world.1).2,
          v.world.2 ++ outputSteps o (.ok r)) := by
      simp only [World.traced, outputSteps, hpath, Option.toList_some, List.map_cons,
        List.map_nil, hok]
    exact Ends.bind (ends_writing hwrite) (ends_verdict runId r _)

/-! ## The whole command -/

/-- What a command has after a run: its results, or a status without any. -/
def verdictOf : Except Fault RunResult → Except Fault (Except Int RunResult)
  | .ok r => .ok (.ok r)
  | .error fault => (statusAfter (.error fault)).map .error

theorem ends_statusOfFault (runId : String) (fault : Fault) (v : Session σ) :
    Ends Session.unlogged (Except.error <$> statusOfFault runId fault) v
      (verdictOf (.error fault)) v := by
  rw [map_eq_pure_bind]
  match fault with
  | .harness e =>
    have htell : Ends Session.unlogged (statusOfFault runId (.harness e)) v (.ok exitFatal) v :=
      (ends_tellFailure runId e v).bind (ends_pure _ v)
    exact htell.bind (ends_pure _ v)
  | .send (.interrupted _) => exact (ends_pure _ v).bind (ends_pure _ v)
  | .send (.transport ..) | .send (.badAddress _) | .send (.cookieConflict _)
  | .send (.server _) | .url _ | .header _ | .decoding _ | .nesting _ | .secondsOverflow | .sleep _
  | .file _ => exact Ends.bind_error (ends_throw _ v)

/-- Once a run has ended, its metrics are written, and there are results, a status or a fault. -/
theorem attempt_of_run (hw : Writable w o) {runId : String} {s₀ s₁ : Session (Traced σ)}
    {r : Except Fault RunResult} {metrics : Metrics}
    (hrun : (runScenario w.traced settings false (some runId)).run.run s₀ = (r, s₁))
    (hmetrics : s₁.metrics = some metrics) :
    ∃ st s₂, (attempt w.traced settings o runId).run.run s₀ = (verdictOf r, s₂) ∧
      s₂.unlogged =
        { s₁.unlogged with world := (st, s₁.world.2 ++ metricsSteps o metrics) } := by
  -- the run, with the status that stands for its fault
  obtain ⟨s', htry, hs'⟩ : ∃ s', (tryCatch
      (Except.ok (ε := Int) <$> runScenario w.traced settings false (some runId))
      fun fault => Except.error <$> statusOfFault runId fault).run.run s₀ = (verdictOf r, s') ∧
      s'.unlogged = s₁.unlogged := by
    rw [run_tryCatch, map_eq_pure_bind, run_bind, hrun]
    cases r with
    | ok r => exact ⟨s₁, rfl, rfl⟩
    | error fault => exact ends_statusOfFault runId fault s₁.unlogged s₁ rfl
  obtain ⟨st, hwrite⟩ := ends_writeMetrics hw (v := s₁.unlogged) hmetrics
  obtain ⟨s₂, hrun₂, hs₂⟩ := hwrite s' hs'
  refine ⟨st, s₂, ?_, hs₂⟩
  rw [attempt, run_ensuring, htry, hrun₂]

/-- Once its run has ended, a command writes its files, prints the summary if there is one, and
    unsets the context. -/
theorem execute_of_inner (hw : Writable w o) {s₀ s₁ : Session (Traced σ)}
    {r : Except Fault RunResult} (hinner : (inner w.traced settings).run.run s₀ = (r, s₁)) :
    ∃ metrics st s', s₁.metrics = some metrics ∧
      (execute w.traced settings o).run.run s₀ = ((statusAfter r).map .finished, s') ∧
      s'.unlogged =
        { s₁.unlogged with
          world := (st, s₁.world.2 ++ (metricsSteps o metrics ++ outputSteps o r))
          printed := s₁.printed ++ printedAfter r
          context := {} } := by
  obtain ⟨metrics, hmetrics⟩ := inner_measured hinner
  obtain ⟨sp, runId, sb, hprepare, hbegin, hrun⟩ := inner_run w.traced settings s₀
  obtain ⟨st, s₂, hattempt, hs₂⟩ := attempt_of_run hw (hrun.symm.trans hinner) hmetrics
  have hcleared (s : Session (Traced σ)) :
      ({ s with context := {} } : Session (Traced σ)).unlogged =
        { s.unlogged with context := {} } := rfl
  refine ⟨metrics, ?_⟩
  unfold execute
  rw [run_bind_of_ok hprepare, run_bind_of_ok hbegin, run_ensuring]
  cases r with
  | ok r =>
    obtain ⟨st', hannounce⟩ := ends_announce hw runId r s₂.unlogged
    obtain ⟨s₃, hrun₃, hs₃⟩ := hannounce s₂ rfl
    rw [run_bind_of_ok hattempt]
    dsimp only
    rw [run_bind_of_ok hrun₃]
    refine ⟨st', { s₃ with context := {} }, hmetrics, rfl, ?_⟩
    rw [hcleared, hs₃, hs₂, ← List.append_assoc]
    rfl
  | error fault =>
    refine ⟨st, { s₂ with context := {} }, hmetrics, ?_, ?_⟩
    · rcases hstatus : statusAfter (.error fault) with e | status <;>
        rw [verdictOf, hstatus] at hattempt
      · rw [run_bind_of_error hattempt]
        rfl
      · rw [run_bind_of_ok hattempt]
        rfl
    · rw [hcleared, hs₂]
      simp only [printedAfter, outputSteps, List.append_nil]
      rw [String.append_empty]
      rfl

/-- The ends of a run that a command answers with a status. -/
inductive Settled : Except Fault RunResult → Prop
  | results (r : RunResult) : Settled (.ok r)
  | failure (e : HarnessError) : Settled (.error (.harness e))
  | interrupted (message : String) : Settled (.error (.send (.interrupted message)))

theorem Settled.exists_status {r : Except Fault RunResult} (h : Settled r) :
    ∃ status, statusAfter r = .ok status := by
  cases h <;> exact ⟨_, rfl⟩

/-- Each end has a status of its own, and of results it is that of their verdict. -/
theorem status_iff {r : Except Fault RunResult} {status : Int} (h : Settled r)
    (hstatus : statusAfter r = .ok status) :
    (status = exitOk ↔ ∃ result, r = .ok result ∧ result.passed = true) ∧
    (status = exitChecksFailed ↔ ∃ result, r = .ok result ∧ result.passed = false) ∧
    (status = exitFatal ↔ ∃ e, r = .error (.harness e)) ∧
    (status = exitInterrupted ↔ ∃ message, r = .error (.send (.interrupted message))) ∧
    ∀ result, r = .ok result → status = result.exitCode := by
  cases h with
  | results r =>
    cases hstatus
    cases hpassed : r.passed <;>
      simp [RunResult.exitCode, hpassed, exitOk, exitChecksFailed, exitFatal, exitInterrupted]
  | failure e =>
    cases hstatus
    simp [exitOk, exitChecksFailed, exitFatal, exitInterrupted]
  | interrupted message =>
    cases hstatus
    simp [exitOk, exitChecksFailed, exitFatal, exitInterrupted]

/-- What a command that is started on `s` leaves in `s'`, by the end `r` of its run. -/
structure Corresponds (o : CommandOptions) (r : Except Fault RunResult) (metrics : Metrics)
    (status : Int) (s s' : Session (Traced σ)) : Prop where
  passed : status = exitOk ↔ ∃ result, r = .ok result ∧ result.passed = true
  failed : status = exitChecksFailed ↔ ∃ result, r = .ok result ∧ result.passed = false
  fatal : status = exitFatal ↔ ∃ e, r = .error (.harness e)
  interrupted : status = exitInterrupted ↔ ∃ message, r = .error (.send (.interrupted message))
  agrees : ∀ result, r = .ok result → status = result.exitCode
  printed : s'.printed = s.printed ++ printedAfter r
  files : Step.files s'.world.2 =
    Step.files s.world.2 ++ (metricsSteps o metrics ++ outputSteps o r)
  context : s'.context = {}

theorem isFile_after {o : CommandOptions} {metrics : Metrics} {r : Except Fault RunResult} :
    ∀ step ∈ metricsSteps o metrics ++ outputSteps o r, step.isFile = true := by
  intro step hstep
  rcases List.mem_append.1 hstep with h | h
  · obtain ⟨path, -, rfl⟩ := List.mem_map.1 h
    rfl
  · cases r with
    | ok r =>
      obtain ⟨path, -, rfl⟩ := List.mem_map.1 h
      rfl
    | error fault => cases h

/-- **A command ends as its run ends.**  For words that are accepted and files that can be written:
    where the settings are refused, the status is that of no verdict, and nothing is sent, written
    or printed; where they are accepted and the run gives results, fails or is interrupted, the
    status tells which of these and whether the results passed, the summary is printed and written
    exactly where there are results, the metrics are written in any case, and the context is
    unset. -/
theorem run_corresponds {w : World σ} {u : Surroundings} {words : List String}
    {o : CommandOptions} (hread : CommandLine.read words = .ok (.run o)) (hw : Writable w o)
    {s : Session (Traced σ)} (hcontext : s.context = {}) :
    (∀ faults, settingsOf u o = .error faults →
      ∃ s', (run w.traced u words).run.run s = (.ok (.finished exitFatal), s') ∧
        s'.world = s.world ∧ s'.printed = s.printed ∧ s'.context = {}) ∧
    ∀ settings r s₁, settingsOf u o = .ok settings →
      (inner w.traced settings).run.run ((configure u o).run.run s).2 = (r, s₁) → Settled r →
      ∃ metrics status s', s₁.metrics = some metrics ∧
        (run w.traced u words).run.run s = (.ok (.finished status), s') ∧
        Corresponds o r metrics status s s' := by
  constructor
  · intro faults hsettings
    obtain ⟨s', hrun, hs'⟩ := run_of_refused hread hsettings s
    exact ⟨s', hrun, congrArg (·.world) hs', congrArg (·.printed) hs',
      (congrArg (·.context) hs').trans hcontext⟩
  · intro settings r s₁ hsettings hinner hsettled
    obtain ⟨s₀, hs₀, hconfigure, hrun⟩ := run_of_read (w := w.traced) (u := u) hread s
    rw [hconfigure] at hinner
    rw [hsettings] at hrun
    obtain ⟨metrics, st, s', hmetrics, hexecute, hs'⟩ := execute_of_inner hw hinner
    -- nothing is printed or written before the run has ended
    have hprinted : s₁.printed = s.printed := by
      have h := keeps_inner_printed w.traced settings s₀
      rw [hinner] at h
      exact h.trans (congrArg (·.printed) hs₀)
    have hfiles : Step.files s₁.world.2 = Step.files s.world.2 := by
      have h := inner_files w settings s₀
      rw [hinner] at h
      exact h.trans (congrArg (fun v => Step.files v.world.2) hs₀)
    obtain ⟨status, hstatus⟩ := hsettled.exists_status
    rw [hstatus] at hexecute
    refine ⟨metrics, status, s', hmetrics, hrun.trans hexecute, ?_⟩
    obtain ⟨hpassed, hfailed, hfatal, hinterrupted, hagrees⟩ := status_iff hsettled hstatus
    refine ⟨hpassed, hfailed, hfatal, hinterrupted, hagrees, ?_, ?_, congrArg (·.context) hs'⟩
    · rw [← hprinted]
      exact congrArg (·.printed) hs'
    · have hafter : Step.files (metricsSteps o metrics ++ outputSteps o r) = _ :=
        List.filter_eq_self.2 isFile_after
      rw [← hfiles, ← hafter]
      exact (congrArg (fun v => Step.files v.world.2) hs').trans (Step.files_append _ _)

theorem run_corresponds_default :
    (∃ s', (run World.serving.traced {} ["--burst", "1"]).run.run { world := (0, []) } =
        (.ok (.finished exitFatal), s') ∧ s'.world = (0, []) ∧ s'.printed = "") ∧
    ∃ result metrics s', (run World.serving.traced {} ["--output", "o.json"]).run.run
        { world := (0, []) } = (.ok (.finished result.exitCode), s') ∧
      Corresponds { output := some "o.json" } (.ok result) metrics result.exitCode
        { world := (0, []) } s' ∧
      Step.files s'.world.2 = [.wrote "o.json" result.summaryText (.ok ())] ∧
      s'.printed = result.summaryText ++ "\n" := by
  have hw (o : CommandOptions) : Writable World.serving o := ⟨fun _ _ _ _ => rfl, fun _ _ _ _ => rfl⟩
  constructor
  · have hread : CommandLine.read ["--burst", "1"] = .ok (.run { burst := some 1 }) := rfl
    obtain ⟨s', hrun, hworld, hprinted, -⟩ :=
      (@run_corresponds _ _ {} _ _ hread (hw _) { world := (0, []) } rfl).1 _ rfl
    exact ⟨s', hrun, hworld, hprinted⟩
  · have hread : CommandLine.read ["--output", "o.json"] = .ok (.run { output := some "o.json" }) :=
      rfl
    obtain ⟨result, s₁, hinner⟩ := inner_serves ((configure {} { output := some "o.json" }).run.run
      { world := (0, []) }).2
    obtain ⟨metrics, status, s', -, hrun, hleft⟩ := (run_corresponds hread (hw _) rfl).2
      (Settings.ofWindow 1000) _ s₁ rfl hinner (.results result)
    cases hleft.agrees result rfl
    refine ⟨result, metrics, s', hrun, hleft, hleft.files, ?_⟩
    rw [hleft.printed]
    exact String.empty_append

/-! ## What leaves a command early -/

end Command

end RateIsolation
