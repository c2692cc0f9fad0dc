/-
  What the metrics hold after any sequence of runs that share them.

  * `Launch.series` are runs one after another, each of which may end early;
  * `Conserved`: what was added to the metrics is what the runs account for;
    one run does (`PastRun.Wrote.conserved`), and runs add up
    (`Conserved.append`);
  * `series_conserved`: after runs that share new metrics, the counters are the
    sums over all runs and the gauge is the last wait.
-/
import RateIsolation.Proofs.Bookkeeping
import RateIsolation.Proofs.Transcript

namespace RateIsolation

open Harness

variable {σ : Type}

/-! ## Runs one after another -/

/-- A run to come, with the session that it is started on. -/
structure Launch (σ : Type) where
  world : World σ
  settings : Settings
  shared : Bool
  runId : Option String
  session : Session σ

namespace Launch

/-- The session of a run that writes into metrics, with nothing asked yet. -/
def start (l : Launch σ) (m : Metrics) : Session (Traced σ) :=
  { l.session with world := (l.session.world, []), metrics := some m }

/-- The run on metrics, and the metrics after it. -/
def run (l : Launch σ) (m : Metrics) : PastRun × Metrics :=
  let (r, s) := (runScenario l.world.traced l.settings l.shared l.runId).run.run (l.start m)
  (⟨l.settings, r, s.world.2⟩, s.metrics.getD m)

/-- Runs one after another that share their metrics. -/
def series : List (Launch σ) → Metrics → List PastRun × Metrics
  | [], m => ([], m)
  | l :: ls, m =>
    let (past, m') := l.run m
    let (rest, m'') := series ls m'
    (past :: rest, m'')

/-- What a run with accepted settings comes to, and writes. -/
theorem run_runs {l : Launch σ} {sources : Sources} (hload : Settings.load sources = .ok l.settings)
    (m : Metrics) : ∃ calls, (l.run m).2 = m.recordAll calls ∧
      (l.run m).1.settings.Runs (l.run m).1.result (l.run m).1.steps calls := by
  obtain ⟨hn, hwindow, hmargin⟩ := Settings.load_bounds hload
  obtain ⟨steps, calls, hworld, hmetrics, hruns⟩ := does_runScenario l.world (by omega) hmargin
    (by omega) l.shared l.runId (l.start m)
  refine ⟨calls, ?_, ?_⟩
  · have hleft : (l.run m).2 = ((runScenario l.world.traced l.settings l.shared l.runId).run.run
        (l.start m)).2.metrics.getD m := rfl
    rw [hleft, hmetrics]
    rfl
  · show l.settings.Runs _ _ calls
    have hsteps : (l.run m).1.steps = steps := hworld.trans (List.nil_append steps)
    rw [hsteps]
    exact hruns

end Launch

/-- What was added to the metrics, and what their gauge shows, is what the runs account for. -/
structure Conserved (m m' : Metrics) (past : List PastRun) : Prop where
  requests : ∀ target identity o, m'.requestCount target identity o =
    m.requestCount target identity o + (past.map fun run => run.requests target identity o).sum
  checks : ∀ c, m'.checkCount c = m.checkCount c + past.countP fun run => run.checked c
  errors : m'.errorTotal = m.errorTotal + past.countP PastRun.aborted
  waits : some m'.waitSeconds =
    ((past.flatMap PastRun.alignments).map Alignment.waitSeconds).getLast?.getD (some m.waitSeconds)

/-- One run adds what it wrote. -/
theorem PastRun.Wrote.conserved {run : PastRun} {calls : List Recording} (h : run.Wrote calls)
    (m : Metrics) : Conserved m (m.recordAll calls) [run] where
  requests target identity o := by
    rw [Metrics.requestCount_recordAll, h.requests]
    simp
  checks c := by
    rw [Metrics.checkCount_recordAll, h.checks]
    cases hc : run.checked c <;> simp [hc]
  errors := by
    rw [Metrics.errorTotal_recordAll, h.errors]
    cases ha : run.aborted <;> simp [ha]
  waits := by
    rw [Metrics.waitSeconds_recordAll, List.flatMap_singleton, ← h.waits, List.getLast?_map,
      Option.getD_map]

/-- Runs add up. -/
theorem Conserved.append {m m' m'' : Metrics} {past rest : List PastRun} (h : Conserved m m' past)
    (h' : Conserved m' m'' rest) : Conserved m m'' (past ++ rest) where
  requests target identity o := by
    rw [h'.requests, h.requests, List.map_append, List.sum_append, Nat.add_assoc]
  checks c := by rw [h'.checks, h.checks, List.countP_append, Nat.add_assoc]
  errors := by rw [h'.errors, h.errors, List.countP_append, Nat.add_assoc]
  waits := by
    rw [h'.waits, h.waits, List.flatMap_append, List.map_append, List.getLast?_append,
      Option.getD_or]

theorem countP_add {α : Type} {p q r : α → Bool} (l : List α)
    (h : ∀ x ∈ l, (p x).toNat + (q x).toNat = (r x).toNat) :
    l.countP p + l.countP q = l.countP r := by
  induction l with
  | nil => rfl
  | cons x l ih =>
    have hx := h x List.mem_cons_self
    have hl := ih fun y hy => h y (List.mem_cons_of_mem _ hy)
    simp only [List.countP_cons]
    cases hp : p x <;> cases hq : q x <;> cases hr : r x <;> simp [hp, hq, hr] at hx ⊢ <;> omega

/-- Runs with accepted settings one after another conserve what they share. -/
theorem Launch.conserved {launches : List (Launch σ)}
    (hload : ∀ l ∈ launches, ∃ sources, Settings.load sources = .ok l.settings) (m : Metrics) :
    Conserved m (series launches m).2 (series launches m).1 ∧
      ∀ run ∈ (series launches m).1, ∃ calls, run.settings.Runs run.result run.steps calls := by
  induction launches generalizing m with
  | nil => exact ⟨⟨fun _ _ _ => rfl, fun _ => rfl, rfl, rfl⟩, fun _ h => absurd h List.not_mem_nil⟩
  | cons l ls ih =>
    obtain ⟨sources, hsettings⟩ := hload l List.mem_cons_self
    obtain ⟨calls, hmetrics, hruns⟩ := run_runs hsettings m
    obtain ⟨hconserved, hrest⟩ := ih (fun l h => hload l (List.mem_cons_of_mem _ h)) (l.run m).2
    refine ⟨?_, List.forall_mem_cons.2 ⟨⟨calls, hruns⟩, hrest⟩⟩
    have hone := hruns.wrote.conserved m
    rw [← hmetrics] at hone
    exact hone.append hconserved

/-- **The metrics are conserved over any sequence of runs.**  However each run with accepted
    settings ends, after runs that share metrics which were new at first: each run made the first
    calls of its plan, each for its route with a credential that its caller was given; the count of
    requests for a target under an identity with an outcome is the number of such calls over all
    runs, which for a run with results is what the results say; each check was counted once for each
    run with results, as the results have it; the fatal errors are the runs that a failure of the
    harness ended; and the gauge shows the last wait that came to its end. -/
theorem series_conserved (service : String) {launches : List (Launch σ)}
    (hload : ∀ l ∈ launches, ∃ sources, Settings.load sources = .ok l.settings) :
    let past := (Launch.series launches { service := service }).1
    let m := (Launch.series launches { service := service }).2
    (∀ run ∈ past, run.Planned) ∧
    (∀ target identity o, m.requestCount target identity o =
      (past.map fun run => run.requests target identity o).sum) ∧
    (∀ run ∈ past, ∀ result, run.result = .ok result → run.Accounts result) ∧
    (∀ c, m.checkCount c = past.countP fun run => run.checked c) ∧
    (∀ label ∈ Check.labels, m.checkCount ⟨label, true⟩ + m.checkCount ⟨label, false⟩ =
      past.countP PastRun.completed) ∧
    m.errorTotal = past.countP PastRun.aborted ∧
    (past.flatMap PastRun.alignments = [] → m.waitSeconds = .finite false 0) ∧
    ∀ al, (past.flatMap PastRun.alignments).getLast? = some al →
      al.waitSeconds = some m.waitSeconds := by
  intro past m
  obtain ⟨hconserved, hruns⟩ := Launch.conserved hload { service := service }
  have hchecks (c : Check) : m.checkCount c = past.countP fun run => run.checked c :=
    (hconserved.checks c).trans (Nat.zero_add _)
  have hwaits : some m.waitSeconds =
      ((past.flatMap PastRun.alignments).map Alignment.waitSeconds).getLast?.getD _ :=
    hconserved.waits
  refine ⟨?_, ?_, ?_, hchecks, ?_, ?_, ?_, ?_⟩
  · intro run hrun
    obtain ⟨calls, h⟩ := hruns run hrun
    exact h.planned
  · intro target identity o
    exact (hconserved.requests target identity o).trans (Nat.zero_add _)
  · rintro ⟨settings, _, steps⟩ hrun result rfl
    obtain ⟨calls, h⟩ := hruns _ hrun
    exact h.accounts
  · intro label hlabel
    rw [hchecks, hchecks]
    refine countP_add past fun run hrun => ?_
    obtain ⟨calls, h⟩ := hruns run hrun
    exact h.decided hlabel
  · exact hconserved.errors.trans (Nat.zero_add _)
  · intro hnone
    rw [hnone, List.map_nil, List.getLast?_nil, Option.getD_none, Option.some.injEq] at hwaits
    exact hwaits
  · intro al hal
    rw [List.getLast?_map, hal, Option.map_some, Option.getD_some] at hwaits
    exact hwaits.symm

theorem series_conserved_default :
    let launch : Launch Nat := ⟨World.serving, Settings.ofWindow 1000, true, none, { world := 0 }⟩
    let past := (Launch.series [launch, launch] { service := "ratecheck" }).1
    let m := (Launch.series [launch, launch] { service := "ratecheck" }).2
    (∀ run ∈ past, run.Planned) ∧
    (∀ target identity o, m.requestCount target identity o =
      (past.map fun run => run.requests target identity o).sum) ∧
    (∀ run ∈ past, ∀ result, run.result = .ok result → run.Accounts result) ∧
    m.errorTotal = past.countP PastRun.aborted := by
  intro launch past m
  obtain ⟨hplanned, hrequests, haccounts, -, -, herrors, -⟩ :=
    @series_conserved _ "ratecheck" [launch, launch] fun l hl => by
      rcases List.mem_pair.1 hl with rfl | rfl <;> exact ⟨{}, rfl⟩
  exact ⟨hplanned, hrequests, haccounts, herrors⟩

end RateIsolation
