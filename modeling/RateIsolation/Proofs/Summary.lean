/-
  The summary of a run as a record of what the run found.

  * `Json.checks?` are the checks that a summary lists: those of the run, if no two
    of them have one label (`RunResult.checks?_summary`);
  * `RunResult.verdicts_agree`: the results, their summary, the exit status and the
    failure give one verdict, and the failure names the checks that the summary
    lists as failed;
  * `RunResult.Legible`: all numbers of a run are short enough to be read;
    `RunResult.report_reads_back`: the text of a report is then read back as the
    summary, with what `Json.Records` says of it.
-/
import Mathlib.Tactic.TFAE
import RateIsolation.Proofs.Ending
import RateIsolation.Proofs.RoundTrip

namespace RateIsolation

open Harness

/-! ## The checks in a summary -/

namespace Json

/-- The truth value that the value is. -/
def bool? : Json → Option Bool
  | .bool b => some b
  | _ => none

/-- The checks that a summary lists, in order. -/
def checks? (summary : Json) : Option (List Check) := do
  let entries ← (← summary.get? "checks").fields?
  entries.mapM fun (label, result) => result.bool?.map (Check.mk label)

/-- A list all of whose items are read is read. -/
theorem mapM_map_of_forall {α β γ : Type} {f : β → Option γ} {k : α → β} {g : α → γ}
    (h : ∀ a, f (k a) = some (g a)) (l : List α) : (l.map k).mapM f = some (l.map g) := by
  induction l with
  | nil => rfl
  | cons a l ih =>
    rw [List.map_cons, List.mapM_cons, h, ih]
    rfl

theorem fields?_record (ms : List (String × Json)) : (record ms).fields? = some ms := by
  refine (mapM_map_of_forall (g := id) (fun _ => ?_) ms).trans (congrArg some (List.map_id ms))
  rfl

end Json

theorem Tally.toJson_inj {t t' : Tally} : t.toJson = t'.toJson ↔ t = t' := by
  refine ⟨fun h => ?_, congrArg _⟩
  cases t
  cases t'
  simp_all [Tally.toJson, Tally.fields, Json.record]

namespace RunResult

variable {r : RunResult}

theorem passed_iff : r.passed = true ↔ r.checks ≠ [] ∧ ∀ c ∈ r.checks, c.passed = true := by
  rw [passed, Bool.and_eq_true, Bool.not_eq_true', List.isEmpty_eq_false_iff, List.all_eq_true]

/-- The checks in a summary are those of the run by label. -/
theorem checks?_summary (r : RunResult) :
    r.summary.checks? = some (r.checkTable.map fun e => ⟨e.1, e.2⟩) := by
  have hget : r.summary.get? "checks" =
      some (.record (r.checkTable.map fun e => (e.1, .bool e.2))) := rfl
  rw [Json.checks?, hget]
  show (Json.fields? (.record _)).bind _ = _
  rw [Json.fields?_record]
  refine Json.mapM_map_of_forall (g := fun e => (⟨e.1, e.2⟩ : Check)) (fun _ => ?_) r.checkTable
  rfl

/-- Checks of different labels are all listed. -/
theorem checks?_summary_of_nodup (h : (r.checks.map Check.label).Nodup) :
    r.summary.checks? = some r.checks := by
  have htable : r.checkTable = r.checks.map fun c => (c.label, c.passed) := by
    refine Table.ofList_of_nodup ?_
    rwa [List.map_map]
  rw [checks?_summary, htable, List.map_map]
  exact congrArg some (List.map_id r.checks)

/-- A run fails without a failed check only if it has no checks. -/
theorem failedChecks_eq_nil_iff (h : r.passed = false) : r.failedChecks = [] ↔ r.checks = [] := by
  have hnotall : ¬ (r.checks ≠ [] ∧ ∀ c ∈ r.checks, c.passed = true) := by
    rw [← passed_iff, h]
    decide
  constructor
  · intro hnil
    refine Classical.byContradiction fun hchecks => hnotall ⟨hchecks, fun c hc => ?_⟩
    rw [failedChecks, List.map_eq_nil_iff, List.filter_eq_nil_iff] at hnil
    simpa using hnil c hc
  · intro hnil
    rw [failedChecks, hnil]
    rfl

/-! ## The verdict -/

/-- The verdicts that are read off the results, the summary, the exit status, the failure and the
    checks in the summary. -/
theorem tfae_passed (h : (r.checks.map Check.label).Nodup) :
    [r.passed = true,
      r.summary.get? "passed" = some (.bool true),
      r.exitCode = exitOk,
      r.failure? = none,
      ∃ checks, r.summary.checks? = some checks ∧ checks ≠ [] ∧ ∀ c ∈ checks, c.passed = true].TFAE := by
  tfae_have 1 ↔ 2 := by
    have hget : r.summary.get? "passed" = some (.bool r.passed) := rfl
    rw [hget, Option.some_inj, Json.bool.injEq]
  tfae_have 1 ↔ 3 := r.passed_iff_exitCode
  tfae_have 4 ↔ 1 := r.failure?_eq_none_iff
  tfae_have 1 ↔ 5 := by
    rw [checks?_summary_of_nodup h, passed_iff]
    refine ⟨fun hall => ⟨_, rfl, hall⟩, ?_⟩
    rintro ⟨checks, heq, hall⟩
    exact Option.some.inj heq ▸ hall
  tfae_finish

/-- **All views of a run give one verdict**, if no two of its checks have one label: the results, the
    summary, the exit status, the failure and the checks in the summary. The failure names the checks
    that the summary has as failed, in their order, and none only if there are no checks; the counts in
    the summary are those of the bursts; a report gives back the summary, and the verdict after it is
    the same. -/
theorem verdicts_agree (r : RunResult) (hlabels : (r.checks.map Check.label).Nodup) :
    [r.passed = true,
      r.summary.get? "passed" = some (.bool true),
      r.exitCode = exitOk,
      r.failure? = none,
      ∃ checks, r.summary.checks? = some checks ∧ checks ≠ [] ∧
        ∀ c ∈ checks, c.passed = true].TFAE ∧
    (∀ e, r.failure? = some e → ∃ checks failed, r.summary.checks? = some checks ∧
      failed = (checks.filter fun c => !c.passed).map Check.label ∧
      e = .checksFailed failed r.summary ∧ (failed = [] ↔ r.checks = [])) ∧
    (∀ r' : RunResult, r'.summary.get? "users_burst" = r.summary.get? "users_burst" →
      r'.summary.get? "token_a_users_burst" = r.summary.get? "token_a_users_burst" →
      r'.usersBurst = r.usersBurst ∧ r'.tokenABurst = r.tokenABurst) ∧
    ∀ {σ : Type} (w : World σ) (o : CommandOptions) (runId : String) (s : Session σ),
      (∃ entries, r.report.run.run s =
        (.ok r.summary, { s with printed := s.printed ++ r.reportText, entries := entries })) ∧
      (o.output = none → ∃ s', (Command.announce w o runId r).run.run s = (.ok r.exitCode, s') ∧
        s'.printed = s.printed ++ r.reportText) := by
  have hlisted : r.summary.checks? = some r.checks := checks?_summary_of_nodup hlabels
  refine ⟨tfae_passed hlabels, fun e he => ?_, fun r' husers htoken => ?_, fun w o runId s => ?_⟩
  · cases hpassed : r.passed with
    | true =>
      rw [r.failure?_eq_none_iff.2 hpassed] at he
      cases he
    | false =>
      rw [failure?, hpassed] at he
      exact ⟨_, _, hlisted, rfl, (Option.some.inj he).symm, failedChecks_eq_nil_iff hpassed⟩
  · exact ⟨Tally.toJson_inj.1 (Option.some.inj husers), Tally.toJson_inj.1 (Option.some.inj htoken)⟩
  · refine ⟨r.run_report s, fun hout => ?_⟩
    obtain ⟨s', hrun, -⟩ := Command.ends_announce_of_none (w := w) hout runId r s.unlogged s rfl
    have hprinted := Command.announce_printed w o runId r s
    rw [hrun] at hprinted
    exact ⟨s', hrun, hprinted⟩

/-- The verdicts of a run one of whose checks has failed. -/
theorem verdicts_agree_failing :
    let r : RunResult := {
      usersBurst := ⟨5, 3, 0⟩, ordersProbe := ⟨"orders", some 429⟩, tokenABurst := ⟨5, 0, 3⟩,
      tokenBProbe := ⟨"users", none⟩, checks := [⟨"first", true⟩, ⟨"second", false⟩] }
    (r.checks.map Check.label).Nodup ∧ r.exitCode ≠ exitOk ∧
      r.summary.get? "passed" ≠ some (.bool true) ∧
      r.failure? = some (.checksFailed ["second"] r.summary) := by
  intro r
  have hlabels : (r.checks.map Check.label).Nodup := by decide
  have hall := (verdicts_agree r hlabels).1
  exact ⟨hlabels, fun h => absurd ((hall.out 2 0).1 h) (by decide),
    fun h => absurd ((hall.out 1 0).1 h) (by decide), rfl⟩

/-! ## The text of a report -/

/-- The integers that a summary shows. -/
def integers (r : RunResult) : List Int :=
  [r.usersBurst.allowed, r.usersBurst.throttled, r.usersBurst.other, r.tokenABurst.allowed,
    r.tokenABurst.throttled, r.tokenABurst.other] ++
  r.ordersProbe.status.toList ++ r.tokenBProbe.status.toList ++ r.alignments.map Alignment.wait

/-- All integers in the summary have at most as many digits as are read. -/
def Legible (r : RunResult) : Prop := ∀ n ∈ r.integers, Json.Short n

theorem writable_toJson {t : Tally} (hallowed : Json.Short t.allowed)
    (hthrottled : Json.Short t.throttled) (hother : Json.Short t.other) : t.toJson.Writable := by
  show (Json.record t.fields).Writable
  refine .record (show ["ok", "tooMany", "other"].Nodup by decide) ?_
  exact List.forall_mem_cons.2 ⟨.int hallowed, List.forall_mem_cons.2 ⟨.int hthrottled,
    List.forall_mem_singleton.2 (.int hother)⟩⟩

theorem writable_statusJson {status : Option Int} (h : ∀ n ∈ status, Json.Short n) :
    (statusJson status).Writable := by
  cases status with
  | none => exact .null
  | some n => exact .int (h n rfl)

theorem Legible.writable_summary (h : r.Legible) : r.summary.Writable := by
  simp only [Legible, integers, List.forall_mem_append, List.forall_mem_cons, Option.mem_toList,
    List.forall_mem_map] at h
  obtain ⟨⟨⟨⟨ha, hat, hao, hb, hbt, hbo, -⟩, horders⟩, htokenB⟩, hwaits⟩ := h
  have hrunId : (Json.ofOption .text r.runId).Writable := by
    cases r.runId with
    | none => exact .null
    | some id => exact .text id
  have halignments : (Json.arr (r.alignments.map fun a => .int a.wait)).Writable :=
    .arr (List.forall_mem_map.2 fun a hmem => .int (hwaits a hmem))
  have hchecks : (Json.record (r.checkTable.map fun e => (e.1, .bool e.2))).Writable := by
    refine .record ?_ (List.forall_mem_map.2 fun _ _ => .bool _)
    rw [List.map_map]
    exact Table.nodup_keys_ofList _
  show (Json.record r.summaryFields).Writable
  refine .record ?_ ?_
  · show ["run_id", "users_burst", "orders_after_users_burst_status", "token_a_users_burst",
      "token_b_users_probe_status", "alignment_wait_ms", "checks", "passed"].Nodup
    decide
  · simp only [summaryFields, List.forall_mem_cons]
    exact ⟨hrunId, writable_toJson ha hat hao, writable_statusJson horders, writable_toJson hb hbt hbo,
      writable_statusJson htokenB, halignments, hchecks, .bool _, List.forall_mem_nil _⟩

/-- The printed summary ends in a brace. -/
theorem getLast?_summaryText (r : RunResult) : r.summaryText.toList.getLast? = some '\x7d' := by
  have hchars : ∃ cs, r.summaryText.toList = cs ++ ['\x7d'] := by
    rw [summaryText, Json.render, String.toList_ofList, summary, summaryFields, Json.record,
      List.map_cons, Json.chars, ← List.cons_append]
    exact ⟨_, rfl⟩
  obtain ⟨cs, hcs⟩ := hchars
  rw [hcs, List.getLast?_concat]

end RunResult

/-- What a summary says of a run: nothing where there is no identifier or no status, the waits in
    their order, and every label of a check. -/
structure Json.Records (summary : Json) (r : RunResult) : Prop where
  runId : summary.get? "run_id" = some (.ofOption .text r.runId)
  usersBurst : summary.get? "users_burst" = some r.usersBurst.toJson
  ordersStatus : summary.get? "orders_after_users_burst_status" =
    some (.ofOption .int r.ordersProbe.status)
  tokenABurst : summary.get? "token_a_users_burst" = some r.tokenABurst.toJson
  tokenBStatus : summary.get? "token_b_users_probe_status" =
    some (.ofOption .int r.tokenBProbe.status)
  waits : summary.get? "alignment_wait_ms" = some (.arr (r.alignments.map fun a => .int a.wait))
  checks : ∃ checks, summary.checks? = some checks ∧ (checks.map Check.label).Nodup ∧
    ∀ label, label ∈ checks.map Check.label ↔ label ∈ r.checks.map Check.label
  passed : summary.get? "passed" = some (.bool r.passed)

namespace RunResult

variable {r : RunResult}

theorem records_summary (r : RunResult) : r.summary.Records r where
  runId := rfl
  usersBurst := rfl
  ordersStatus := rfl
  tokenABurst := rfl
  tokenBStatus := rfl
  waits := rfl
  checks := by
    refine ⟨_, checks?_summary r, ?_, fun label => ?_⟩
    · rw [List.map_map]
      exact Table.nodup_keys_ofList _
    · have hkeys : label ∈ Table.keys r.checkTable ↔ _ := Table.mem_keys_ofList
      rw [List.map_map] at hkeys ⊢
      exact hkeys
  passed := rfl

/-- **The printed summary is read back as the summary** that the report gives, for every run whose
    integers have at most as many digits as are read: its text is in ASCII and ends in one line end,
    and what is read has the labels of all checks, the waits in their order, and null where there is
    no identifier or no status. -/
theorem report_reads_back (r : RunResult) (h : r.Legible) {σ : Type} (s : Session σ) :
    ∃ (summary : Json) (text : String) (s' : Session σ),
      r.report.run.run s = (.ok summary, s') ∧ s'.printed = s.printed ++ text ∧
      Json.Ascii text.toList ∧
      (∃ body : String, text = body ++ "\n" ∧ body.toList.getLast? ≠ some '\n') ∧
      Json.ofString text = .ok summary ∧ summary.Records r := by
  obtain ⟨entries, hrun⟩ := r.run_report s
  refine ⟨r.summary, r.reportText, _, hrun, rfl, ?_, ⟨r.summaryText, rfl, ?_⟩, ?_, records_summary r⟩
  · rw [reportText, summaryText, Json.render, String.toList_append, String.toList_ofList]
    exact (h.writable_summary.ascii_chars Json.separates_indented rfl 0).append
      (Json.ascii_cons (by decide) Json.ascii_nil)
  · rw [getLast?_summaryText]
    decide
  · exact h.writable_summary.ofString_render Json.separates_indented
      (List.forall_mem_singleton.2 rfl)

/-- The report of a run with labels that have to be escaped, a number of 4300 digits and a probe
    without a status. -/
theorem report_reads_back_escaped :
    let r : RunResult := {
      usersBurst := ⟨10 ^ 4299, -7, 0⟩, ordersProbe := ⟨"orders", none⟩, tokenABurst := ⟨0, 0, 0⟩,
      tokenBProbe := ⟨"users", some (-200)⟩,
      checks := [⟨"a \"quote\" \\ \n \x07", true⟩, ⟨"😀 é", false⟩],
      alignments := [⟨0, 1000, 30, 1030⟩, ⟨1999, 1000, 30, 31⟩], runId := some "" }
    r.Legible ∧ ∃ (summary : Json) (text : String) (s' : Session Unit),
      r.report.run.run { world := () } = (.ok summary, s') ∧ s'.printed = "" ++ text ∧
      Json.ofString text = .ok summary ∧
      summary.get? "orders_after_users_burst_status" = some .null ∧
      summary.get? "alignment_wait_ms" = some (.arr [.int 1030, .int 31]) := by
  intro r
  have hsmall : ∀ n ∈ r.integers, n.natAbs < Nat.pow 10 Json.maxIntDigits := by decide +kernel
  have hlegible : r.Legible := fun n hn =>
    Json.short_of_lt (by decide) (Nat.le_refl _) (hsmall n hn)
  obtain ⟨summary, text, s', hrun, hprinted, -, -, hread, hrecords⟩ :=
    report_reads_back r hlegible { world := () }
  exact ⟨hlegible, summary, text, s', hrun, hprinted, hread, hrecords.ordersStatus, hrecords.waits⟩

end RunResult

end RateIsolation
