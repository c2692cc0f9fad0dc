/-
  The timeout of a run, from the text that it was read from to its requests.

  * `Value.SpellsNan`: the values that are read as not a number
    (`Value.readNumber_eq_nan_iff`);
  * `Settings.timeout_cases`: a timeout that was accepted is positive or not a number;
  * `Step.TimesOut`: all requests are sent with one timeout; `Settings.Runs.timesOut`:
    those of a run are sent with that of the settings;
  * `Settings.timeouts_positive`: they are positive exactly if no source of the
    timeout spells not a number.
-/
import RateIsolation.Proofs.Accepted
import RateIsolation.Proofs.Conduct
import RateIsolation.Proofs.Transcript

namespace RateIsolation

open Harness

/-! ## Texts that spell not a number -/

namespace Binary64

theorem ofUnitRatio_ne_nan (negative : Bool) (num den : Nat) :
    ofUnitRatio negative num den ≠ .nan := by
  by_cases h : nearestUnits num den < overflowUnits
  · rw [ofUnitRatio, if_pos h]
    exact nofun
  · rw [ofUnitRatio, if_neg h]
    exact nofun

theorem ofRatio_ne_nan (negative : Bool) (num den : Nat) : ofRatio negative num den ≠ .nan :=
  ofUnitRatio_ne_nan negative (num * unitsPerOne) den

/-- A decimal number is no such value, however many digits it has. -/
theorem ofDecimal_ne_nan (negative : Bool) (digits : Nat) (exponent : Int) :
    ofDecimal negative digits exponent ≠ .nan := by
  unfold ofDecimal
  dsimp only
  repeat' split
  · exact nofun
  · exact nofun
  · exact nofun
  · exact ofRatio_ne_nan _ _ _
  · exact ofRatio_ne_nan _ _ _

theorem ofInt?_ne_nan (n : Int) : ofInt? n ≠ some .nan := by
  intro hnan
  by_cases h : nearestUnits (n.natAbs * unitsPerOne) 1 < overflowUnits
  · rw [ofInt?, if_pos h] at hnan
    cases hnan
  · rw [ofInt?, if_neg h] at hnan
    cases hnan

end Binary64

namespace Value

/-- The characters after a sign, if they start with one. -/
def unsigned : List Char → List Char
  | '-' :: rest => rest
  | '+' :: rest => rest
  | rest => rest

/-- The characters are the letters of not a number in any case, after a sign or none. -/
def LetterNan (cs : List Char) : Prop := (unsigned cs).map Char.toLower = "nan".toList

/-- The values that are read as not a number. -/
inductive SpellsNan : Json → Prop
  | number : SpellsNan (.float .nan)
  /-- A text may have white space around. -/
  | text {s : String} (h : LetterNan (Text.trimSpaceList s.toList)) : SpellsNan (.text s)
  /-- A text that is no number otherwise may have single underscores inside. -/
  | scored {s : String} {cs : List Char} (hnot : number? (Text.trimSpaceList s.toList) = none)
    (hcs : withoutUnderscores? s.toList = some cs) (h : LetterNan cs) : SpellsNan (.text s)

theorem unsignedNumber?_eq_nan_iff {negative : Bool} {cs : List Char} :
    unsignedNumber? negative cs = some .nan ↔ cs.map Char.toLower = "nan".toList := by
  unfold unsignedNumber?
  dsimp only
  split
  · rename_i hinf
    refine ⟨nofun, fun h => ?_⟩
    rw [h] at hinf
    exact absurd hinf (by decide)
  · split
    · rename_i hnan
      exact ⟨fun _ => eq_of_beq hnan, fun _ => rfl⟩
    · rename_i hnan
      refine ⟨fun h => ?_, fun h => absurd (beq_iff_eq.2 h) hnan⟩
      split at h
      · exact absurd (Option.some.inj h) (Binary64.ofDecimal_ne_nan _ _ _)
      · cases h

theorem number?_eq_nan_iff {cs : List Char} : number? cs = some .nan ↔ LetterNan cs := by
  unfold number? LetterNan
  split
  · exact unsignedNumber?_eq_nan_iff
  · exact unsignedNumber?_eq_nan_iff
  · rename_i hminus hplus
    rw [unsigned]
    · exact unsignedNumber?_eq_nan_iff
    · exact hminus
    · exact hplus

theorem numberOfText_eq_nan_iff {s : String} :
    numberOfText s = .ok .nan ↔ SpellsNan (.text s) := by
  constructor
  · intro h
    unfold numberOfText at h
    split at h
    · rename_i x hx
      cases h
      exact .text (number?_eq_nan_iff.1 hx)
    · rename_i hnot
      split at h
      · rename_i x hx
        cases h
        obtain ⟨cs, hcs, hnan⟩ := Option.bind_eq_some_iff.1 hx
        exact .scored hnot hcs (number?_eq_nan_iff.1 hnan)
      · cases h
  · intro h
    generalize hv : Json.text s = v at h
    cases h with
    | number => cases hv
    | text h =>
      cases hv
      rw [numberOfText, number?_eq_nan_iff.2 h]
    | scored hnot hcs h =>
      cases hv
      rw [numberOfText, hnot, hcs, Option.bind_some, number?_eq_nan_iff.2 h]

theorem readNumber_eq_nan_iff {v : Json} : readNumber v = .ok .nan ↔ SpellsNan v := by
  constructor
  · intro h
    unfold readNumber at h
    split at h
    case h_1 =>
      cases h
      exact .number
    case h_2 n =>
      cases hx : Binary64.ofInt? n with
      | none =>
        rw [hx] at h
        cases h
      | some x =>
        rw [hx] at h
        rw [Except.ok.inj h] at hx
        exact absurd hx (Binary64.ofInt?_ne_nan n)
    case h_3 b => exact absurd (Except.ok.inj h) (Binary64.ofRatio_ne_nan _ _ _)
    case h_4 => exact numberOfText_eq_nan_iff.1 h
    case h_5 => cases h
  · intro h
    cases h with
    | number => rfl
    | text h => exact numberOfText_eq_nan_iff.2 (.text h)
    | scored hnot hcs h => exact numberOfText_eq_nan_iff.2 (.scored hnot hcs h)

end Value

/-! ## Settings -/

namespace Settings

theorem checkTimeout_eq_ok_iff {x y : Binary64} :
    checkTimeout x = .ok y ↔ y = x ∧ x.isAtMostZero = false := by
  unfold checkTimeout
  cases x.isAtMostZero <;> simp [eq_comm]

/-- The value that the timeout is read from spells not a number. -/
def SpellsNanTimeout (s : Sources) : Prop :=
  ∃ found, s.find? .requestTimeout = some found ∧ Value.SpellsNan found.value

/-- A timeout that was accepted is positive, or not a number if that was spelled. -/
theorem timeout_cases {s : Sources} {c : Settings} (h : load s = .ok c) :
    (c.requestTimeout.isPositive = true ∧ ¬ SpellsNanTimeout s) ∨
      (c.requestTimeout = .nan ∧ SpellsNanTimeout s) := by
  rcases value_eq_ok_iff.1 (load_eq_ok_iff.1 h).timeout with ⟨hnone, hdefault⟩ |
    ⟨found, x, hfound, hread, hcheck⟩
  · refine Or.inl ⟨?_, ?_⟩
    · rw [hdefault]
      decide +kernel
    · rintro ⟨found, hfound, -⟩
      rw [hnone] at hfound
      cases hfound
  · obtain ⟨heq, hpositive⟩ := checkTimeout_eq_ok_iff.1 hcheck
    rw [heq]
    by_cases hnan : x = .nan
    · subst hnan
      exact Or.inr ⟨rfl, found, hfound, Value.readNumber_eq_nan_iff.1 hread⟩
    · refine Or.inl ⟨?_, ?_⟩
      · rw [Binary64.isPositive_or_isAtMostZero hnan, hpositive]
        rfl
      · rintro ⟨found', hfound', hspells⟩
        cases hfound.symm.trans hfound'
        rw [Value.readNumber_eq_nan_iff.2 hspells] at hread
        exact hnan (Except.ok.inj hread).symm

end Settings

/-! ## Requests -/

/-- All requests that were sent have that timeout. -/
def Step.TimesOut (timeout : Seconds) (steps : List Step) : Prop :=
  ∀ request exchange, .sent request exchange ∈ steps → request.timeout = timeout

theorem Step.TimesOut.nil {timeout : Seconds} : TimesOut timeout [] :=
  fun _ _ h => absurd h List.not_mem_nil

theorem Step.TimesOut.append {timeout : Seconds} {steps steps' : List Step}
    (h : TimesOut timeout steps) (h' : TimesOut timeout steps') :
    TimesOut timeout (steps ++ steps') := by
  intro request exchange hmem
  exact (List.mem_append.1 hmem).elim (h request exchange) (h' request exchange)

section Tasks

variable {a : Aligner} {g : GatewayClient} {task : Task} {steps : List Step} {calls : List Recording}

theorem GatewayClient.build_timeout {t : Target} {c : Credential} {id : String} {request : Request}
    (h : g.build t c id = .ok request) : request.timeout = g.timeout := by
  unfold build at h
  split at h
  · cases h
  · split at h <;> cases h
    rfl

/-- What a call of a route asks of the outside. -/
theorem GatewayClient.timesOut_call {t : Target} {c : Credential} {id : String} {request : Request}
    (h : g.build t c id = .ok request) (exchange : Exchange) :
    Step.TimesOut g.timeout [.newId id, .sent request exchange] := by
  intro request' exchange' hmem
  simp only [List.mem_cons, reduceCtorEq, Step.sent.injEq, List.not_mem_nil, false_or,
    or_false] at hmem
  rw [hmem.1]
  exact build_timeout h

theorem Task.Done.timesOut (h : task.Done a g steps calls) : Step.TimesOut g.timeout steps := by
  cases h with
  | wait =>
    intro request exchange hmem
    simp at hmem
  | call hbuild => exact g.timesOut_call hbuild _

theorem Task.Stopped.timesOut {fault : Fault} (h : task.Stopped a g fault steps) :
    Step.TimesOut g.timeout steps := by
  cases h with
  | broken hbuild => exact g.timesOut_call hbuild _
  | overflow | sleep | unbuilt =>
    intro request exchange hmem
    simp at hmem

theorem Performs.timesOut {tasks : List Task} {r : Except Fault Unit}
    (h : Performs a g tasks r steps calls) : Step.TimesOut g.timeout steps := by
  induction h with
  | done => exact .nil
  | next hdone _ ih => exact hdone.timesOut.append ih
  | stop hstopped => exact hstopped.timesOut

end Tasks

theorem LoginService.Attempts.timesOut {l : LoginService} {i : Identity} {r : Except Fault Credential}
    {steps : List Step} (h : l.Attempts i r steps) : Step.TimesOut l.timeout steps := by
  intro request exchange hmem
  cases h with
  | unreadable => cases hmem
  | sent =>
    cases List.mem_singleton.1 hmem
    rfl

/-- A run sends its requests with the timeout of its settings. -/
theorem Settings.Runs.timesOut {settings : Settings} {r : Except Fault RunResult} {steps : List Step}
    {calls : List Recording} (h : settings.Runs r steps calls) :
    Step.TimesOut (.binary settings.requestTimeout) steps := by
  obtain @⟨begun, steps, r, calls, id, hbegun, h⟩ := h
  have hid : Step.TimesOut (.binary settings.requestTimeout) begun := by
    rcases hbegun with rfl | rfl
    · exact .nil
    · intro request exchange hmem
      cases List.mem_singleton.1 hmem
  refine hid.append ?_
  cases h with
  | loginA hA => exact hA.timesOut
  | loginB hA hB => exact hA.timesOut.append hB.timesOut
  | routes hA hB hroutes => exact hA.timesOut.append (hB.timesOut.append hroutes.1.timesOut)

/-- A login whose address can be read is sent. -/
theorem LoginService.Attempts.sends {l : LoginService} {i : Identity} {r : Except Fault Credential}
    {steps : List Step} (h : l.Attempts i r steps) {url : Url} (hurl : Url.resolve l.loginUrl = .ok url) :
    ∃ exchange, .sent (l.request i url) exchange ∈ steps := by
  cases h with
  | unreadable herror =>
    rw [hurl] at herror
    cases herror
  | sent hurl' exchange =>
    cases hurl.symm.trans hurl'
    exact ⟨exchange, List.mem_singleton.2 rfl⟩

namespace Settings

variable {settings : Settings}

/-- A run sends its first login, if the address can be read. -/
theorem Runs.sends {r : Except Fault RunResult} {steps : List Step} {calls : List Recording}
    (h : settings.Runs r steps calls) {url : Url}
    (hurl : Url.resolve settings.scenario.auth.loginUrl = .ok url) :
    ∃ exchange, .sent (settings.scenario.auth.request settings.scenario.callerA url) exchange ∈ steps := by
  obtain @⟨begun, steps, r, calls, id, -, h⟩ := h
  have hsent : ∃ exchange,
      .sent (settings.scenario.auth.request settings.scenario.callerA url) exchange ∈ steps := by
    cases h with
    | loginA hA => exact hA.sends hurl
    | loginB hA hB => exact (hA.sends hurl).imp fun _ h => List.mem_append_left _ h
    | routes hA hB hroutes => exact (hA.sends hurl).imp fun _ h => List.mem_append_left _ h
  exact hsent.imp fun _ h => List.mem_append_right begun h

/-- **Every timeout in use is positive unless not a number was spelled for it.** For every environment,
    file and overrides that give settings, their timeout is greater than zero exactly if the value that
    it is read from does not spell not a number, and is not a number otherwise; and every request of
    every run, to the auth service and to the gateway, is sent with that timeout. -/
theorem timeouts_positive {s : Sources} (h : load s = .ok settings) :
    (settings.requestTimeout.isPositive = true ↔ ¬ SpellsNanTimeout s) ∧
    (settings.requestTimeout = .nan ↔ SpellsNanTimeout s) ∧
    ∀ {σ : Type} (w : World σ) (shared : Bool) (runId : Option String) (before : Session (Traced σ)),
      ∃ steps, ((runScenario w.traced settings shared runId).run.run before).2.world.2 =
          before.world.2 ++ steps ∧
        ∀ request exchange, .sent request exchange ∈ steps →
          request.timeout = .binary settings.requestTimeout ∧
          (request.timeout.isPositive = true ↔ ¬ SpellsNanTimeout s) := by
  have hcases := timeout_cases h
  have hpositive : settings.requestTimeout.isPositive = true ↔ ¬ SpellsNanTimeout s := by
    rcases hcases with ⟨hpos, hnot⟩ | ⟨hnan, hspells⟩
    · exact iff_of_true hpos hnot
    · rw [hnan]
      exact iff_of_false Bool.false_ne_true (not_not_intro hspells)
  have hnan : settings.requestTimeout = .nan ↔ SpellsNanTimeout s := by
    rcases hcases with ⟨hpos, hnot⟩ | ⟨hnan, hspells⟩
    · refine iff_of_false (fun hnan => ?_) hnot
      rw [hnan] at hpos
      cases hpos
    · exact iff_of_true hnan hspells
  refine ⟨hpositive, hnan, fun w shared runId before => ?_⟩
  obtain ⟨hburst, hwindow, hmargin⟩ := load_bounds h
  have hn : 1 ≤ settings.burstRequests := Int.le_trans (by decide) hburst
  obtain ⟨steps, calls, hworld, -, hruns⟩ :=
    does_runScenario w hwindow hmargin hn shared runId before
  refine ⟨steps, hworld, fun request exchange hsent => ?_⟩
  rw [hruns.timesOut request exchange hsent]
  exact ⟨rfl, hpositive⟩

/-- The default timeout is positive, and a run uses it. -/
theorem timeouts_positive_default :
    load {} = .ok (ofWindow 1000) ∧ (ofWindow 1000).requestTimeout.isPositive = true ∧
      ∃ request exchange, .sent request exchange ∈
        ((runScenario World.serving.traced (ofWindow 1000) true none).run.run
          { world := (0, []) }).2.world.2 ∧ request.timeout.isPositive = true := by
  have hload : load {} = .ok (ofWindow 1000) := rfl
  have hplain : ¬ SpellsNanTimeout {} := by
    rintro ⟨found, hfound, -⟩
    cases hfound
  obtain ⟨hpositive, -, hruns⟩ := timeouts_positive hload
  obtain ⟨steps, hworld, hsent⟩ := hruns World.serving true none { world := (0, []) }
  have hwindow : 0 < (ofWindow 1000).windowMs := by decide
  obtain ⟨steps', calls, hworld', -, hrun⟩ := does_runScenario World.serving hwindow (by decide)
    (by decide) true none { world := (0, []) }
  obtain rfl : steps = steps' := List.append_cancel_left (hworld.symm.trans hworld')
  obtain ⟨exchange, hlogin⟩ := hrun.sends (resolve_login 1000)
  rw [hworld]
  exact ⟨hload, hpositive.2 hplain, _, exchange, List.mem_append_right _ hlogin,
    (hsent _ _ hlogin).2.2 hplain⟩

/-- A timeout that is not a number is not refused, and a run sends its requests with it. -/
theorem nan_timeout_in_use :
    ∃ settings, ofCommand [] [("REQUEST_TIMEOUT_SECONDS", "nan")] [] = .ok settings ∧
      settings.requestTimeout = .nan ∧ settings.requestTimeout.isPositive = false ∧
      ∃ request exchange, .sent request exchange ∈
        ((runScenario World.serving.traced settings true none).run.run
          { world := (0, []) }).2.world.2 ∧ request.timeout.isPositive = false := by
  refine ⟨{ ofWindow 1000 with requestTimeout := .nan }, rfl, rfl, rfl, ?_⟩
  have hwindow : 0 < { ofWindow 1000 with requestTimeout := .nan }.windowMs := by decide
  obtain ⟨steps, calls, hworld, -, hruns⟩ := does_runScenario World.serving hwindow (by decide)
    (by decide) true none { world := (0, []) }
  have hurl : Url.resolve (stripSlashes "http://localhost:8084" ++ "/auth/login") =
      .ok (Url.local 8084 "/auth/login") := rfl
  obtain ⟨exchange, hsent⟩ := hruns.sends hurl
  rw [hworld]
  exact ⟨_, exchange, List.mem_append_right _ hsent, rfl⟩

end Settings

end RateIsolation
