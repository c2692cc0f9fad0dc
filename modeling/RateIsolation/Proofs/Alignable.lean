/-
  Which aligners can wait at any time.

  * `Aligner.forall_fits_iff`: each wait of an aligner has a number of seconds
    exactly if the longest has, which is the one from the epoch;
  * `Aligner.align_leads_or_overflows`: where sleeps do not fail, a wait comes to
    its end exactly if it has a number of seconds;
  * `aligners_align`: so for an aligner that could be made, and for the runs of
    accepted settings.
-/
import RateIsolation.Proofs.Causes
import RateIsolation.Proofs.Landings

namespace RateIsolation

open Harness

variable {σ : Type}

/-! ## Waits at any time -/

namespace Aligner

variable {a : Aligner}

theorem waitAt_zero (a : Aligner) : a.waitAt 0 = a.window + a.margin := by
  rw [waitAt, Int.zero_fmod, Int.sub_zero]

/-- The longest wait is the one from the epoch. -/
theorem forall_fits_iff (hw : 0 < a.window) (hm : 0 ≤ a.margin) :
    (∀ now, a.Fits now) ↔ a.window + a.margin < Alignment.waitLimit := by
  constructor
  · intro h
    have h₀ : a.waitAt 0 < Alignment.waitLimit := h 0
    rwa [waitAt_zero] at h₀
  · intro h now
    exact fits_of_le hw hm h

/-- What can happen to a wait where sleeps do not fail. -/
theorem align_leads_or_overflows (hw : 0 < a.window) (hm : 0 ≤ a.margin) {w : World σ}
    (hsleep : ∀ time st, (w.sleep time st).1 = .ok ()) (st : σ) :
    (a.Fits (w.readClock st).1 →
      ∃ st', Leads (a.align w) st (.ok (a.alignmentAt (w.readClock st).1)) st') ∧
    (¬ a.Fits (w.readClock st).1 →
      Leads (a.align w) st (.error .secondsOverflow) (w.readClock st).2) := by
  refine ⟨fun hfits => ?_, Scenario.align_overflow hw hm⟩
  obtain ⟨seconds, hseconds⟩ := hfits.exists_seconds hw hm
  exact ⟨_, Scenario.align_leads hw hm hseconds (hsleep _ _)⟩

end Aligner

/-! ## Runs -/

namespace Settings

variable {settings : Settings}

/-- A run whose waits have a number of seconds at any time does not end for want of one. -/
theorem run_ne_overflow (hn : 1 ≤ settings.burstRequests) (hw : 0 < settings.windowMs)
    (hm : 0 ≤ settings.alignMarginMs) (hfits : ∀ now, settings.scenario.aligner.Fits now)
    (w : World σ) (shared : Bool) (runId : Option String) (s : Session (Traced σ)) :
    ((runScenario w.traced settings shared runId).run.run s).1 ≠ .error .secondsOverflow := by
  obtain ⟨steps, calls, -, -, hruns⟩ := does_runScenario w hw hm hn shared runId s
  intro hend
  rw [hend] at hruns
  cases hruns.ended hw hm with
  | caused hcause =>
    cases hcause with
    | body _ _ _ hescapes => rcases hescapes.decoding_or_nesting with ⟨_, h⟩ | ⟨_, h⟩ <;> cases h
    | window _ h => exact h (hfits _)

/-- One that reads the clock at the epoch and cannot wait from there ends after its logins. -/
theorem run_overflows (hw : 0 < settings.windowMs) (hm : 0 ≤ settings.alignMarginMs)
    (hfits : ¬ settings.scenario.aligner.Fits 0) {auth : Url}
    (hauth : Url.resolve settings.scenario.auth.loginUrl = .ok auth) (shared : Bool)
    (runId : Option String) (n : Nat) :
    ∃ n', Leads (runScenario World.serving settings shared runId) n (.error .secondsOverflow) n' := by
  have hlogin (i : Identity) (n : Nat) :=
    @LoginService.acquire_leads _ World.serving _ i _ n _ "t" hauth rfl rfl
  have halign (n : Nat) : Leads (Scenario.alignWindow World.serving settings.scenario.aligner) n
      (.error .secondsOverflow) n :=
    Scenario.alignWindow_overflow hw hm hfits
  exact ⟨_, runScenario_leads hw hm
    (Scenario.experiments_ends_first (hlogin _ _) (hlogin _ _) (halign _))⟩

end Settings

/-- **An aligner that can be made can wait below the limit.**  Where sleeps do not fail, it waits from
    any reading from which the wait has a number of seconds, and is refused from any other; it waits
    from all readings exactly if window and margin are below the limit together.  Accepted settings
    make an aligner; if these are, no run of them ends for want of a number of seconds, and if not,
    one does whose login address can be read. -/
theorem aligners_align {window margin : Int} {a : Aligner}
    (hmake : Aligner.make window margin = .ok a) :
    (∀ (σ : Type) (w : World σ), (∀ time st, (w.sleep time st).1 = .ok ()) → ∀ st : σ,
      (a.Fits (w.readClock st).1 →
        ∃ st', Leads (a.align w) st (.ok (a.alignmentAt (w.readClock st).1)) st') ∧
      (¬ a.Fits (w.readClock st).1 →
        Leads (a.align w) st (.error .secondsOverflow) (w.readClock st).2)) ∧
    ((∀ now, a.Fits now) ↔ window + margin < Alignment.waitLimit) ∧
    ∀ (sources : Sources) (settings : Settings), Settings.load sources = .ok settings →
      Aligner.make settings.windowMs settings.alignMarginMs = .ok settings.scenario.aligner ∧
      (settings.windowMs + settings.alignMarginMs < Alignment.waitLimit →
        ∀ (σ : Type) (w : World σ) (shared : Bool) (runId : Option String) (s : Session (Traced σ)),
          ((runScenario w.traced settings shared runId).run.run s).1 ≠ .error .secondsOverflow) ∧
      (Alignment.waitLimit ≤ settings.windowMs + settings.alignMarginMs →
        ∀ auth, Url.resolve settings.scenario.auth.loginUrl = .ok auth →
          ∀ (shared : Bool) (runId : Option String) (n : Nat), ∃ n',
            Leads (runScenario World.serving settings shared runId) n (.error .secondsOverflow)
              n') := by
  obtain ⟨hw, hm, rfl⟩ := Aligner.make_eq_ok_iff.1 hmake
  refine ⟨fun σ w hsleep st => Aligner.align_leads_or_overflows hw hm hsleep st,
    Aligner.forall_fits_iff hw hm, ?_⟩
  intro sources settings hload
  obtain ⟨hburst, hwindow, hmargin⟩ := Settings.load_bounds hload
  refine ⟨aligner_make hwindow hmargin, ?_, ?_⟩
  · intro hlimit σ w shared runId s
    have hfits := (Aligner.forall_fits_iff (a := settings.scenario.aligner) hwindow hmargin).2 hlimit
    exact Settings.run_ne_overflow (by omega) hwindow hmargin hfits w shared runId s
  · intro hlimit auth hauth shared runId n
    have hfits : ¬ settings.scenario.aligner.Fits 0 := by
      rw [Aligner.Fits, Aligner.waitAt_zero]
      exact Int.not_lt.2 hlimit
    exact Settings.run_overflows hwindow hmargin hfits hauth shared runId n

/-- The default aligner waits from any reading, and from the epoch for 1030 milliseconds. -/
theorem aligners_align_default :
    (∀ now, (⟨1000, 30⟩ : Aligner).Fits now) ∧
      ∃ n, Leads ((⟨1000, 30⟩ : Aligner).align World.serving) 0 (.ok ⟨0, 1000, 30, 1030⟩) n := by
  obtain ⟨haligns, hfits, -⟩ := aligners_align (rfl : Aligner.make 1000 30 = .ok ⟨1000, 30⟩)
  have hall := hfits.2 (Alignment.lt_waitLimit (by decide))
  exact ⟨hall, (haligns Nat World.serving (fun _ _ => rfl) 0).1 (hall _)⟩

/-- With a window from the limit on, neither a wait nor a run comes to its end. -/
theorem Settings.ofWindow_overflows {window : Int} (hlong : Alignment.waitLimit ≤ window) :
    Aligner.make (ofWindow window).windowMs (ofWindow window).alignMarginMs =
        .ok (ofWindow window).scenario.aligner ∧
      Leads ((ofWindow window).scenario.aligner.align World.serving) 0 (.error .secondsOverflow) 0 ∧
      ∃ n, Leads (runScenario World.serving (ofWindow window) true none) 0
        (.error .secondsOverflow) n := by
  have hw : 0 < window := Int.lt_of_lt_of_le (Alignment.lt_waitLimit (by decide)) hlong
  have hm : (0 : Int) ≤ 30 := by decide
  have hfits : ¬ (ofWindow window).scenario.aligner.Fits 0 :=
    Aligner.not_fits_of_long hlong ((Int.zero_fmod _).trans_le hm)
  exact ⟨aligner_make hw hm, Scenario.align_overflow hw hm hfits,
    run_overflows hw hm hfits (resolve_login _) true none 0⟩

/-- A window of `10 ^ 309` is accepted and makes an aligner, with which neither a wait nor a run comes
    to its end, although no sleep fails. -/
theorem aligners_refuse_long_window :
    ∃ settings, Settings.load { overrides := [("window_ms", .int (10 ^ 155 * 10 ^ 154))] } =
        .ok settings ∧
      Aligner.make settings.windowMs settings.alignMarginMs = .ok settings.scenario.aligner ∧
      (∀ time n, (World.serving.sleep time n).1 = .ok ()) ∧
      Leads (settings.scenario.aligner.align World.serving) 0 (.error .secondsOverflow) 0 ∧
      ∃ n, Leads (runScenario World.serving settings true none) 0 (.error .secondsOverflow) n := by
  have hlong : Alignment.waitLimit ≤ 10 ^ 155 * 10 ^ 154 := by decide +kernel
  obtain ⟨hmake, halign, hrun⟩ := Settings.ofWindow_overflows hlong
  exact ⟨Settings.ofWindow (10 ^ 155 * 10 ^ 154), rfl, hmake, fun _ _ => rfl, halign, hrun⟩

end RateIsolation
