/-
  Waits in a row, on a clock of nanoseconds.

  * `wait_ends_on_grid`: from any time on, also before the epoch, a wait ends
    where the clock of the gateway reads the margin past the next boundary;
  * `World.KeepsTime`: an outside whose clock moves by as much as is slept;
  * `Aligner.stays` are waits in a row with anything in between, `Stay.Lands` and
    `Stay.Overflows` the two ways in which one ends;
  * `aligns_land`: a wait lands on the grid, in a later window than those before
    it, exactly if it has a number of seconds.
-/
import RateIsolation.Proofs.Conduct
import RateIsolation.Proofs.Hosted

namespace RateIsolation

open Harness

variable {σ : Type}

/-! ## Nanoseconds -/

theorem millisOfNanos_add (t ms : Int) :
    millisOfNanos (t + ms * 1000000) = millisOfNanos t + ms :=
  Int.add_mul_fdiv_right _ _ (by decide)

theorem millisOfNanos_mul (ms : Int) : millisOfNanos (ms * 1000000) = ms :=
  Int.mul_fdiv_cancel _ (by decide)

theorem millisOfNanos_mono {t t' : Int} (h : t ≤ t') : millisOfNanos t ≤ millisOfNanos t' :=
  windowOf_mono (by decide) h

theorem millisOfNanos_mul_le (t : Int) : millisOfNanos t * 1000000 ≤ t := by
  have hsplit := Int.mul_fdiv_add_fmod t 1000000
  have hrest := Int.fmod_nonneg_of_pos t (by decide : (0 : Int) < 1000000)
  unfold millisOfNanos
  omega

/-- From any time on there is a wait, longer than the margin by at most a window.  After it a clock
    in milliseconds reads the margin past the next boundary: not a nanosecond too early, and in the
    window that the margin says. -/
theorem wait_ends_on_grid (t : Int) {window margin : Int} (hw : 0 < window) (hm : 0 ≤ margin) :
    let now := millisOfNanos t
    let start := (windowOf window now + 1) * window + margin
    ∃ wait, waitFor now window margin = .ok wait ∧ margin < wait ∧ wait ≤ window + margin ∧
      millisOfNanos (t + wait * 1000000) = start ∧ start * 1000000 ≤ t + wait * 1000000 ∧
      windowOf window start = windowOf window now + 1 + windowOf window margin := by
  intro now start
  have hwait : waitFor now window margin = .ok (window - now.fmod window + margin) :=
    waitFor_eq_ok_iff.2 ⟨hw, hm, rfl⟩
  have hlands := wait_lands hwait
  have hreads : millisOfNanos (t + (window - now.fmod window + margin) * 1000000) = start :=
    (millisOfNanos_add _ _).trans hlands
  refine ⟨_, hwait, margin_lt_wait hwait, wait_le hwait, hreads, ?_, windowOf_mul_add hw _ _⟩
  rw [← hreads]
  exact millisOfNanos_mul_le _

/-! ## Waits of an aligner -/

/-- An outside with a clock in nanoseconds that is read in milliseconds, and that a sleep moves by
    as many milliseconds as the aligner waits. -/
structure World.KeepsTime (w : World σ) (a : Aligner) (nanos : σ → Int) : Prop where
  reads : ∀ st, (w.readClock st).1 = millisOfNanos (nanos st)
  stands : ∀ st, nanos (w.readClock st).2 = nanos st
  sleeps : ∀ st seconds, secondsOfMillis (a.waitAt (millisOfNanos (nanos st))) = some seconds →
    (w.sleep (.binary seconds) st).1 = .ok () ∧
    nanos (w.sleep (.binary seconds) st).2 =
      nanos st + a.waitAt (millisOfNanos (nanos st)) * 1000000

/-- One wait: the session before it, its end, and the session after it. -/
structure Stay (σ : Type) where
  before : Session (Traced σ)
  result : Except Fault Alignment
  after : Session (Traced σ)

/-- Waits of an aligner in a row, before each of which something else happens. -/
def Aligner.stays (w : World σ) (a : Aligner) :
    List (Session (Traced σ) → Session (Traced σ)) → Session (Traced σ) → List (Stay σ)
  | [], _ => []
  | meanwhile :: rest, s =>
    let run := (a.align w.traced).run.run (meanwhile s)
    ⟨meanwhile s, run.1, run.2⟩ :: stays w a rest run.2

namespace Stay

variable (nanos : σ → Int) (a : Aligner)

/-- The reading of the clock before the wait. -/
def start (x : Stay σ) : Int := millisOfNanos (nanos x.before.world.1)

/-- The reading of the clock after the wait. -/
def stop (x : Stay σ) : Int := millisOfNanos (nanos x.after.world.1)

/-- The wait came to its end on the grid, after one sleep. -/
structure Lands (x : Stay σ) : Prop where
  result : x.result = .ok (a.alignmentAt (x.start nanos))
  slept : ∃ seconds, secondsOfMillis (a.waitAt (x.start nanos)) = some seconds ∧
    x.after.world.2 =
      x.before.world.2 ++ [.readClock (x.start nanos), .slept (.binary seconds) (.ok ())]
  moved : nanos x.after.world.1 = nanos x.before.world.1 + a.waitAt (x.start nanos) * 1000000
  onGrid : x.stop nanos = (windowOf a.window (x.start nanos) + 1) * a.window + a.margin
  rest : (x.stop nanos).fmod a.window = a.margin.fmod a.window

/-- The wait was refused before its sleep. -/
structure Overflows (x : Stay σ) : Prop where
  result : x.result = .error .secondsOverflow
  asked : x.after.world.2 = x.before.world.2 ++ [.readClock (x.start nanos)]
  stood : nanos x.after.world.1 = nanos x.before.world.1

variable {nanos a} {x y : Stay σ}

theorem Lands.le (h : x.Lands nanos a) (hw : 0 < a.window) (hm : 0 ≤ a.margin) :
    nanos x.before.world.1 ≤ nanos x.after.world.1 := by
  have hpos : 0 < a.waitAt (x.start nanos) := Aligner.waitAt_pos hw hm
  have hmoved := h.moved
  omega

theorem Overflows.not_lands (h : x.Overflows nanos) : ¬ x.Lands nanos a :=
  fun hlands => nomatch hlands.result.symm.trans h.result

/-- The next wait that lands is in a later window, and has the length of some windows if it begins
    where this one ended. -/
theorem Lands.next (hx : x.Lands nanos a) (hy : y.Lands nanos a) (hw : 0 < a.window)
    (hm : 0 ≤ a.margin) (h : nanos x.after.world.1 ≤ nanos y.before.world.1) :
    windowOf a.window (x.stop nanos) < windowOf a.window (y.stop nanos) ∧
      (y.start nanos = x.stop nanos →
        a.waitAt (y.start nanos) = a.window * (1 + windowOf a.window a.margin)) := by
  have hwait : waitFor (y.start nanos) a.window a.margin = _ := Aligner.waitFor_eq hw hm
  have hstop : y.stop nanos = a.landing (y.start nanos) := by
    rw [hy.onGrid, Aligner.landing, wait_lands hwait]
  constructor
  · calc windowOf a.window (x.stop nanos)
        ≤ windowOf a.window (y.start nanos) := windowOf_mono hw (millisOfNanos_mono h)
      _ < windowOf a.window (y.stop nanos) := by
          rw [hstop]
          exact Aligner.windowOf_lt_landing hw hm _
  · intro hstart
    have hmargin := Int.mul_fdiv_add_fmod a.margin a.window
    rw [Aligner.waitAt, hstart, hx.rest, Int.mul_add, Int.mul_one, windowOf]
    omega

end Stay

namespace Aligner

variable {w : World σ} {nanos : σ → Int} {a : Aligner}

/-- A wait of which the clock and the sleep are kept. -/
theorem align_traced_leads {st : Traced σ} {seconds : Binary64} (hw : 0 < a.window)
    (hm : 0 ≤ a.margin) (hseconds : secondsOfMillis (a.waitAt (w.readClock st.1).1) = some seconds)
    (hsleep : (w.sleep (.binary seconds) (w.readClock st.1).2).1 = .ok ()) :
    Leads (a.align w.traced) st (.ok (a.alignmentAt (w.readClock st.1).1))
      ((w.sleep (.binary seconds) (w.readClock st.1).2).2,
        st.2 ++ [.readClock (w.readClock st.1).1, .slept (.binary seconds) (.ok ())]) := by
  have hleads := @Scenario.align_leads _ w.traced a st _ hw hm hseconds hsleep
  have hafter : (w.traced.sleep (.binary seconds) (w.traced.readClock st).2).2 =
      ((w.sleep (.binary seconds) (w.readClock st.1).2).2,
        st.2 ++ [.readClock (w.readClock st.1).1] ++
          [.slept (.binary seconds) (w.sleep (.binary seconds) (w.readClock st.1).2).1]) := rfl
  rw [hafter, hsleep, List.append_assoc] at hleads
  exact hleads

/-- A wait that has a number of seconds lands. -/
theorem stay_lands (h : w.KeepsTime a nanos) (hw : 0 < a.window) (hm : 0 ≤ a.margin)
    {s : Session (Traced σ)} (hfits : a.Fits (millisOfNanos (nanos s.world.1))) :
    (Stay.mk s ((a.align w.traced).run.run s).1 ((a.align w.traced).run.run s).2).Lands nanos a := by
  obtain ⟨seconds, hseconds⟩ := hfits.exists_seconds hw hm
  have hreads := h.reads s.world.1
  have hstands := h.stands s.world.1
  obtain ⟨hslept, hmoved⟩ := h.sleeps (w.readClock s.world.1).2 seconds (hstands.symm ▸ hseconds)
  rw [hstands] at hmoved
  obtain ⟨s', hrun, hworld⟩ := align_traced_leads hw hm (hreads.symm ▸ hseconds) hslept s rfl
  rw [hreads] at hrun hworld
  have hafter : nanos s'.world.1 =
      nanos s.world.1 + a.waitAt (millisOfNanos (nanos s.world.1)) * 1000000 := by
    rw [hworld]
    exact hmoved
  have hgrid : millisOfNanos (nanos s'.world.1) =
      (windowOf a.window (millisOfNanos (nanos s.world.1)) + 1) * a.window + a.margin := by
    rw [hafter, millisOfNanos_add]
    exact wait_lands (waitFor_eq hw hm)
  rw [hrun]
  refine { result := rfl, slept := ⟨seconds, hseconds, congrArg Prod.snd hworld⟩, moved := hafter,
           onGrid := hgrid, rest := ?_ }
  show (millisOfNanos (nanos s'.world.1)).fmod _ = _
  rw [hgrid, Int.add_comm, Int.add_mul_fmod_self_right]

/-- A wait that has none is refused. -/
theorem stay_overflows (h : w.KeepsTime a nanos) (hw : 0 < a.window) (hm : 0 ≤ a.margin)
    {s : Session (Traced σ)} (hfits : ¬ a.Fits (millisOfNanos (nanos s.world.1))) :
    (Stay.mk s ((a.align w.traced).run.run s).1
      ((a.align w.traced).run.run s).2).Overflows nanos := by
  have hreads := h.reads s.world.1
  have hleads : Leads (a.align w.traced) s.world (.error .secondsOverflow)
      ((w.readClock s.world.1).2, s.world.2 ++ [.readClock (w.readClock s.world.1).1]) :=
    Scenario.align_overflow hw hm (hreads.symm ▸ hfits)
  obtain ⟨s', hrun, hworld⟩ := hleads s rfl
  rw [hreads] at hworld
  rw [hrun]
  refine { result := rfl, asked := congrArg Prod.snd hworld, stood := ?_ }
  show nanos s'.world.1 = _
  rw [hworld]
  exact h.stands s.world.1

theorem length_stays (w : World σ) (a : Aligner) (l : List (Session (Traced σ) → Session (Traced σ)))
    (s : Session (Traced σ)) : (a.stays w l s).length = l.length := by
  induction l generalizing s with
  | nil => rfl
  | cons meanwhile l ih => exact congrArg (· + 1) (ih _)

/-- Of two waits with nothing in between, the second begins where the first ended. -/
theorem stays_twice (w : World σ) (a : Aligner) (s : Session (Traced σ)) :
    ∃ x y, a.stays w [fun s => s, fun s => s] s = [x, y] ∧ x.before = s ∧ y.before = x.after :=
  ⟨_, _, rfl, rfl, rfl⟩

section Row

variable (h : w.KeepsTime a nanos) (hw : 0 < a.window) (hm : 0 ≤ a.margin)

include h hw hm

/-- Each of some waits in a row lands or is refused. -/
theorem stays_end (l : List (Session (Traced σ) → Session (Traced σ))) (s : Session (Traced σ)) :
    ∀ x ∈ a.stays w l s, (a.Fits (x.start nanos) → x.Lands nanos a) ∧
      (¬ a.Fits (x.start nanos) → x.Overflows nanos) := by
  induction l generalizing s with
  | nil => exact fun _ hx => absurd hx List.not_mem_nil
  | cons meanwhile l ih =>
    exact List.forall_mem_cons.2
      ⟨⟨fun hfits => stay_lands h hw hm hfits, fun hfits => stay_overflows h hw hm hfits⟩, ih _⟩

/-- In no wait does the clock go back. -/
theorem stays_forward (l : List (Session (Traced σ) → Session (Traced σ))) (s : Session (Traced σ)) :
    ∀ x ∈ a.stays w l s, nanos x.before.world.1 ≤ nanos x.after.world.1 := by
  intro x hx
  obtain ⟨hlands, hoverflows⟩ := stays_end h hw hm l s x hx
  by_cases hfits : a.Fits (x.start nanos)
  · exact (hlands hfits).le hw hm
  · exact (hoverflows hfits).stood.ge

/-- Waits in a row begin no earlier than those before them ended. -/
theorem stays_ordered {l : List (Session (Traced σ) → Session (Traced σ))}
    (hl : ∀ meanwhile ∈ l, ∀ s, nanos s.world.1 ≤ nanos (meanwhile s).world.1)
    (s : Session (Traced σ)) :
    (∀ x ∈ a.stays w l s, nanos s.world.1 ≤ nanos x.before.world.1) ∧
      (a.stays w l s).Pairwise fun x y => nanos x.after.world.1 ≤ nanos y.before.world.1 := by
  induction l generalizing s with
  | nil => exact ⟨fun _ hx => absurd hx List.not_mem_nil, .nil⟩
  | cons meanwhile l ih =>
    obtain ⟨hfirst, hrest⟩ := List.forall_mem_cons.1 hl
    obtain ⟨hlater, hpairwise⟩ := ih hrest ((a.align w.traced).run.run (meanwhile s)).2
    have hforward := stays_forward h hw hm (meanwhile :: l) s _ List.mem_cons_self
    refine ⟨List.forall_mem_cons.2 ⟨hfirst s, ?_⟩, .cons hlater hpairwise⟩
    intro x hx
    exact (hfirst s).trans (hforward.trans (hlater x hx))

end Row

end Aligner

/-- **Waits land on the grid.**  From any time on, the wait ends where the clock of the gateway reads
    the margin past the next boundary.  An aligner that could be made, on a clock that its sleeps
    move by as much as they should, may wait any number of times, with anything in between that does
    not turn the clock back: each wait that has a number of seconds is one sleep and lands on the
    grid, and any other is refused without a sleep; the waits that land are in later and later
    windows, and one that begins where another landed takes some whole windows. -/
theorem aligns_land {w : World σ} {nanos : σ → Int} {window margin : Int} {a : Aligner}
    (hmake : Aligner.make window margin = .ok a) (h : w.KeepsTime a nanos)
    {meanwhiles : List (Session (Traced σ) → Session (Traced σ))}
    (hforward : ∀ meanwhile ∈ meanwhiles, ∀ s, nanos s.world.1 ≤ nanos (meanwhile s).world.1)
    (s : Session (Traced σ)) :
    (∀ t window margin : Int, 0 < window → 0 ≤ margin →
      let now := millisOfNanos t
      let start := (windowOf window now + 1) * window + margin
      ∃ wait, waitFor now window margin = .ok wait ∧ margin < wait ∧ wait ≤ window + margin ∧
        millisOfNanos (t + wait * 1000000) = start ∧ start * 1000000 ≤ t + wait * 1000000 ∧
        windowOf window start = windowOf window now + 1 + windowOf window margin) ∧
    a = ⟨window, margin⟩ ∧
    (a.stays w meanwhiles s).length = meanwhiles.length ∧
    (∀ x ∈ a.stays w meanwhiles s, (a.Fits (x.start nanos) → x.Lands nanos a) ∧
      (¬ a.Fits (x.start nanos) → x.Overflows nanos)) ∧
    (a.stays w meanwhiles s).Pairwise fun x y => x.Lands nanos a → y.Lands nanos a →
      windowOf window (x.stop nanos) < windowOf window (y.stop nanos) ∧
      (y.start nanos = x.stop nanos →
        a.waitAt (y.start nanos) = window * (1 + windowOf window margin)) := by
  obtain ⟨hw, hm, rfl⟩ := Aligner.make_eq_ok_iff.1 hmake
  refine ⟨fun t _ _ hw hm => wait_ends_on_grid t hw hm, rfl, Aligner.length_stays w _ _ s,
    Aligner.stays_end h hw hm meanwhiles s, ?_⟩
  refine (Aligner.stays_ordered h hw hm hforward s).2.imp ?_
  intro x y hxy hx hy
  exact hx.next hy hw hm hxy

/-! ## Waits of the simulation -/

namespace Simulation

/-- The clock of a simulation in nanoseconds. -/
def nanos (st : Simulation) : Int := st.now * 1000000

theorem millisOfNanos_nanos (st : Simulation) : millisOfNanos st.nanos = st.now :=
  millisOfNanos_mul st.now

/-- A sleep of the simulation is exact where the wait is read back from its seconds. -/
theorem keepsTime {a : Aligner}
    (h : ∀ now, ((secondsOfMillis (a.waitAt now)).bind fun x => (x.times 1000).nearestInt?) =
      some (a.waitAt now)) : world.KeepsTime a nanos where
  reads st := st.millisOfNanos_nanos.symm
  stands _ := rfl
  sleeps st seconds hseconds := by
    rw [millisOfNanos_nanos] at hseconds ⊢
    obtain ⟨sleeps, hslept⟩ := exactSleep_of_readBack (h st.now) st seconds rfl hseconds
    have hworld : world.sleep (.binary seconds) st = _ := hslept
    rw [hworld]
    exact ⟨rfl, Int.add_mul _ _ _⟩

/-- So it is for a window of 5 and a margin of more than two windows. -/
theorem keepsTime_short : world.KeepsTime ⟨5, 12⟩ nanos := by
  have hwaits : ∀ rest < 5,
      ((secondsOfMillis (5 - (rest : Nat) + 12)).bind fun x => (x.times 1000).nearestInt?) =
        some (5 - (rest : Int) + 12) := by
    decide +kernel
  refine keepsTime fun now => ?_
  have hnonneg := Int.fmod_nonneg_of_pos now (by decide : (0 : Int) < 5)
  have hlt := Int.fmod_lt_of_pos now (by decide : (0 : Int) < 5)
  obtain ⟨rest, hrest⟩ := Int.eq_ofNat_of_zero_le hnonneg
  have hwait : (⟨5, 12⟩ : Aligner).waitAt now = 5 - (rest : Int) + 12 := by
    rw [← hrest]
    rfl
  rw [hwait]
  exact hwaits rest (by omega)

end Simulation

/-- From one millisecond before the epoch on, two waits in a row land at 12 and, three windows later,
    at 27. -/
theorem aligns_land_short :
    ∃ x y : Stay Simulation, (⟨5, 12⟩ : Aligner).stays Simulation.world [fun s => s, fun s => s]
        { world := ({ now := -1, gateway := .script { otherwise := .ok { status := 200 } } }, []) } =
          [x, y] ∧
      x.Lands Simulation.nanos ⟨5, 12⟩ ∧ x.stop Simulation.nanos = 12 ∧
      y.Lands Simulation.nanos ⟨5, 12⟩ ∧ y.stop Simulation.nanos = 27 := by
  have hmeanwhile : ∀ meanwhile ∈ [fun s => s, fun s => s], ∀ s : Session (Traced Simulation),
      s.world.1.nanos ≤ (meanwhile s).world.1.nanos := by
    simp
  let s : Session (Traced Simulation) :=
    { world := ({ now := -1, gateway := .script { otherwise := .ok { status := 200 } } }, []) }
  obtain ⟨-, -, -, hends, -⟩ := aligns_land (rfl : Aligner.make 5 12 = .ok ⟨5, 12⟩)
    Simulation.keepsTime_short hmeanwhile s
  obtain ⟨x, y, hrow, hx, hy⟩ := Aligner.stays_twice Simulation.world ⟨5, 12⟩ s
  rw [hrow] at hends
  have hfits (now : Int) : (⟨5, 12⟩ : Aligner).Fits now :=
    Aligner.fits_of_le (by decide) (by decide) (Alignment.lt_waitLimit (by decide))
  have hlandsX := (hends x (.head _)).1 (hfits _)
  have hlandsY := (hends y (.tail _ (.head _))).1 (hfits _)
  have hstopX : x.stop Simulation.nanos = 12 := by
    rw [hlandsX.onGrid, Stay.start, hx]
    rfl
  have hstartY : y.start Simulation.nanos = 12 := by
    rw [← hstopX, Stay.start, hy]
    rfl
  refine ⟨x, y, hrow, hlandsX, hstopX, hlandsY, ?_⟩
  rw [hlandsY.onGrid, hstartY]
  rfl

/-! ## A wait that is refused -/

/-- An outside that wakes an aligner when it should, of which the state is the clock. -/
def World.waking (a : Aligner) : World Int where
  readClock := fun t => (millisOfNanos t, t)
  sleep := fun _ t => (.ok (), t + a.waitAt (millisOfNanos t) * 1000000)
  newId := fun t => ("id", t)
  send := fun _ t => (⟨.ok { status := 200 }, []⟩, t)
  writeFile := fun _ _ t => (.ok (), t)
  replaceFile := fun _ _ t => (.ok (), t)

theorem World.waking_keepsTime (a : Aligner) : (World.waking a).KeepsTime a fun t => t :=
  ⟨fun _ => rfl, fun _ => rfl, fun _ _ _ => ⟨rfl, rfl⟩⟩

/-- From the epoch on, a window from the limit on is too long to wait for. -/
theorem Aligner.stays_waking {a : Aligner} (hlong : Alignment.waitLimit ≤ a.window)
    (hm : 0 ≤ a.margin) :
    ∀ x ∈ a.stays (World.waking a) [fun s => s] { world := (0, []) },
      x.result = .error .secondsOverflow ∧ x.after.world.2 = [.readClock 0] ∧
        ¬ x.Lands (fun t => t) a := by
  have hw : 0 < a.window := Int.lt_of_lt_of_le (Alignment.lt_waitLimit (by decide)) hlong
  have hfits : ¬ a.Fits (millisOfNanos 0) := not_fits_of_long hlong ((Int.zero_fmod _).trans_le hm)
  have hoverflows := stay_overflows (World.waking_keepsTime a) hw hm
    (show ¬ a.Fits (millisOfNanos ({ world := (0, []) } : Session (Traced Int)).world.1) from hfits)
  exact List.forall_mem_singleton.2
    ⟨hoverflows.result, hoverflows.asked, hoverflows.not_lands⟩

/-- An aligner for a window of `10 ^ 309` can be made, and does not wait, although its outside would
    wake it in time. -/
theorem aligns_overflow_of_long_window :
    ∃ a : Aligner, Aligner.make (10 ^ 155 * 10 ^ 154) 0 = .ok a ∧
      (World.waking a).KeepsTime a (fun t => t) ∧
      ∀ x ∈ a.stays (World.waking a) [fun s => s] { world := (0, []) },
        x.result = .error .secondsOverflow ∧ x.after.world.2 = [.readClock 0] ∧
          ¬ x.Lands (fun t => t) a := by
  have hlong : Alignment.waitLimit ≤ 10 ^ 155 * 10 ^ 154 := by decide +kernel
  have hpos : (0 : Int) < 10 ^ 155 * 10 ^ 154 := by positivity
  exact ⟨⟨10 ^ 155 * 10 ^ 154, 0⟩, Aligner.make_eq_ok_iff.2 ⟨hpos, le_rfl, rfl⟩,
    World.waking_keepsTime _, Aligner.stays_waking hlong le_rfl⟩

end RateIsolation
