/-
  Windows in order, and which waits are numbers of seconds.

  * `windowOf_mono`: a later reading is in no earlier window;
  * `windowOf_landing`: the window in which a wait ends;
  * `secondsOfMillis_eq_none_iff`: a wait has a number of seconds exactly below
    `Alignment.waitLimit`, the first count of milliseconds that rounds past the
    largest finite number; `Aligner.Fits` says that of the wait from a reading.
-/
import RateIsolation.Window
import Mathlib.Data.Nat.Log
import Mathlib.Tactic.Positivity
import Mathlib.Tactic.Ring
import Mathlib.Tactic.SplitIfs

namespace RateIsolation

/-! ## Windows -/

theorem windowOf_eq_ediv {length : Int} (hl : 0 < length) (now : Int) :
    windowOf length now = now / length :=
  Int.fdiv_eq_ediv_of_nonneg now (by omega)

theorem windowOf_mono {length a b : Int} (hl : 0 < length) (h : a ≤ b) :
    windowOf length a ≤ windowOf length b := by
  rw [windowOf_eq_ediv hl, windowOf_eq_ediv hl]
  exact Int.ediv_le_ediv hl h

/-- The window of a reading some windows and a rest later than a boundary. -/
theorem windowOf_mul_add {length : Int} (hl : 0 < length) (w rest : Int) :
    windowOf length (w * length + rest) = w + windowOf length rest := by
  rw [windowOf_eq_ediv hl, windowOf_eq_ediv hl, Int.add_comm (w * length),
    Int.add_mul_ediv_right _ _ (by omega), Int.add_comm]

/-- Within the rest of a window the window stays. -/
theorem windowOf_add_of_lt {length now rest : Int} (hl : 0 < length) (hr : 0 ≤ rest)
    (h : now.fmod length + rest < length) : windowOf length (now + rest) = windowOf length now := by
  have hnow := Int.mul_fdiv_add_fmod now length
  have hmod := Int.fmod_nonneg_of_pos now hl
  have hsplit : now + rest = windowOf length now * length + (now.fmod length + rest) := by
    rw [windowOf, Int.mul_comm]
    omega
  rw [hsplit, windowOf_mul_add hl, windowOf_eq_ediv hl (now.fmod length + rest),
    Int.ediv_eq_zero_of_lt (by omega) h, Int.add_zero]

/-- After the wait the clock is in a later window. -/
theorem windowOf_landing {now length margin wait : Int}
    (h : waitFor now length margin = .ok wait) :
    windowOf length (now + wait) = windowOf length now + 1 + windowOf length margin := by
  rw [wait_lands h, windowOf_mul_add (waitFor_eq_ok_iff.1 h).1]

/-! ## Waits in seconds -/

theorem roundQuotient_le (num den : Nat) : roundQuotient num den ≤ num / den + 1 := by
  unfold roundQuotient
  dsimp only
  split_ifs <;> omega

theorem le_roundQuotient (num den : Nat) : num / den ≤ roundQuotient num den := by
  unfold roundQuotient
  dsimp only
  split_ifs <;> omega

/-- A quotient is rounded up to an even number from half a unit below it on. -/
theorem even_le_roundQuotient_iff {m num den : Nat} (hm : m % 2 = 0) (hd : 0 < den) :
    m ≤ roundQuotient num den ↔ 2 * (m * den) ≤ 2 * num + den := by
  have hdiv := Nat.div_add_mod num den
  have hrest := Nat.mod_lt num hd
  rcases Nat.lt_trichotomy (num / den + 1) m with h | h | h
  · -- more than one below
    have := roundQuotient_le num den
    have hmul : den * (num / den + 2) ≤ den * m := Nat.mul_le_mul_left den h
    rw [Nat.mul_add] at hmul
    rw [Nat.mul_comm m den]
    constructor <;> intro <;> omega
  · -- one below: the rest decides
    have hmul : m * den = den * (num / den) + den := by
      rw [← h, Nat.add_mul, Nat.one_mul, Nat.mul_comm]
    have hodd : (num / den) % 2 = 1 := by omega
    unfold roundQuotient
    dsimp only
    rw [hmul, hodd]
    split_ifs <;> constructor <;> intro <;> omega
  · have := le_roundQuotient num den
    have hmul : den * m ≤ den * (num / den) := Nat.mul_le_mul_left den (by omega)
    rw [Nat.mul_comm m den]
    constructor <;> intro <;> omega

theorem log2_mul_two_pow {n : Nat} (hn : n ≠ 0) (e : Nat) : (n * 2 ^ e).log2 = n.log2 + e := by
  rw [Nat.log2_eq_iff (by positivity)]
  have h₁ := Nat.log2_self_le hn
  have h₂ : n < 2 ^ (n.log2 + 1) := Nat.lt_log2_self
  constructor
  · rw [Nat.pow_add]
    exact Nat.mul_le_mul_right _ h₁
  · rw [show n.log2 + e + 1 = (n.log2 + 1) + e by omega, Nat.pow_add]
    exact Nat.mul_lt_mul_of_pos_right h₂ (by positivity)

namespace Binary64

theorem pow_eq_two_pow {m k : Nat} (h : m = k) : Nat.pow 2 m = 2 ^ k := h ▸ rfl

theorem unitsPerOne_eq : unitsPerOne = 2 ^ 1074 := pow_eq_two_pow rfl

theorem overflowUnits_eq : overflowUnits = 2 ^ (1024 + 1074) := pow_eq_two_pow (by omega)

/-- Rounding a number of `e` or more zeros at its end. -/
theorem nearestUnits_mul_two_pow {n e : Nat} (hn : n ≠ 0) (he : 53 ≤ e) :
    nearestUnits (n * 2 ^ e) 1 =
      roundQuotient (n * 2 ^ e) (2 ^ (n.log2 + e - 52)) * 2 ^ (n.log2 + e - 52) := by
  have hbig : ¬ n * 2 ^ e / 1 < Nat.pow 2 53 := by
    rw [Nat.div_one, Nat.not_lt]
    calc Nat.pow 2 53 ≤ 2 ^ e := Nat.pow_le_pow_right (by omega) he
      _ ≤ n * 2 ^ e := Nat.le_mul_of_pos_left _ (Nat.pos_of_ne_zero hn)
  unfold nearestUnits
  dsimp only
  rw [if_neg hbig, Nat.div_one, log2_mul_two_pow hn, Nat.one_mul]
  rfl

/-- A number with `e` zeros at its end rounds below a power of two exactly below half of the last
    place under it. -/
theorem nearestUnits_lt_iff {n e k : Nat} (he : 53 ≤ e) (hk : 53 ≤ k) :
    nearestUnits (n * 2 ^ e) 1 < 2 ^ (k + e) ↔ 2 * n + 2 ^ (k - 53) < 2 ^ (k + 1) := by
  have hhalf : 2 ^ (k + 1) = 2 * 2 ^ k := Nat.pow_succ'
  have hpos : 0 < 2 ^ (k - 53) := by positivity
  have hsmall : 2 ^ (k - 53) < 2 ^ k := Nat.pow_lt_pow_right (by omega) (by omega)
  by_cases hn : n = 0
  · subst hn
    simp only [nearestUnits, roundQuotient]
    constructor
    · intro
      omega
    · intro
      simp
  rw [nearestUnits_mul_two_pow hn he]
  have hlow := Nat.log2_self_le hn
  have hhigh : n < 2 ^ (n.log2 + 1) := Nat.lt_log2_self
  generalize hs : n.log2 + e - 52 = shift
  have hquot : n * 2 ^ e / 2 ^ shift < 2 ^ 53 := by
    rw [Nat.div_lt_iff_lt_mul (by positivity), ← Nat.pow_add,
      show 53 + shift = n.log2 + 1 + e by omega, Nat.pow_add]
    exact Nat.mul_lt_mul_of_pos_right hhigh (by positivity)
  have hquot' : 2 ^ 52 ≤ n * 2 ^ e / 2 ^ shift := by
    rw [Nat.le_div_iff_mul_le (by positivity), ← Nat.pow_add,
      show 52 + shift = n.log2 + e by omega, Nat.pow_add]
    exact Nat.mul_le_mul_right _ hlow
  rcases Nat.lt_trichotomy (n.log2 + 1) k with h | h | h
  · -- one bit short or more: even rounded up it stays below
    have hround : roundQuotient (n * 2 ^ e) (2 ^ shift) ≤ 2 ^ 53 :=
      Nat.le_trans (roundQuotient_le _ _) hquot
    have hlt : roundQuotient (n * 2 ^ e) (2 ^ shift) * 2 ^ shift < 2 ^ (k + e) :=
      calc _ ≤ 2 ^ 53 * 2 ^ shift := Nat.mul_le_mul_right _ hround
        _ = 2 ^ (n.log2 + 1 + e) := by rw [← Nat.pow_add]; congr 1; omega
        _ < 2 ^ (k + e) := Nat.pow_lt_pow_right (by omega) (by omega)
    have hn' : 2 * n < 2 ^ k :=
      calc 2 * n < 2 * 2 ^ (n.log2 + 1) := by omega
        _ = 2 ^ (n.log2 + 2) := by rw [← Nat.pow_succ']
        _ ≤ 2 ^ k := Nat.pow_le_pow_right (by omega) (by omega)
    constructor <;> intro <;> omega
  · -- as many bits: the rounding decides
    have hpow : 2 ^ (k + e) = 2 ^ 53 * 2 ^ shift := by rw [← Nat.pow_add]; congr 1; omega
    have hshift : 2 ^ shift = 2 ^ (k - 53) * 2 ^ e := by rw [← Nat.pow_add]; congr 1; omega
    have hk' : 2 ^ 53 * 2 ^ (k - 53) = 2 ^ k := by rw [← Nat.pow_add]; congr 1; omega
    rw [hpow, Nat.mul_lt_mul_right (by positivity), ← Nat.not_le,
      even_le_roundQuotient_iff (by norm_num) (by positivity), Nat.not_le, hshift,
      show 2 * (n * 2 ^ e) + 2 ^ (k - 53) * 2 ^ e = (2 * n + 2 ^ (k - 53)) * 2 ^ e by ring,
      show 2 * (2 ^ 53 * (2 ^ (k - 53) * 2 ^ e)) = 2 * (2 ^ 53 * 2 ^ (k - 53)) * 2 ^ e by ring,
      Nat.mul_lt_mul_right (by positivity), hk', hhalf]
  · -- a bit more: rounding keeps it
    have hround : 2 ^ 52 ≤ roundQuotient (n * 2 ^ e) (2 ^ shift) :=
      Nat.le_trans hquot' (le_roundQuotient _ _)
    have hge : 2 ^ (k + e) ≤ roundQuotient (n * 2 ^ e) (2 ^ shift) * 2 ^ shift :=
      calc 2 ^ (k + e) ≤ 2 ^ (n.log2 + e) := Nat.pow_le_pow_right (by omega) (by omega)
        _ = 2 ^ 52 * 2 ^ shift := by rw [← Nat.pow_add]; congr 1; omega
        _ ≤ _ := Nat.mul_le_mul_right _ hround
    have hn' : 2 ^ k ≤ n := Nat.le_trans (Nat.pow_le_pow_right (by omega) (by omega)) hlow
    constructor <;> intro <;> omega

end Binary64

/-- The first wait, in milliseconds, that has no number of seconds. -/
def Alignment.waitLimit : Int := 2 ^ 1024 - 2 ^ 970

theorem Alignment.lt_waitLimit {ms : Int} (h : ms ≤ 2 ^ 64) : ms < waitLimit := by
  have h₁ : (2 : Int) ^ 1024 = 2 ^ 54 * 2 ^ 970 := by rw [← Int.pow_add]
  have h₂ : (2 : Int) ^ 970 = 2 ^ 64 * 2 ^ 906 := by rw [← Int.pow_add]
  have h₃ : (0 : Int) < 2 ^ 906 := by positivity
  rw [waitLimit, h₁, h₂]
  generalize (2 : Int) ^ 906 = rest at h₃
  omega

theorem secondsOfMillis_eq_none_iff {ms : Int} (h : 0 ≤ ms) :
    secondsOfMillis ms = none ↔ Alignment.waitLimit ≤ ms := by
  obtain ⟨n, rfl⟩ := Int.eq_ofNat_of_zero_le h
  have hlt := Binary64.nearestUnits_lt_iff (n := n) (e := 1074) (k := 1024) (by omega) (by omega)
  rw [secondsOfMillis, Option.map_eq_none_iff, Binary64.ofInt?_eq_none_iff, ← Nat.not_lt,
    Int.natAbs_natCast, Binary64.unitsPerOne_eq, Binary64.overflowUnits_eq, hlt,
    Alignment.waitLimit]
  have h₁ : (2 : Int) ^ 1024 = 2 ^ 54 * 2 ^ 970 := by rw [← Int.pow_add]
  have h₂ : (2 : Nat) ^ (1024 - 53) = 2 * 2 ^ 970 := by rw [← Nat.pow_succ']
  have h₃ : (2 : Nat) ^ (1024 + 1) = 2 ^ 55 * 2 ^ 970 := by rw [← Nat.pow_add]
  rw [h₁, h₂, h₃, Nat.not_lt]
  have h₄ : ((2 ^ 970 : Nat) : Int) = 2 ^ 970 := by rw [Nat.cast_pow, Nat.cast_ofNat]
  rw [← h₄]
  generalize (2 : Nat) ^ 970 = half
  omega

namespace Aligner

/-- The wait from a reading of the clock on. -/
def waitAt (a : Aligner) (now : Int) : Int := a.window - now.fmod a.window + a.margin

theorem make_eq_ok_iff {window margin : Int} {a : Aligner} :
    make window margin = .ok a ↔ 0 < window ∧ 0 ≤ margin ∧ a = ⟨window, margin⟩ := by
  unfold make
  constructor
  · intro h
    split at h
    · cases h
    · rename_i hwait
      obtain ⟨hw, hm, -⟩ := waitFor_eq_ok_iff.1 hwait
      exact ⟨hw, hm, (Except.ok.inj h).symm⟩
  · rintro ⟨hw, hm, rfl⟩
    rw [waitFor_eq_ok_iff.2 ⟨hw, hm, rfl⟩]

/-- Whether the wait from a reading on has a number of seconds. -/
def Fits (a : Aligner) (now : Int) : Prop := a.waitAt now < Alignment.waitLimit

variable {a : Aligner} {now : Int}

theorem waitFor_eq (hw : 0 < a.window) (hm : 0 ≤ a.margin) :
    waitFor now a.window a.margin = .ok (a.waitAt now) :=
  waitFor_eq_ok_iff.2 ⟨hw, hm, rfl⟩

theorem waitAt_pos (hw : 0 < a.window) (hm : 0 ≤ a.margin) : 0 < a.waitAt now := by
  have := margin_lt_wait (waitFor_eq hw hm : waitFor now _ _ = _)
  omega

theorem secondsOfMillis_waitAt (hw : 0 < a.window) (hm : 0 ≤ a.margin) :
    secondsOfMillis (a.waitAt now) = none ↔ ¬ a.Fits now := by
  rw [secondsOfMillis_eq_none_iff (Int.le_of_lt (waitAt_pos hw hm)), Fits, Int.not_lt]

/-- A wait that fits has a number of seconds. -/
theorem Fits.exists_seconds (h : a.Fits now) (hw : 0 < a.window) (hm : 0 ≤ a.margin) :
    ∃ seconds, secondsOfMillis (a.waitAt now) = some seconds := by
  rw [← Option.ne_none_iff_exists', Ne, secondsOfMillis_waitAt hw hm, not_not]
  exact h

/-- A window and a margin below the limit together are enough. -/
theorem fits_of_le (hw : 0 < a.window) (hm : 0 ≤ a.margin)
    (h : a.window + a.margin < Alignment.waitLimit) : a.Fits now := by
  have := wait_le (waitFor_eq hw hm : waitFor now _ _ = _)
  unfold Fits
  omega

/-- A window from the limit on is too long to wait for from its start. -/
theorem not_fits_of_long (hlong : Alignment.waitLimit ≤ a.window) (hnow : now.fmod a.window ≤ a.margin) :
    ¬ a.Fits now := by
  unfold Fits waitAt
  omega

end Aligner

end RateIsolation
