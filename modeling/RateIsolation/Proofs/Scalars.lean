/-
  Strings and integers are read back from their written form.

  * `Json.stringBody_escapeChar`: a character, escaped or not, is read as itself;
  * `Json.stringTail_escape` and `Json.value_string`: a string between quotes,
    whatever it holds and whether it was written in ASCII or not, is read back;
  * `Json.Short`: the integers with no more digits than are read;
    `Json.number_intChars`: such an integer is read back up to what follows it, if
    that is no part of a number (`Json.Ends`).
-/
import RateIsolation.Json.Printer
import RateIsolation.Json.Reader
import RateIsolation.Proofs.Utf8

namespace RateIsolation.Json

/-! ## Escapes -/

theorem hexPoint?_hexDigit (n : Nat) : hexPoint? (.char (Text.hexDigit n)) = some (n % 16) := by
  have hall : ∀ d : Fin 16, Text.hexValue? (Nat.digitChar d) = some d.val := by decide
  exact hall ⟨n % 16, Nat.mod_lt _ (by omega)⟩

/-- Four digits are read as the number that they were written for. -/
theorem hexUnit_hexDigits {n : Nat} (h : n < 0x10000) (rest : List Point) :
    hexUnit ((Text.hexDigits 4 n).map .char ++ rest) = some (n, rest) := by
  simp only [Text.hexDigits, List.nil_append, List.cons_append, List.map_cons, List.map_nil, hexUnit,
    hexPoint?_hexDigit]
  congr 2
  omega

/-- The escape of a character of one unit. -/
theorem unicodeEscape_unit {c : Char} (h : c.toNat < 0x10000) (left : Nat) {rest : List Point}
    (hrest : rest ≠ []) :
    unicodeEscape left ((Text.hexDigits 4 c.toNat).map .char ++ rest) = .ok (.char c, rest) := by
  have hvalid : c.toNat < 0xd800 ∨ 0xdfff < c.toNat ∧ c.toNat < 0x110000 := c.valid
  have hhigh : isHighSurrogate c.toNat = false := by
    unfold isHighSurrogate
    simp
    omega
  rw [unicodeEscape, hexUnit_hexDigits h]
  cases rest with
  | nil => exact absurd rfl hrest
  | cons p rest => simp only [hhigh, Bool.false_eq_true, ↓reduceIte, Point.ofNat_toNat]

/-- The escape of a character past the first plane is a pair of units. -/
theorem unicodeEscape_pair {c : Char} (h : 0x10000 ≤ c.toNat) (left : Nat) {rest : List Point}
    (hrest : rest ≠ []) :
    unicodeEscape left ((Text.hexDigits 4 (0xd800 + (c.toNat - 0x10000) / 0x400)).map .char ++
        ((escapeUnit (0xdc00 + (c.toNat - 0x10000) % 0x400)).map .char ++ rest)) =
      .ok (.char c, rest) := by
  have hvalid : c.toNat < 0xd800 ∨ 0xdfff < c.toNat ∧ c.toNat < 0x110000 := c.valid
  have hpoint := Point.ofNat_toNat c
  generalize c.toNat = v at *
  have hhigh : isHighSurrogate (0xd800 + (v - 0x10000) / 0x400) = true := by
    unfold isHighSurrogate
    simp
    omega
  have hlow : isLowSurrogate (0xdc00 + (v - 0x10000) % 0x400) = true := by
    unfold isLowSurrogate
    simp
    omega
  have hjoin : joinPair (0xd800 + (v - 0x10000) / 0x400) (0xdc00 + (v - 0x10000) % 0x400) = v := by
    unfold joinPair
    omega
  have hlength : ¬ ((Text.hexDigits 4 (0xdc00 + (v - 0x10000) % 0x400)).map Point.char ++
      rest).length ≤ 4 := by
    have := List.length_pos_iff.2 hrest
    rw [List.length_append, List.length_map, Text.hexDigits_length]
    omega
  rw [unicodeEscape, hexUnit_hexDigits (by omega)]
  simp only [escapeUnit, List.map_cons, List.cons_append, hhigh, ↓reduceIte, hlength,
    hexUnit_hexDigits (show 0xdc00 + (v - 0x10000) % 0x400 < 0x10000 by omega), hlow, hjoin, hpoint]

/-- A character that is written as itself. -/
theorem stringBody_plain {c : Char} (hquote : c ≠ '"') (hback : c ≠ '\\') (hcontrol : 32 ≤ c.toNat)
    (start fuel : Nat) (seen rest : List Point) :
    stringBody start (fuel + 1) seen (.char c :: rest) =
      stringBody start fuel (.char c :: seen) rest := by
  have hnot : ¬ c.toNat < 32 := by omega
  rw [stringBody]
  · rw [if_neg hnot]
  · exact hquote
  · exact hback

/-- An escape is read as its code point. -/
theorem stringBody_escape {start : Nat} {ps rest : List Point} {p : Point}
    (h : escape start ps = .ok (p, rest)) (fuel : Nat) (seen : List Point) :
    stringBody start (fuel + 1) seen (.char '\\' :: ps) = stringBody start fuel (p :: seen) rest := by
  rw [stringBody, h]

theorem escape_u (start : Nat) (ps : List Point) :
    escape start (.char 'u' :: ps) = unicodeEscape (ps.length + 1) ps := rfl

/-- The escape of a character by its code is read as that character. -/
theorem stringBody_escapeCode (c : Char) (start fuel : Nat) (seen : List Point) {rest : List Point}
    (hrest : rest ≠ []) :
    stringBody start (fuel + 1) seen ((escapeCode c).map .char ++ rest) =
      stringBody start fuel (.char c :: seen) rest := by
  unfold escapeCode
  split
  · rename_i h
    refine stringBody_escape ?_ fuel seen
    exact (escape_u start _).trans (unicodeEscape_unit h _ hrest)
  · dsimp only
    rw [List.map_append, List.append_assoc]
    refine stringBody_escape ?_ fuel seen
    exact (escape_u start _).trans (unicodeEscape_pair (by omega) _ hrest)

/-- A character of a string, escaped or not, is read as itself. -/
theorem stringBody_escapeChar (ascii : Bool) (c : Char) (start fuel : Nat) (seen : List Point)
    {rest : List Point} (hrest : rest ≠ []) :
    stringBody start (fuel + 1) seen ((escapeChar ascii c).map .char ++ rest) =
      stringBody start fuel (.char c :: seen) rest := by
  -- the characters with an escape of two characters come first
  by_cases h₁ : c = '"'
  · subst h₁
    exact stringBody_escape rfl fuel seen
  by_cases h₂ : c = '\\'
  · subst h₂
    exact stringBody_escape rfl fuel seen
  by_cases h₃ : c = '\n'
  · subst h₃
    exact stringBody_escape rfl fuel seen
  by_cases h₄ : c = '\r'
  · subst h₄
    exact stringBody_escape rfl fuel seen
  by_cases h₅ : c = '\t'
  · subst h₅
    exact stringBody_escape rfl fuel seen
  by_cases h₆ : c = '\x08'
  · subst h₆
    exact stringBody_escape rfl fuel seen
  by_cases h₇ : c = '\x0c'
  · subst h₇
    exact stringBody_escape rfl fuel seen
  rw [escapeChar, if_neg h₁, if_neg h₂, if_neg h₃, if_neg h₄, if_neg h₅, if_neg h₆, if_neg h₇]
  by_cases hcontrol : c.toNat < 32
  · rw [if_pos hcontrol]
    exact stringBody_escapeCode c start fuel seen hrest
  rw [if_neg hcontrol]
  by_cases hascii : (ascii && 127 ≤ c.toNat) = true
  · rw [if_pos hascii]
    exact stringBody_escapeCode c start fuel seen hrest
  · rw [if_neg hascii]
    exact stringBody_plain h₁ h₂ (Nat.le_of_not_lt hcontrol) start fuel seen rest

/-! ## Strings -/

/-- The characters of a string up to its closing quote. -/
theorem stringBody_escapeText (ascii : Bool) (start : Nat) (cs : List Char) (fuel : Nat)
    (seen rest : List Point) (h : cs.length < fuel) :
    stringBody start fuel seen ((cs.flatMap (escapeChar ascii)).map .char ++ .char '"' :: rest) =
      .ok (.ofPoints (seen.reverse ++ cs.map .char), rest) := by
  induction cs generalizing fuel seen with
  | nil =>
    obtain ⟨fuel, rfl⟩ : ∃ n, fuel = n + 1 := ⟨fuel - 1, by omega⟩
    rw [List.flatMap_nil, List.map_nil, List.nil_append, stringBody, List.append_nil]
  | cons c cs ih =>
    rw [List.length_cons] at h
    obtain ⟨fuel, rfl⟩ : ∃ n, fuel = n + 1 := ⟨fuel - 1, by omega⟩
    rw [List.flatMap_cons, List.map_append, List.append_assoc,
      stringBody_escapeChar ascii c start fuel seen (by simp), ih fuel _ (by omega)]
    simp

theorem ite_ne_nil {α : Type} {p : Prop} [Decidable p] {as bs : List α} (ha : as ≠ []) (hb : bs ≠ []) :
    (if p then as else bs) ≠ [] := by
  by_cases h : p
  · rwa [if_pos h]
  · rwa [if_neg h]

/-- A character is written in one character or more. -/
theorem length_le_escape (ascii : Bool) (cs : List Char) :
    cs.length ≤ (cs.flatMap (escapeChar ascii)).length := by
  induction cs with
  | nil => exact Nat.le_refl _
  | cons c cs ih =>
    have hne : escapeChar ascii c ≠ [] := by
      unfold escapeChar escapeCode
      repeat' apply ite_ne_nil
      all_goals exact List.cons_ne_nil _ _
    have hlength := List.length_pos_iff.2 hne
    rw [List.flatMap_cons, List.length_append, List.length_cons]
    omega

/-- A written string is read back after its opening quote. -/
theorem stringTail_escape (ascii : Bool) (s : String) (rest : List Point) :
    stringTail ((escapeText ascii (.plain s)).map .char ++ .char '"' :: rest) =
      .ok (.plain s, rest) := by
  have hlength := length_le_escape ascii s.toList
  rw [stringTail, escapeText, stringBody_escapeText]
  · rw [List.reverse_nil, List.nil_append]
    exact congrArg (fun t => Except.ok (t, rest)) (WideText.ofPoints_ofString s)
  · rw [List.length_append, List.length_map, List.length_cons]
    omega

/-- A written string is read back. -/
theorem value_string (ascii : Bool) (fuel : Nat) (room : Option Nat) (s : String)
    (rest : List Point) :
    value (fuel + 1) room ((stringChars ascii (.plain s)).map .char ++ rest) =
      .ok (.text s, rest) := by
  have htail := stringTail_escape ascii s rest
  simp only [stringChars, List.map_cons, List.map_append, List.map_nil, List.cons_append,
    List.append_assoc, List.nil_append, value, htail, text]

/-! ## Integers -/

/-- No point of a number comes first. -/
def Ends (rest : List Point) : Prop :=
  ∀ c, rest.head? = some (.char c) → c.isDigit = false ∧ c ≠ '.' ∧ c ≠ 'e' ∧ c ≠ 'E'

/-- The digits of a natural number as numbers. -/
def digitsOf (n : Nat) : List Nat := (Nat.toDigits 10 n).map fun c => c.toNat - 48

theorem isDigit_iff {c : Char} : c.isDigit = true ↔ '0' ≤ c ∧ c ≤ '9' := by
  rw [Char.isDigit, Bool.and_eq_true, decide_eq_true_iff, decide_eq_true_iff]
  rfl

theorem asciiDigit?_of_isDigit {c : Char} (h : c.isDigit = true) :
    Text.asciiDigit? c = some (c.toNat - 48) :=
  if_pos (isDigit_iff.1 h)

theorem asciiDigit?_of_not_isDigit {c : Char} (h : c.isDigit = false) :
    Text.asciiDigit? c = none := by
  refine if_neg fun hdigit => ?_
  rw [isDigit_iff.2 hdigit] at h
  cases h

theorem ofDigits_digitsOf (n : Nat) : ofDigits (digitsOf n) = n := by
  have hread := Nat.ofDigitChars_toDigits (b := 10) (n := n) (by decide) (by decide)
  simp only [Nat.ofDigitChars, Nat.mul_comm 10] at hread
  rw [ofDigits, digitsOf, List.foldl_map]
  exact hread

theorem digitsOf_ne_nil (n : Nat) : digitsOf n ≠ [] := by
  rw [digitsOf, ne_eq, List.map_eq_nil_iff]
  exact Nat.toDigits_ne_nil

/-- The integer has no more digits than are read. -/
def Short (n : Int) : Prop := (Nat.toDigits 10 n.natAbs).length ≤ maxIntDigits

theorem short_of_lt {n : Int} {k : Nat} (hpos : 0 < k) (hk : k ≤ maxIntDigits)
    (h : n.natAbs < Nat.pow 10 k) : Short n :=
  Nat.le_trans ((Nat.length_toDigits_le_iff (by decide) hpos).2 h) hk

theorem Short.length_digitsOf {n : Int} (h : Short n) :
    (digitsOf n.natAbs).length ≤ maxIntDigits := by
  rw [digitsOf, List.length_map]
  exact h

/-- Only zero starts with a zero. -/
theorem head?_toDigits {n : Nat} (hn : 0 < n) : (Nat.toDigits 10 n).head? ≠ some '0' := by
  induction n using Nat.strongRecOn with
  | _ n ih =>
    by_cases hsmall : n < 10
    · have hall : ∀ d : Fin 10, 0 < d.val → d.val.digitChar ≠ '0' := by decide
      rw [Nat.toDigits_of_lt_base hsmall, List.head?_cons, ne_eq, Option.some.injEq]
      exact hall ⟨n, hsmall⟩ hn
    · have hfirst := ih (n / 10) (by omega) (by omega)
      have hsplit : Nat.toDigits 10 (n / 10) ++ Nat.toDigits 10 (n % 10) = Nat.toDigits 10 n := by
        rw [Nat.toDigits_append_toDigits (by decide) (by omega) (by omega), Nat.div_add_mod]
      obtain ⟨c, cs, hcs⟩ := List.exists_cons_of_ne_nil (Nat.toDigits_ne_nil (n := n / 10) (b := 10))
      rw [hcs] at hfirst
      rw [← hsplit, hcs]
      exact hfirst

theorem toDigits_eq_cons (n : Nat) :
    ∃ c cs, Nat.toDigits 10 n = c :: cs ∧ c.isDigit = true := by
  obtain ⟨c, cs, hcs⟩ := List.exists_cons_of_ne_nil (Nat.toDigits_ne_nil (n := n) (b := 10))
  refine ⟨c, cs, hcs, Nat.isDigit_of_mem_toDigits (b := 10) (n := n) (by decide) (by decide) ?_⟩
  rw [hcs]
  exact List.mem_cons_self

theorem ne_of_isDigit {c d : Char} (hc : c.isDigit = true) (hd : d.isDigit = false) : c ≠ d := by
  rintro rfl
  rw [hd] at hc
  cases hc

theorem takeDigits_of_ends {rest : List Point} (h : Ends rest) : takeDigits rest = ([], rest) := by
  match rest with
  | [] => rfl
  | .surrogate _ :: _ => rfl
  | .char c :: rest =>
    have hnone : digitPoint? (.char c) = none := asciiDigit?_of_not_isDigit (h c rfl).1
    rw [takeDigits, hnone]

theorem takeDigits_chars {cs : List Char} (hcs : ∀ c ∈ cs, c.isDigit = true) {rest : List Point}
    (h : Ends rest) :
    takeDigits (cs.map .char ++ rest) = (cs.map fun c => c.toNat - 48, rest) := by
  induction cs with
  | nil => exact takeDigits_of_ends h
  | cons c cs ih =>
    have hdigit : digitPoint? (.char c) = some (c.toNat - 48) :=
      asciiDigit?_of_isDigit (hcs c List.mem_cons_self)
    rw [List.map_cons, List.cons_append, takeDigits, hdigit,
      ih fun c hc => hcs c (List.mem_cons_of_mem _ hc)]
    rfl

theorem takeWhole_toDigits (n : Nat) {rest : List Point} (h : Ends rest) :
    takeWhole ((Nat.toDigits 10 n).map .char ++ rest) = (digitsOf n, rest) := by
  rcases Nat.eq_zero_or_pos n with rfl | hn
  · rfl
  · have hdigits := takeDigits_chars
      (fun c hc => Nat.isDigit_of_mem_toDigits (b := 10) (n := n) (by decide) (by decide) hc) h
    have hhead := head?_toDigits hn
    rw [takeWhole, hdigits, digitsOf]
    -- the first digit is no zero, so all of them are taken
    intro rest' hzero
    cases hcs : Nat.toDigits 10 n with
    | nil => exact Nat.toDigits_ne_nil hcs
    | cons c cs =>
      rw [hcs] at hzero hhead
      cases hzero
      exact hhead rfl

theorem takeFraction_of_ends {rest : List Point} (h : Ends rest) : takeFraction rest = none := by
  match rest with
  | [] => rfl
  | .surrogate _ :: _ => rfl
  | .char c :: rest =>
    rw [takeFraction]
    rintro rest' ⟨⟩
    exact (h '.' rfl).2.1 rfl

theorem takeExponent_of_ends {rest : List Point} (h : Ends rest) : takeExponent rest = none := by
  match rest with
  | [] => rfl
  | .surrogate _ :: _ => rfl
  | .char c :: rest =>
    rw [takeExponent]
    · rintro rest' ⟨⟩
      exact (h 'e' rfl).2.2.1 rfl
    · rintro rest' ⟨⟩
      exact (h 'E' rfl).2.2.2 rfl

/-- Digits do not start with a sign. -/
theorem toDigits_ne_minus (n : Nat) (rest rest' : List Point) :
    (Nat.toDigits 10 n).map Point.char ++ rest ≠ .char '-' :: rest' := by
  intro hminus
  obtain ⟨c, cs, hcs, hdigit⟩ := toDigits_eq_cons n
  rw [hcs] at hminus
  cases hminus
  cases hdigit

/-- An integer that is not too long is read back. -/
theorem number_intChars {n : Int} (hn : Short n) {rest : List Point} (h : Ends rest) :
    number ((intChars n).map .char ++ rest) = .ok (.int n, rest) := by
  have hwhole := takeWhole_toDigits n.natAbs h
  have hlength : ¬ (digitsOf n.natAbs).length > maxIntDigits := Nat.not_lt.2 hn.length_digitsOf
  have hvalue := ofDigits_digitsOf n.natAbs
  obtain ⟨d, ds, hds⟩ := List.exists_cons_of_ne_nil (digitsOf_ne_nil n.natAbs)
  rw [hds] at hwhole hlength hvalue
  unfold intChars
  split
  · rename_i hneg
    rw [List.map_cons, List.cons_append, number]
    simp only [hwhole, takeFraction_of_ends h, takeExponent_of_ends h, Bool.or_self,
      Bool.false_eq_true, ↓reduceIte, hlength, hvalue]
    congr 3
    omega
  · rename_i hneg
    rw [number]
    · simp only [hwhole, takeFraction_of_ends h, takeExponent_of_ends h, Bool.or_self,
        Bool.false_eq_true, ↓reduceIte, hlength, hvalue]
      congr 3
      omega
    · exact toDigits_ne_minus n.natAbs rest

end RateIsolation.Json
