/-
  Text in UTF-8 is read back.

  * `utf8Bytes_ofList`: the bytes of a text are those of its characters;
  * `Decoder.utf8Units_encode` reads one character, `Decoder.utf8_utf8Bytes` a
    text, whether surrogates are let through or not.
-/
import Mathlib.Tactic.SplitIfs
import RateIsolation.Text.Decoder

namespace RateIsolation

/-! ## The bytes of a text -/

theorem byteArray_toList_loop (bs : ByteArray) (i : Nat) (seen : List UInt8) :
    ByteArray.toList.loop bs i seen = seen.reverse ++ bs.data.toList.drop i := by
  fun_induction ByteArray.toList.loop bs i seen with
  | case1 i seen hi ih =>
    have hlength : i < bs.data.toList.length := by
      rw [Array.length_toList]
      exact hi
    have hbyte : bs.get! i = bs.data.toList[i] := getElem!_pos bs.data i hi
    rw [ih, List.drop_eq_getElem_cons hlength, ← hbyte, List.reverse_cons, List.append_assoc]
    rfl
  | case2 i seen hi =>
    have hlength : bs.data.toList.length ≤ i := by
      rw [Array.length_toList]
      exact Nat.le_of_not_lt hi
    rw [List.drop_eq_nil_of_le hlength, List.append_nil]

theorem byteArray_toList (bs : ByteArray) : bs.toList = bs.data.toList := by
  rw [ByteArray.toList, byteArray_toList_loop]
  rfl

/-- The bytes of a text are those of its characters one after another. -/
theorem utf8Bytes_ofList (cs : List Char) :
    utf8Bytes (String.ofList cs) = cs.flatMap String.utf8EncodeChar := by
  rw [utf8Bytes, byteArray_toList, String.toUTF8_eq_toByteArray, String.toByteArray_ofList,
    List.utf8Encode, List.toList_data_toByteArray]

/-! ## Characters read back -/

theorem Point.ofNat_toNat (c : Char) : Point.ofNat c.toNat = .char c := by
  have hvalid : c.toNat.isValidChar := c.valid
  rw [Point.ofNat, dif_pos hvalid]
  congr 1

namespace Decoder

/-- A byte within its bounds is taken. -/
theorem utf8Tail_cons {low high : Nat} {b : UInt8} (hlow : low ≤ b.toNat) (hhigh : b.toNat ≤ high)
    (count bits : Nat) (rest : List UInt8) :
    utf8Tail (count + 1) bits low high (b :: rest) =
      utf8Tail count (bits * 64 + (b.toNat - 0x80)) 0x80 0xbf rest :=
  if_pos ⟨hlow, hhigh⟩

/-- A lead byte and what its unit comes to. -/
theorem utf8Units_cons {surrogates : Bool} {b : UInt8} {bits count low high : Nat} {p : Point}
    {tail rest : List UInt8} (hlead : utf8Lead surrogates b.toNat = some (bits, count, low, high))
    (htail : utf8Tail count bits low high (tail ++ rest) = (.point p, rest)) (fuel : Nat) :
    utf8Units surrogates (fuel + 1) (b :: (tail ++ rest)) =
      .point p :: utf8Units surrogates fuel rest := by
  simp only [utf8Units, hlead, htail]

theorem toNat_ofNat_byte {n : Nat} (h : n < 256) : (UInt8.ofNat n).toNat = n := by
  rw [UInt8.toNat_ofNat']
  exact Nat.mod_eq_of_lt h

/-- The lead byte of a character that is written in three bytes admits its second. -/
theorem utf8Lead_three (surrogates : Bool) {v : Nat} (hlow : 0x800 ≤ v) (hhigh : v < 0x10000)
    (hvalid : v < 0xd800 ∨ 0xdfff < v) :
    ∃ low high, utf8Lead surrogates (v / 4096 + 0xe0) = some (v / 4096, 2, low, high) ∧
      low ≤ v / 64 % 64 + 0x80 ∧ v / 64 % 64 + 0x80 ≤ high := by
  unfold utf8Lead
  rw [if_neg (by omega), if_neg (by omega), if_neg (by omega)]
  by_cases h₁ : v / 4096 = 0
  · exact ⟨0xa0, 0xbf, by rw [h₁]; rfl, by omega, by omega⟩
  · rw [if_neg (by omega)]
    by_cases h₂ : v / 4096 = 0xd
    · refine ⟨0x80, if surrogates then 0xbf else 0x9f, by rw [h₂]; rfl, by omega, ?_⟩
      split <;> omega
    · rw [if_neg (by omega), if_pos (by omega), Nat.add_sub_cancel]
      exact ⟨0x80, 0xbf, rfl, by omega, by omega⟩

/-- The lead byte of a character that is written in four bytes admits its second. -/
theorem utf8Lead_four (surrogates : Bool) {v : Nat} (hlow : 0x10000 ≤ v) (hhigh : v < 0x110000) :
    ∃ low high, utf8Lead surrogates (v / 262144 + 0xf0) = some (v / 262144, 3, low, high) ∧
      low ≤ v / 4096 % 64 + 0x80 ∧ v / 4096 % 64 + 0x80 ≤ high := by
  unfold utf8Lead
  rw [if_neg (by omega), if_neg (by omega), if_neg (by omega), if_neg (by omega),
    if_neg (by omega), if_neg (by omega)]
  by_cases h₁ : v / 262144 = 0
  · exact ⟨0x90, 0xbf, by rw [h₁]; rfl, by omega, by omega⟩
  · rw [if_neg (by omega)]
    by_cases h₂ : v / 262144 = 4
    · exact ⟨0x80, 0x8f, by rw [h₂]; rfl, by omega, by omega⟩
    · rw [if_pos (by omega), Nat.add_sub_cancel]
      exact ⟨0x80, 0xbf, rfl, by omega, by omega⟩

/-- The bytes of a character are one unit. -/
theorem utf8Units_encode (surrogates : Bool) (fuel : Nat) (c : Char) (rest : List UInt8) :
    utf8Units surrogates (fuel + 1) (String.utf8EncodeChar c ++ rest) =
      .point (.char c) :: utf8Units surrogates fuel rest := by
  have hvalid : c.toNat < 0xd800 ∨ 0xdfff < c.toNat ∧ c.toNat < 0x110000 := c.valid
  have hpoint := Point.ofNat_toNat c
  unfold String.utf8EncodeChar
  dsimp only
  rw [show c.val.toNat = c.toNat from rfl]
  generalize c.toNat = v at *
  split_ifs with h₁ h₂ h₃
  · -- one byte
    have hlead : utf8Lead surrogates (UInt8.ofNat v).toNat = some (v, 0, 0x80, 0xbf) := by
      rw [toNat_ofNat_byte (by omega), utf8Lead, if_pos (by omega)]
    have htail : utf8Tail 0 v 0x80 0xbf ([] ++ rest) = (.point (.char c), rest) := by
      rw [utf8Tail, hpoint, List.nil_append]
    exact utf8Units_cons hlead htail fuel
  · -- two
    have hb₁ : (UInt8.ofNat (v % 0x40 + 0x80)).toNat = v % 64 + 0x80 :=
      toNat_ofNat_byte (by omega)
    have hlead : utf8Lead surrogates (UInt8.ofNat (v / 64 % 0x20 + 0xc0)).toNat =
        some (v / 64, 1, 0x80, 0xbf) := by
      rw [toNat_ofNat_byte (by omega), Nat.mod_eq_of_lt (by omega), utf8Lead, if_neg (by omega),
        if_neg (by omega), if_pos (by omega), Nat.add_sub_cancel]
    have htail : utf8Tail 1 (v / 64) 0x80 0xbf ([UInt8.ofNat (v % 0x40 + 0x80)] ++ rest) =
        (.point (.char c), rest) := by
      rw [List.singleton_append, utf8Tail_cons (by omega) (by omega), hb₁, utf8Tail,
        show v / 64 * 64 + (v % 64 + 0x80 - 0x80) = v by omega, hpoint]
    exact utf8Units_cons hlead htail fuel
  · -- three
    have hb₁ : (UInt8.ofNat (v / 64 % 0x40 + 0x80)).toNat = v / 64 % 64 + 0x80 :=
      toNat_ofNat_byte (by omega)
    have hb₂ : (UInt8.ofNat (v % 0x40 + 0x80)).toNat = v % 64 + 0x80 :=
      toNat_ofNat_byte (by omega)
    obtain ⟨low, high, hlead, hlow, hhigh⟩ :=
      utf8Lead_three surrogates (v := v) (by omega) (by omega) (by omega)
    have hb₀ : (UInt8.ofNat (v / 4096 % 0x10 + 0xe0)).toNat = v / 4096 + 0xe0 := by
      rw [toNat_ofNat_byte (by omega), Nat.mod_eq_of_lt (by omega)]
    rw [← hb₀] at hlead
    have htail : utf8Tail 2 (v / 4096) low high ([UInt8.ofNat (v / 64 % 0x40 + 0x80),
        UInt8.ofNat (v % 0x40 + 0x80)] ++ rest) = (.point (.char c), rest) := by
      rw [List.cons_append, List.singleton_append, utf8Tail_cons (by omega) (by omega),
        utf8Tail_cons (by omega) (by omega), hb₁, hb₂, utf8Tail,
        show (v / 4096 * 64 + (v / 64 % 64 + 0x80 - 0x80)) * 64 + (v % 64 + 0x80 - 0x80) = v by omega,
        hpoint]
    exact utf8Units_cons hlead htail fuel
  · -- four
    have hb₁ : (UInt8.ofNat (v / 4096 % 0x40 + 0x80)).toNat = v / 4096 % 64 + 0x80 :=
      toNat_ofNat_byte (by omega)
    have hb₂ : (UInt8.ofNat (v / 64 % 0x40 + 0x80)).toNat = v / 64 % 64 + 0x80 :=
      toNat_ofNat_byte (by omega)
    have hb₃ : (UInt8.ofNat (v % 0x40 + 0x80)).toNat = v % 64 + 0x80 :=
      toNat_ofNat_byte (by omega)
    obtain ⟨low, high, hlead, hlow, hhigh⟩ :=
      utf8Lead_four surrogates (v := v) (by omega) (by omega)
    have hb₀ : (UInt8.ofNat (v / 262144 % 0x08 + 0xf0)).toNat = v / 262144 + 0xf0 := by
      rw [toNat_ofNat_byte (by omega), Nat.mod_eq_of_lt (by omega)]
    rw [← hb₀] at hlead
    have htail : utf8Tail 3 (v / 262144) low high ([UInt8.ofNat (v / 4096 % 0x40 + 0x80),
        UInt8.ofNat (v / 64 % 0x40 + 0x80), UInt8.ofNat (v % 0x40 + 0x80)] ++ rest) =
        (.point (.char c), rest) := by
      rw [List.cons_append, List.cons_append, List.singleton_append,
        utf8Tail_cons (by omega) (by omega), utf8Tail_cons (by omega) (by omega),
        utf8Tail_cons (by omega) (by omega), hb₁, hb₂, hb₃, utf8Tail,
        show ((v / 262144 * 64 + (v / 4096 % 64 + 0x80 - 0x80)) * 64 +
          (v / 64 % 64 + 0x80 - 0x80)) * 64 + (v % 64 + 0x80 - 0x80) = v by omega, hpoint]
    exact utf8Units_cons hlead htail fuel

theorem utf8Units_flatMap_encode (surrogates : Bool) (cs : List Char) (fuel : Nat)
    (h : cs.length ≤ fuel) :
    utf8Units surrogates fuel (cs.flatMap String.utf8EncodeChar) =
      cs.map fun c => .point (.char c) := by
  induction cs generalizing fuel with
  | nil => cases fuel <;> rfl
  | cons c cs ih =>
    obtain ⟨fuel, rfl⟩ : ∃ n, fuel = n + 1 := ⟨fuel - 1, by simp at h; omega⟩
    rw [List.flatMap_cons, utf8Units_encode, ih fuel (by simpa using h), List.map_cons]

/-- A character is at least one byte. -/
theorem length_le_flatMap_encode (cs : List Char) :
    cs.length ≤ (cs.flatMap String.utf8EncodeChar).length := by
  induction cs with
  | nil => exact Nat.le_refl _
  | cons c cs ih =>
    have := c.utf8Size_pos
    rw [List.flatMap_cons, List.length_append, String.length_utf8EncodeChar, List.length_cons]
    omega

/-- The units of a text in UTF-8 are its characters. -/
theorem utf8_utf8Bytes (surrogates : Bool) (cs : List Char) :
    utf8 surrogates (utf8Bytes (String.ofList cs)) = cs.map fun c => .point (.char c) := by
  rw [utf8, utf8Bytes_ofList]
  exact utf8Units_flatMap_encode surrogates cs _ (length_le_flatMap_encode cs)

theorem strict?_points (ps : List Point) : strict? (ps.map Unit.point) = some ps := by
  induction ps with
  | nil => rfl
  | cons p ps ih => rw [List.map_cons, strict?, ih, Option.map_some]

end Decoder

end RateIsolation
