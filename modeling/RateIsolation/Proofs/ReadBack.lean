/-
  Written bodies are read back from their bytes.

  * `Json.ofBytes_texts`: an object of texts, written without spaces in
    UTF-8, is read back member by member.
-/
import RateIsolation.Json.Body
import RateIsolation.Proofs.RoundTrip

namespace RateIsolation.Json

/-- The members of an object of texts. -/
def textMembers (ms : List (String × String)) : List (String × Json) :=
  ms.map fun m => (m.1, text m.2)

/-- The members after they were written to others one after another. -/
def withTexts (seen : List (WideText × Json)) (ms : List (String × String)) :
    List (WideText × Json) :=
  ms.foldl (fun t m => Table.set (.plain m.1) (text m.2) t) seen

theorem ofList_textMembers (ms : List (String × String)) :
    Table.ofList (plainMembers (textMembers ms)) = withTexts [] ms := by
  simp only [Table.ofList, plainMembers, textMembers, withTexts, List.foldl_map]

/-- An object of texts is read back from its characters. -/
theorem ofPoints_texts (room : Nat) (ms : List (String × String)) :
    ofPoints (some (room + 1)) ((chars compact 0 (record (textMembers ms))).map .char) =
      .ok (.obj (withTexts [] ms)) := by
  have hmember : ∀ m ∈ textMembers ms, Starts compact m.2 ∧ Reads compact (some room) m.2 := by
    intro m hm
    obtain ⟨t, -, rfl⟩ := List.mem_map.1 hm
    exact ⟨(Writable.text t.2).starts compact, reads_text t.2⟩
  have hskip : skipSpace ((chars compact 0 (record (textMembers ms))).map .char ++ []) = _ :=
    (starts_record compact _).skipSpace 0 []
  have hroom : enter (some (room + 1)) = some (some room) := rfl
  have hvalue := value_record separates_compact hroom hmember 0
    (2 * ((chars compact 0 (record (textMembers ms))).map Point.char).length + 2) []
    (by rw [List.length_map]; omega)
  rw [List.append_nil] at hskip hvalue
  rw [ofPoints, hskip, hvalue, ofList_textMembers]
  rfl

/-- An object of texts is read back from its bytes where there is room for one level. -/
theorem ofBytes_texts (room : Nat) (k v : String) (ms : List (String × String)) :
    ofBytes (room + 1) (utf8Bytes ((record (textMembers ((k, v) :: ms))).render compact)) =
      .ok (.obj (withTexts [] ((k, v) :: ms))) := by
  have hread := ofPoints_texts room ((k, v) :: ms)
  obtain ⟨cs, hcs⟩ : ∃ cs, chars compact 0 (record (textMembers ((k, v) :: ms))) =
      '\x7b' :: '"' :: cs := by
    simp only [textMembers, record, List.map_cons, chars]
    exact ⟨_, rfl⟩
  have hunits := Decoder.utf8_utf8Bytes true ('\x7b' :: '"' :: cs)
  rw [render, hcs]
  rw [hcs] at hread
  have hbytes : utf8Bytes (String.ofList ('\x7b' :: '"' :: cs)) =
      0x7b :: 0x22 :: cs.flatMap String.utf8EncodeChar := by
    rw [utf8Bytes_ofList]
    rfl
  have hpoints : bodyPoints? (utf8Bytes (String.ofList ('\x7b' :: '"' :: cs))) =
      some (('\x7b' :: '"' :: cs).map .char) := by
    have hutf8 (tail : List UInt8) : bodyPoints? (0x7b :: 0x22 :: tail) =
        Decoder.strict? (Decoder.utf8 true (0x7b :: 0x22 :: tail)) := by
      rcases tail with _ | ⟨_, _ | _⟩ <;> rfl
    have hmap : ('\x7b' :: '"' :: cs).map (fun c => Decoder.Unit.point (.char c)) =
      (('\x7b' :: '"' :: cs).map Point.char).map Decoder.Unit.point := by simp
    rw [hbytes, hutf8, ← hbytes, hunits, hmap]
    exact Decoder.strict?_points _
  rw [ofBytes, hpoints]
  simp only [hread]

end RateIsolation.Json
