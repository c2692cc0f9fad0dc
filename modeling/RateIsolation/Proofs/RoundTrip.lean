/-
  Values are read back from their written form.

  * `Json.Writable` are the values that can be: no binary number is in them, no lone
    surrogate, no integer of more digits than are read, and no name twice in an object;
  * `Json.Style.Separates`: a form with a comma between items, a colon after names
    and white space besides;
  * `Json.Reads`: a value is read from its characters, up to what follows them;
    `Json.reads_arr` and `Json.reads_record`: so are lists and objects of such values;
  * `Json.Writable.ofString_render`: in every such form a writable value is read back
    from its text, also where white space follows it;
  * `Json.Writable.ascii_chars`: in a form in ASCII it has no other characters.
-/
import Mathlib.Data.List.Nodup
import RateIsolation.Proofs.Scalars

namespace RateIsolation.Json

/-! ## Words and numbers as values -/

/-- What starts with no quote, bracket or brace is a word or a number. -/
theorem value_word {c : Char} (hquote : c ≠ '"') (hlist : c ≠ '[') (hobject : c ≠ '\x7b') (fuel : Nat)
    (room : Option Nat) (rest : List Point) :
    value (fuel + 1) room (.char c :: rest) = wordOrNumber (.char c :: rest) := by
  rw [value]
  · rintro _ ⟨⟩
    exact hquote rfl
  · rintro _ ⟨⟩
    exact hlist rfl
  · rintro _ ⟨⟩
    exact hobject rfl

theorem afterWord_of_ne {c d : Char} (h : c ≠ d) (cs : List Char) (ps : List Point) :
    afterWord (c :: cs) (.char d :: ps) = none :=
  if_neg h

/-- What starts with a digit is no word, also after a sign. -/
theorem wordOrNumber_of_isDigit {c : Char} (hc : c.isDigit = true) (rest : List Point) :
    wordOrNumber (.char c :: rest) = number (.char c :: rest) ∧
      wordOrNumber (.char '-' :: .char c :: rest) = number (.char '-' :: .char c :: rest) := by
  have hnot (w : String) (d : Char) (cs : List Char) (hw : w.toList = d :: cs)
      (hd : d.isDigit = false) : afterWord w.toList (.char c :: rest) = none := by
    rw [hw]
    exact afterWord_of_ne (ne_of_isDigit hc hd).symm cs rest
  constructor
  · rw [wordOrNumber, hnot "null" _ _ rfl rfl, hnot "true" _ _ rfl rfl, hnot "false" _ _ rfl rfl,
      hnot "NaN" _ _ rfl rfl, hnot "Infinity" _ _ rfl rfl, hnot "-Infinity" _ _ rfl rfl]
  · have hinfinity : afterWord "-Infinity".toList (.char '-' :: .char c :: rest) = none :=
      hnot "Infinity" _ _ rfl rfl
    rw [wordOrNumber, hinfinity]
    rfl

/-! ## Values -/

/-- Where there is so much room, the value is read from its characters, at any level of their form,
    and what follows them is left. -/
def Reads (style : Style) (room : Option Nat) (v : Json) : Prop :=
  ∀ level fuel rest, (chars style level v).length < fuel → Ends rest →
    value fuel room ((chars style level v).map .char ++ rest) = .ok (v, rest)

section Reads

variable {style : Style} {room : Option Nat}

theorem reads_null : Reads style room .null := by
  intro level fuel rest hfuel _
  obtain ⟨fuel, rfl⟩ : ∃ n, fuel = n + 1 := ⟨fuel - 1, by omega⟩
  rw [chars]
  rfl

theorem reads_bool (b : Bool) : Reads style room (.bool b) := by
  intro level fuel rest hfuel _
  obtain ⟨fuel, rfl⟩ : ∃ n, fuel = n + 1 := ⟨fuel - 1, by omega⟩
  rw [chars]
  cases b <;> rfl

theorem reads_int {n : Int} (hn : Short n) : Reads style room (.int n) := by
  intro level fuel rest hfuel hrest
  obtain ⟨fuel, rfl⟩ : ∃ n, fuel = n + 1 := ⟨fuel - 1, by omega⟩
  have hnumber := number_intChars hn hrest
  obtain ⟨c, cs, hcs, hdigit⟩ := toDigits_eq_cons n.natAbs
  have hne (d : Char) (hd : d.isDigit = false) : c ≠ d := ne_of_isDigit hdigit hd
  obtain ⟨hplain, hsigned⟩ := wordOrNumber_of_isDigit hdigit (cs.map .char ++ rest)
  rw [chars]
  unfold intChars at hnumber ⊢
  rw [hcs] at hnumber ⊢
  split <;> rename_i hneg
  · rw [if_pos hneg] at hnumber
    exact (value_word (by decide) (by decide) (by decide) fuel room _).trans (hsigned.trans hnumber)
  · rw [if_neg hneg] at hnumber
    exact (value_word (hne _ rfl) (hne _ rfl) (hne _ rfl) fuel room _).trans (hplain.trans hnumber)

theorem reads_text (t : String) : Reads style room (.text t) := by
  intro level fuel rest hfuel _
  obtain ⟨fuel, rfl⟩ : ∃ n, fuel = n + 1 := ⟨fuel - 1, by omega⟩
  rw [text, chars]
  exact value_string style.ascii fuel room t rest

end Reads

/-! ## White space -/

/-- Between two items of a form stands a comma, and after a name a colon, with white space besides. -/
structure Style.Separates (style : Style) : Prop where
  items : ∃ gap, style.itemSeparator.toList = ',' :: gap ∧ ∀ c ∈ gap, isSpace (.char c) = true
  names : ∃ gap, style.keySeparator.toList = ':' :: gap ∧ ∀ c ∈ gap, isSpace (.char c) = true

theorem separates_compact : compact.Separates :=
  ⟨⟨[], rfl, nofun⟩, ⟨[], rfl, nofun⟩⟩

theorem separates_indented : indented.Separates :=
  ⟨⟨[], rfl, nofun⟩, ⟨[' '], rfl, List.forall_mem_singleton.2 rfl⟩⟩

theorem skipSpace_blanks {blanks : List Char} (h : ∀ c ∈ blanks, isSpace (.char c) = true)
    (rest : List Point) : skipSpace (blanks.map .char ++ rest) = skipSpace rest := by
  refine List.dropWhile_append_of_pos fun p hp => ?_
  obtain ⟨c, hc, rfl⟩ := List.mem_map.1 hp
  exact h c hc

theorem isSpace_lineBreak (style : Style) (level : Nat) :
    ∀ c ∈ lineBreak style level, isSpace (.char c) = true := by
  intro c hc
  unfold lineBreak at hc
  split at hc
  · cases hc
  · rcases List.mem_cons.1 hc with rfl | hc
    · rfl
    · rw [List.eq_of_mem_replicate hc]
      rfl

theorem skipSpace_lineBreak (style : Style) (level : Nat) (rest : List Point) :
    skipSpace ((lineBreak style level).map .char ++ rest) = skipSpace rest :=
  skipSpace_blanks (isSpace_lineBreak style level) rest

theorem skipSpace_char {c : Char} (h : isSpace (.char c) = false) (ps : List Point) :
    skipSpace (.char c :: ps) = .char c :: ps := by
  rw [skipSpace, List.dropWhile_cons, h]
  rfl

theorem ends_nil : Ends [] := nofun

theorem ends_char {c : Char} (h : c.isDigit = false ∧ c ≠ '.' ∧ c ≠ 'e' ∧ c ≠ 'E')
    (rest : List Point) : Ends (.char c :: rest) := by
  rintro _ ⟨⟩
  exact h

theorem isSpace_iff {c : Char} :
    isSpace (.char c) = true ↔ c = ' ' ∨ c = '\t' ∨ c = '\n' ∨ c = '\r' := by
  simp only [isSpace, Bool.or_eq_true, beq_iff_eq, or_assoc]

theorem ends_blanks {blanks : List Char} (h : ∀ c ∈ blanks, isSpace (.char c) = true) :
    Ends (blanks.map .char) := by
  cases blanks with
  | nil => exact ends_nil
  | cons c blanks =>
    refine ends_char ?_ _
    rcases isSpace_iff.1 (h c List.mem_cons_self) with rfl | rfl | rfl | rfl <;> decide

theorem ends_lineBreak (style : Style) (level : Nat) {c : Char}
    (h : c.isDigit = false ∧ c ≠ '.' ∧ c ≠ 'e' ∧ c ≠ 'E') (rest : List Point) :
    Ends ((lineBreak style level).map .char ++ .char c :: rest) := by
  unfold lineBreak
  split
  · exact ends_char h rest
  · exact ends_char (by decide) _

/-- A value does not start with white space, and not as a list is closed. -/
def Starts (style : Style) (v : Json) : Prop :=
  ∀ level, ∃ c cs, chars style level v = c :: cs ∧ isSpace (.char c) = false ∧ c ≠ ']'

theorem starts_int (style : Style) (n : Int) : Starts style (.int n) := by
  intro level
  rw [chars, intChars]
  split
  · exact ⟨_, _, rfl, by decide⟩
  · obtain ⟨c, cs, hcs, hdigit⟩ := toDigits_eq_cons n.natAbs
    have hne (d : Char) (hd : d.isDigit = false) : c ≠ d := ne_of_isDigit hdigit hd
    refine ⟨c, cs, hcs, ?_, hne _ rfl⟩
    simp [isSpace, hne ' ' rfl, hne '\t' rfl, hne '\n' rfl, hne '\r' rfl]

theorem starts_arr (style : Style) (vs : List Json) : Starts style (.arr vs) := by
  intro level
  cases vs <;> rw [chars] <;> exact ⟨_, _, rfl, by decide⟩

theorem starts_record (style : Style) (ms : List (String × Json)) : Starts style (record ms) := by
  intro level
  cases ms <;> simp only [record, List.map_nil, List.map_cons, chars] <;>
    exact ⟨_, _, rfl, by decide⟩

section Nested

variable {style : Style} {room inner : Option Nat}

theorem Starts.skipSpace {v : Json} (h : Starts style v) (level : Nat) (rest : List Point) :
    skipSpace ((chars style level v).map .char ++ rest) =
      (chars style level v).map .char ++ rest := by
  obtain ⟨c, cs, hcs, hspace, -⟩ := h level
  rw [hcs]
  exact skipSpace_char hspace _

/-! ## Lists -/

/-- What stands after an item of a list. -/
def afterItem (style : Style) (level close : Nat) (vs : List Json) (rest : List Point) : List Point :=
  (itemChars style level vs).map .char ++ ((lineBreak style close).map .char ++ .char ']' :: rest)

theorem ends_afterItem (hstyle : style.Separates) (level close : Nat) (vs : List Json)
    (rest : List Point) : Ends (afterItem style level close vs rest) := by
  cases vs with
  | nil =>
    rw [afterItem, itemChars]
    exact ends_lineBreak style close (by decide) rest
  | cons v vs =>
    obtain ⟨gap, hgap, -⟩ := hstyle.items
    rw [afterItem, itemChars, separator, hgap]
    exact ends_char (by decide) _

/-- The items of a list are read one after another. -/
theorem items_chars (hstyle : style.Separates) (level close : Nat) (v : Json) (vs : List Json)
    (h : ∀ u ∈ v :: vs, Starts style u ∧ Reads style inner u) (fuel : Nat) (seen : List Json)
    (rest : List Point)
    (hfuel : (chars style level v).length + (itemChars style level vs).length + 1 < fuel) :
    items fuel inner seen ((chars style level v).map .char ++ afterItem style level close vs rest) =
      .ok (.arr (seen.reverse ++ v :: vs), rest) := by
  induction vs generalizing v fuel seen with
  | nil =>
    obtain ⟨fuel, rfl⟩ : ∃ n, fuel = n + 1 := ⟨fuel - 1, by omega⟩
    have hvalue := (h v List.mem_cons_self).2 level fuel (afterItem style level close [] rest)
      (by omega) (ends_afterItem hstyle level close [] rest)
    have hclose : skipSpace (afterItem style level close [] rest) = .char ']' :: rest := by
      rw [afterItem, itemChars, List.map_nil, List.nil_append, skipSpace_lineBreak]
      exact skipSpace_char rfl rest
    rw [items, hvalue]
    simp only [hclose, List.reverse_cons]
  | cons u vs ih =>
    obtain ⟨fuel, rfl⟩ : ∃ n, fuel = n + 1 := ⟨fuel - 1, by omega⟩
    obtain ⟨gap, hgap, hblanks⟩ := hstyle.items
    have hchars : itemChars style level (u :: vs) =
        ',' :: (gap ++ lineBreak style level ++ chars style level u ++ itemChars style level vs) := by
      rw [itemChars, separator, hgap]
      simp
    have hlength := congrArg List.length hchars
    simp only [List.length_cons, List.length_append] at hlength
    have hvalue := (h v List.mem_cons_self).2 level fuel (afterItem style level close (u :: vs) rest)
      (by omega) (ends_afterItem hstyle level close (u :: vs) rest)
    have hrest := fun w hw => h w (List.mem_cons_of_mem v hw)
    have hnext : skipSpace (afterItem style level close (u :: vs) rest) = .char ',' ::
        (gap.map .char ++ ((lineBreak style level).map .char ++ ((chars style level u).map .char ++
          afterItem style level close vs rest))) := by
      rw [afterItem, hchars, List.map_cons, List.cons_append, skipSpace_char rfl]
      simp [afterItem]
    rw [items, hvalue]
    simp only [hnext]
    rw [skipSpace_blanks hblanks, skipSpace_lineBreak,
      (hrest u List.mem_cons_self).1.skipSpace, ih u hrest fuel (v :: seen) (by omega)]
    simp

/-- A list is read where there is room for its items. -/
theorem reads_arr (hstyle : style.Separates) (hroom : enter room = some inner) {vs : List Json}
    (h : ∀ v ∈ vs, Starts style v ∧ Reads style inner v) : Reads style room (.arr vs) := by
  intro level fuel rest hfuel hrest
  obtain ⟨fuel, rfl⟩ : ∃ n, fuel = n + 1 := ⟨fuel - 1, by omega⟩
  cases vs with
  | nil =>
    rw [chars]
    simp only [List.map_cons, List.cons_append, value, hroom]
    rfl
  | cons v vs =>
    have hstart := (h v List.mem_cons_self).1
    have hchars : (chars style level (.arr (v :: vs))).map Point.char ++ rest = .char '[' ::
        ((lineBreak style (level + 1)).map .char ++ ((chars style (level + 1) v).map .char ++
          afterItem style (level + 1) level vs rest)) := by
      rw [chars]
      simp [afterItem]
    have hskip : skipSpace ((lineBreak style (level + 1)).map .char ++
        ((chars style (level + 1) v).map .char ++ afterItem style (level + 1) level vs rest)) =
        (chars style (level + 1) v).map .char ++ afterItem style (level + 1) level vs rest := by
      rw [skipSpace_lineBreak, hstart.skipSpace]
    rw [chars] at hfuel
    simp only [List.length_cons, List.length_append] at hfuel
    have hitems := items_chars hstyle (level + 1) level v vs h fuel [] rest (by omega)
    obtain ⟨c, cs, hcs, -, hne⟩ := hstart (level + 1)
    rw [hchars, value, hroom]
    dsimp only
    rw [hskip]
    rw [hcs] at hitems ⊢
    split
    · rename_i heq
      cases heq
      exact absurd rfl hne
    · exact hitems

/-! ## Objects -/

/-- Members with ordinary names. -/
def plainMembers (ms : List (String × Json)) : List (WideText × Json) :=
  ms.map fun (k, v) => (.plain k, v)

/-- What stands after a member of an object. -/
def afterMember (style : Style) (level close : Nat) (ms : List (String × Json))
    (rest : List Point) : List Point :=
  (memberChars style level (plainMembers ms)).map .char ++
    ((lineBreak style close).map .char ++ .char '\x7d' :: rest)

theorem ends_afterMember (hstyle : style.Separates) (level close : Nat) (ms : List (String × Json))
    (rest : List Point) : Ends (afterMember style level close ms rest) := by
  cases ms with
  | nil =>
    rw [afterMember, plainMembers, List.map_nil, memberChars]
    exact ends_lineBreak style close (by decide) rest
  | cons m ms =>
    obtain ⟨gap, hgap, -⟩ := hstyle.items
    rw [afterMember, plainMembers, List.map_cons, memberChars, separator, hgap]
    exact ends_char (by decide) _

/-- The characters of a member: its name, a colon and its value. -/
def memberText (style : Style) (level : Nat) (k : String) (v : Json) : List Char :=
  stringChars style.ascii (.plain k) ++ style.keySeparator.toList ++ chars style level v

/-- The members of an object are read one after another; the later of two with one name counts. -/
theorem members_chars (hstyle : style.Separates) (level close : Nat) (m : String × Json)
    (ms : List (String × Json)) (h : ∀ u ∈ m :: ms, Starts style u.2 ∧ Reads style inner u.2) (fuel : Nat)
    (seen : List (WideText × Json)) (rest : List Point)
    (hfuel : (memberText style level m.1 m.2).length +
      (memberChars style level (plainMembers ms)).length + 1 < fuel) :
    members fuel inner seen ((memberText style level m.1 m.2).map .char ++
        afterMember style level close ms rest) =
      .ok (.obj ((plainMembers (m :: ms)).foldl (fun t e => Table.set e.1 e.2 t) seen), rest) := by
  obtain ⟨gap, hgap, hblanks⟩ := hstyle.names
  -- what is read of one member, before it is known what follows
  have hone (m : String × Json) (hm : Starts style m.2 ∧ Reads style inner m.2) (fuel : Nat)
      (next : List Point) (hnext : Ends next) (hfuel : (memberText style level m.1 m.2).length < fuel) :
      ∃ tail, (memberText style level m.1 m.2).map .char ++ next = .char '"' :: tail ∧
        ∃ afterName, stringTail tail = .ok (.plain m.1, .char ':' :: afterName) ∧
          value fuel inner (skipSpace afterName) = .ok (m.2, next) := by
    refine ⟨(escapeText style.ascii (.plain m.1)).map .char ++ .char '"' :: .char ':' ::
      (gap.map .char ++ ((chars style level m.2).map .char ++ next)), ?_, _,
      stringTail_escape style.ascii m.1 _, ?_⟩
    · simp [memberText, stringChars, hgap]
    · rw [skipSpace_blanks hblanks, hm.1.skipSpace]
      refine hm.2 level fuel next ?_ hnext
      simp only [memberText, List.length_append] at hfuel
      omega
  induction ms generalizing m fuel seen with
  | nil =>
    obtain ⟨fuel, rfl⟩ : ∃ n, fuel = n + 1 := ⟨fuel - 1, by omega⟩
    obtain ⟨tail, htail, afterName, hname, hvalue⟩ := hone m (h m List.mem_cons_self) fuel
      (afterMember style level close [] rest) (ends_afterMember hstyle level close [] rest) (by omega)
    have hcolon : skipSpace (.char ':' :: afterName) = .char ':' :: afterName := skipSpace_char rfl _
    have hclose : skipSpace (afterMember style level close [] rest) = .char '\x7d' :: rest := by
      rw [afterMember, plainMembers, List.map_nil, memberChars, List.map_nil, List.nil_append,
        skipSpace_lineBreak]
      exact skipSpace_char rfl rest
    rw [htail, members, hname]
    simp only [hcolon, hvalue, hclose]
    rfl
  | cons u ms ih =>
    obtain ⟨fuel, rfl⟩ : ∃ n, fuel = n + 1 := ⟨fuel - 1, by omega⟩
    obtain ⟨comma, hcomma, hspace⟩ := hstyle.items
    have hchars : memberChars style level (plainMembers (u :: ms)) = ',' :: (comma ++
        lineBreak style level ++ memberText style level u.1 u.2 ++
          memberChars style level (plainMembers ms)) := by
      rw [plainMembers, List.map_cons, memberChars, separator, hcomma]
      simp [memberText, plainMembers]
    have hlength := congrArg List.length hchars
    simp only [List.length_cons, List.length_append] at hlength
    obtain ⟨tail, htail, afterName, hname, hvalue⟩ := hone m (h m List.mem_cons_self) fuel
      (afterMember style level close (u :: ms) rest)
      (ends_afterMember hstyle level close (u :: ms) rest) (by omega)
    have hcolon : skipSpace (.char ':' :: afterName) = .char ':' :: afterName := skipSpace_char rfl _
    have hnext : skipSpace (afterMember style level close (u :: ms) rest) = .char ',' ::
        (comma.map .char ++ ((lineBreak style level).map .char ++
          ((memberText style level u.1 u.2).map .char ++ afterMember style level close ms rest))) := by
      rw [afterMember, hchars, List.map_cons, List.cons_append, skipSpace_char rfl]
      simp [afterMember]
    have hquote : skipSpace ((memberText style level u.1 u.2).map .char ++
        afterMember style level close ms rest) = (memberText style level u.1 u.2).map .char ++
        afterMember style level close ms rest := skipSpace_char rfl _
    rw [htail, members, hname]
    simp only [hcolon, hvalue, hnext]
    rw [skipSpace_blanks hspace, skipSpace_lineBreak, hquote,
      ih u (fun w hw => h w (List.mem_cons_of_mem m hw)) fuel _ (by omega)]
    rfl

/-- An object is read back; the later of two members with one name counts. -/
theorem value_record (hstyle : style.Separates) (hroom : enter room = some inner)
    {ms : List (String × Json)} (h : ∀ m ∈ ms, Starts style m.2 ∧ Reads style inner m.2)
    (level fuel : Nat) (rest : List Point) (hfuel : (chars style level (record ms)).length < fuel) :
    value fuel room ((chars style level (record ms)).map .char ++ rest) =
      .ok (.obj (Table.ofList (plainMembers ms)), rest) := by
  obtain ⟨fuel, rfl⟩ : ∃ n, fuel = n + 1 := ⟨fuel - 1, by omega⟩
  cases ms with
  | nil =>
    rw [record, List.map_nil, chars]
    simp only [List.map_cons, List.cons_append, value, hroom]
    rfl
  | cons m ms =>
    have hchars : chars style level (record (m :: ms)) = '\x7b' :: (lineBreak style (level + 1) ++
        memberText style (level + 1) m.1 m.2 ++
          memberChars style (level + 1) (plainMembers ms) ++ lineBreak style level ++ ['\x7d']) := by
      rw [record, List.map_cons, chars]
      simp [memberText, plainMembers]
    have hpoints : (chars style level (record (m :: ms))).map Point.char ++ rest = .char '\x7b' ::
        ((lineBreak style (level + 1)).map .char ++ ((memberText style (level + 1) m.1 m.2).map .char ++
          afterMember style (level + 1) level ms rest)) := by
      rw [hchars]
      simp [afterMember]
    have hquote : skipSpace ((memberText style (level + 1) m.1 m.2).map .char ++
        afterMember style (level + 1) level ms rest) =
        (memberText style (level + 1) m.1 m.2).map .char ++
          afterMember style (level + 1) level ms rest := skipSpace_char rfl _
    rw [hchars] at hfuel
    simp only [List.length_cons, List.length_append] at hfuel
    rw [hpoints, value, hroom]
    dsimp only
    rw [skipSpace_lineBreak, hquote]
    exact members_chars hstyle (level + 1) level m ms h fuel [] rest (by omega)

theorem reads_record (hstyle : style.Separates) (hroom : enter room = some inner)
    {ms : List (String × Json)} (hnames : (ms.map (·.1)).Nodup)
    (h : ∀ m ∈ ms, Starts style m.2 ∧ Reads style inner m.2) : Reads style room (record ms) := by
  intro level fuel rest hfuel _
  have hplain : ((plainMembers ms).map (·.1)).Nodup := by
    rw [plainMembers, List.map_map]
    have hmap := hnames.map (f := WideText.plain) fun _ _ h => WideText.plain.inj h
    rwa [List.map_map] at hmap
  rw [value_record hstyle hroom h level fuel rest hfuel, Table.ofList_of_nodup hplain]
  rfl

end Nested

/-! ## Writable values -/

/-- What can be written and read back. -/
inductive Writable : Json → Prop
  | null : Writable .null
  | bool (b : Bool) : Writable (.bool b)
  | int {n : Int} (h : Short n) : Writable (.int n)
  | text (t : String) : Writable (.text t)
  | arr {vs : List Json} (h : ∀ v ∈ vs, Writable v) : Writable (.arr vs)
  /-- An object has no name twice. -/
  | record {ms : List (String × Json)} (hnames : (ms.map (·.1)).Nodup)
    (h : ∀ m ∈ ms, Writable m.2) : Writable (.record ms)

theorem Writable.starts {v : Json} (h : Writable v) (style : Style) : Starts style v := by
  cases h with
  | null => exact fun level => ⟨_, _, by rw [chars]; rfl, by decide⟩
  | bool b => cases b <;> exact fun level => ⟨_, _, by rw [chars]; rfl, by decide⟩
  | int => exact starts_int style _
  | text t => exact fun level => ⟨_, _, by rw [Json.text, chars]; rfl, by decide⟩
  | arr => exact starts_arr style _
  | record => exact starts_record style _

/-- **A writable value is read back from its characters**, in every form and at every level. -/
theorem Writable.reads {v : Json} (h : Writable v) {style : Style} (hstyle : style.Separates) :
    Reads style none v := by
  induction h with
  | null => exact reads_null
  | bool b => exact reads_bool b
  | int hn => exact reads_int hn
  | text t => exact reads_text t
  | arr h ih => exact reads_arr hstyle rfl fun v hv => ⟨(h v hv).starts style, ih v hv⟩
  | record hnames h ih =>
    exact reads_record hstyle rfl hnames fun m hm => ⟨(h m hm).starts style, ih m hm⟩

/-- **A writable value is read back from its text**, also with white space after it. -/
theorem Writable.ofString_render {v : Json} (h : Writable v) {style : Style}
    (hstyle : style.Separates) {blanks : String}
    (hblanks : ∀ c ∈ blanks.toList, isSpace (.char c) = true) :
    ofString (v.render style ++ blanks) = .ok v := by
  have hpoints : Point.ofString (v.render style ++ blanks) =
      (chars style 0 v).map .char ++ blanks.toList.map .char := by
    rw [Point.ofString, String.toList_append, render, String.toList_ofList, List.map_append]
  have hrest : skipSpace (blanks.toList.map .char) = [] := by
    rw [← List.append_nil (blanks.toList.map Point.char), skipSpace_blanks hblanks]
    rfl
  have hvalue := h.reads hstyle 0 (2 * ((chars style 0 v).map Point.char ++
    blanks.toList.map Point.char).length + 2) (blanks.toList.map .char) (by simp; omega)
    (ends_blanks hblanks)
  rw [ofString, hpoints, ofPoints, (h.starts style).skipSpace, hvalue]
  simp only [hrest]

/-! ## Characters of the form in ASCII -/

/-- All characters are ASCII. -/
def Ascii (cs : List Char) : Prop := ∀ c ∈ cs, c.toNat < 128

theorem ascii_cons {c : Char} {cs : List Char} (hc : c.toNat < 128) (hcs : Ascii cs) :
    Ascii (c :: cs) :=
  List.forall_mem_cons.2 ⟨hc, hcs⟩

theorem Ascii.append {cs ds : List Char} (hcs : Ascii cs) (hds : Ascii ds) : Ascii (cs ++ ds) :=
  List.forall_mem_append.2 ⟨hcs, hds⟩

theorem ascii_nil : Ascii [] := fun _ h => absurd h List.not_mem_nil

theorem ascii_of_all {cs : List Char} (h : cs.all (fun c => decide (c.toNat < 128)) = true) :
    Ascii cs :=
  fun c hc => of_decide_eq_true (List.all_eq_true.1 h c hc)

theorem ascii_hexDigits (width n : Nat) : Ascii (Text.hexDigits width n) := by
  have hall : ∀ d : Fin 16, (Nat.digitChar d.val).toNat < 128 := by decide
  induction width generalizing n with
  | zero => exact ascii_nil
  | succ width ih => exact (ih _).append (ascii_cons (hall ⟨n % 16, Nat.mod_lt _ (by decide)⟩) ascii_nil)

theorem ascii_escapeUnit (n : Nat) : Ascii (escapeUnit n) :=
  ascii_cons (by decide) (ascii_cons (by decide) (ascii_hexDigits 4 n))

theorem ascii_escapeChar (c : Char) : Ascii (escapeChar true c) := by
  have hcode : Ascii (escapeCode c) := by
    unfold escapeCode
    split
    · exact ascii_escapeUnit _
    · exact (ascii_escapeUnit _).append (ascii_escapeUnit _)
  unfold escapeChar
  repeat' split
  all_goals first | exact hcode | skip
  case isFalse h =>
    simp only [Bool.true_and, decide_eq_true_eq] at h
    exact ascii_cons (by omega) ascii_nil
  all_goals exact ascii_cons (by decide) (ascii_cons (by decide) ascii_nil)

theorem ascii_stringChars (t : String) : Ascii (stringChars true (.plain t)) := by
  refine ascii_cons (by decide) (Ascii.append ?_ (ascii_cons (by decide) ascii_nil))
  intro d hd
  obtain ⟨c, -, hd⟩ := List.mem_flatMap.1 hd
  exact ascii_escapeChar c d hd

theorem ascii_intChars (n : Int) : Ascii (intChars n) := by
  have hdigits : Ascii (Nat.toDigits 10 n.natAbs) := by
    intro c hc
    have hdigit := isDigit_iff.1 (Nat.isDigit_of_mem_toDigits (by decide) (by decide) hc)
    exact Nat.lt_of_le_of_lt hdigit.2 (by decide)
  unfold intChars
  split
  · exact ascii_cons (by decide) hdigits
  · exact hdigits

theorem ascii_blanks {blanks : List Char} (h : ∀ c ∈ blanks, isSpace (.char c) = true) :
    Ascii blanks := by
  intro c hc
  rcases isSpace_iff.1 (h c hc) with rfl | rfl | rfl | rfl <;> decide

/-- **A writable value has only ASCII characters in a form in ASCII.** -/
theorem Writable.ascii_chars {v : Json} (h : Writable v) {style : Style} (hstyle : style.Separates)
    (hascii : style.ascii = true) (level : Nat) : Ascii (chars style level v) := by
  obtain ⟨⟨comma, hcomma, hgap⟩, ⟨colon, hcolon, hgap'⟩⟩ := hstyle
  have hbreak (level : Nat) : Ascii (lineBreak style level) :=
    ascii_blanks (isSpace_lineBreak style level)
  have hsep (level : Nat) : Ascii (separator style level) := by
    rw [separator, hcomma]
    exact (ascii_cons (by decide) (ascii_blanks hgap)).append (hbreak level)
  have hname (k : String) : Ascii (stringChars style.ascii (.plain k) ++ style.keySeparator.toList) := by
    rw [hascii, hcolon]
    exact (ascii_stringChars k).append (ascii_cons (by decide) (ascii_blanks hgap'))
  induction h generalizing level with
  | null => rw [chars]; exact ascii_of_all rfl
  | bool b => rw [chars]; cases b <;> exact ascii_of_all rfl
  | int => rw [chars]; exact ascii_intChars _
  | text t => rw [Json.text, chars, hascii]; exact ascii_stringChars t
  | @arr vs _ ih =>
    have hitems (level : Nat) (vs : List Json) (hvs : ∀ v ∈ vs, ∀ level, Ascii (chars style level v)) :
        Ascii (itemChars style level vs) := by
      induction vs with
      | nil => rw [itemChars]; exact ascii_nil
      | cons v vs ih =>
        rw [itemChars]
        exact ((hsep level).append (hvs v List.mem_cons_self level)).append
          (ih fun u hu => hvs u (List.mem_cons_of_mem v hu))
    cases vs with
    | nil => rw [chars]; exact ascii_of_all rfl
    | cons v vs =>
      rw [chars]
      refine ascii_cons (by decide) ((((Ascii.append (hbreak _) ?_).append ?_).append
        (hbreak _)).append (ascii_cons (by decide) ascii_nil))
      · exact ih v List.mem_cons_self _
      · exact hitems _ vs fun u hu => ih u (List.mem_cons_of_mem v hu)
  | @record ms _ _ ih =>
    have hmembers (level : Nat) (ms : List (String × Json))
        (hms : ∀ m ∈ ms, ∀ level, Ascii (chars style level m.2)) :
        Ascii (memberChars style level (plainMembers ms)) := by
      induction ms with
      | nil => rw [plainMembers, List.map_nil, memberChars]; exact ascii_nil
      | cons m ms ih =>
        rw [plainMembers, List.map_cons, memberChars, List.append_assoc (separator style level)]
        exact (((hsep level).append (hname m.1)).append (hms m List.mem_cons_self level)).append
          (ih fun u hu => hms u (List.mem_cons_of_mem m hu))
    cases ms with
    | nil => rw [Json.record, List.map_nil, chars]; exact ascii_of_all rfl
    | cons m ms =>
      rw [Json.record, List.map_cons, chars, List.append_assoc (lineBreak style (level + 1))]
      refine ascii_cons (by decide) (((((hbreak _).append (hname m.1)).append ?_).append ?_).append
        (hbreak _) |>.append (ascii_cons (by decide) ascii_nil))
      · exact ih m List.mem_cons_self _
      · exact hmembers _ ms fun u hu => ih u (List.mem_cons_of_mem m hu)

end RateIsolation.Json
