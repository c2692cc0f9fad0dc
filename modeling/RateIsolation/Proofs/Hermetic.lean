/-
  What the environment can do to the settings of a fixture.

  * `Settings.load_congr`: only what is found for each setting matters;
  * `Sources.environment?_eq_none`: a setting is not found in an environment that
    has none of its names, in any case;
  * `Settings.Hermetic names`: an environment without these names does nothing to a
    fixture; `Settings.fixtureNames` are the names under which the settings of a
    fixture are looked up;
  * `Settings.hermetic_iff`: the first holds of the lists that have all of the
    second. `clearedNames` has the names of settings in the environment and not
    their own, and so is not hermetic (`Settings.not_hermetic_clearedNames`).
-/
import RateIsolation.Settings.Basic

namespace RateIsolation

/-! ## Sources -/

namespace Sources

/-- A name that is that of no entry, in any case, is not found. -/
theorem get?_byLowerName_eq_none {α : Type} {n : String} {entries : List (String × α)}
    (h : ∀ e ∈ entries, Text.toAsciiLower e.1 ≠ n) : Table.get? n (byLowerName entries) = none := by
  refine Table.get?_foldl_set_of_ne _ ?_ []
  simp only [List.mem_map]
  rintro _ ⟨e, he, rfl⟩
  exact h e he

/-- An environment in which no name is that of the setting, in any case, leaves it alone. -/
theorem environment?_eq_none {s : Sources} {f : Setting}
    (h : ∀ e ∈ s.environment, ∀ n ∈ f.envNames, Text.toAsciiLower e.1 ≠ n) :
    s.environment? f = none := by
  rw [environment?, lookup, List.findSome?_eq_none_iff]
  intro n hn
  rw [get?_byLowerName_eq_none]
  · rfl
  · simp only [List.mem_map]
    rintro _ ⟨e, he, rfl⟩
    exact h e he n hn

/-- Where there is an override, no other source is asked. -/
theorem find?_of_override? {s : Sources} {f : Setting} {found : Found}
    (h : s.override? f = some found) : s.find? f = some found := by
  rw [find?, h]

end Sources

namespace Settings

theorem value_congr {α β : Type} {s s' : Sources} {f : Setting} (h : s.find? f = s'.find? f)
    (read : Json → Except ValueFault α) (check : α → Except ValueFault β) (default : β) :
    value s f read check default = value s' f read check default := by
  rw [value, value, h]

/-- Settings are made of what is found for each of them. -/
theorem load_congr {s s' : Sources} (h : ∀ f ∈ Setting.all, s.find? f = s'.find? f) :
    load s = load s' := by
  have happ {α β : Type} {f f' : Checked (α → β)} {x x' : Checked α} (hf : f = f') (hx : x = x') :
      Checked.app f x = Checked.app f' x' := by
    rw [hf, hx]
  unfold load
  -- one value after another, the last one first
  repeat' refine happ ?_ (value_congr (h _ (by decide)) _ _ _)
  rfl

/-! ## Fixtures -/

/-- Where the settings of a fixture come from. -/
def fixtureSources (overrides : Table String Json) (environment : List (String × String)) :
    Sources where
  overrides := overrides.foldl (fun t e => Table.set e.1 e.2 t)
    [("api_base_url", .text "http://gateway.test"), ("auth_base_url", .text "http://auth.test")]
  environment := environment

theorem ofFixture_eq_load (overrides : Table String Json) (environment : List (String × String)) :
    ofFixture overrides environment = load (fixtureSources overrides environment) := rfl

/-- Whether a fixture has a value of its own for a setting. -/
def isFixed (f : Setting) : Bool := f == .apiBaseUrl || f == .authBaseUrl

/-- The names, in lower case, under which a fixture looks up its other settings. -/
def fixtureNames : List String := (Setting.all.filter fun f => !isFixed f).flatMap Setting.envNames

/-- No name of the environment is on the list, in any case. -/
def Clear (names : List String) (environment : List (String × String)) : Prop :=
  ∀ e ∈ environment, ∀ n ∈ names, Text.toAsciiLower e.1 ≠ Text.toAsciiLower n

/-- An environment without these names does nothing to a fixture, whatever its overrides are. -/
def Hermetic (names : List String) : Prop :=
  ∀ environment, Clear names environment → ∀ overrides,
    ofFixture overrides environment = ofFixture overrides []

section Fixtures

variable {overrides : Table String Json} {environment : List (String × String)} {f : Setting}

theorem override?_of_isFixed (hf : isFixed f = true) :
    ((fixtureSources overrides environment).override? f).isSome = true := by
  have hname : (Table.get? f.name (fixtureSources overrides environment).overrides).isSome = true := by
    apply Table.get?_foldl_set_isSome
    rw [isFixed, Bool.or_eq_true, beq_iff_eq, beq_iff_eq] at hf
    rcases hf with rfl | rfl <;> rfl
  rw [Sources.override?]
  split
  · rfl
  · rw [Option.isSome_map]
    exact hname

/-- The environment is not asked for what the fixture fixes. -/
theorem find?_of_isFixed (hf : isFixed f = true) :
    (fixtureSources overrides environment).find? f = (fixtureSources overrides []).find? f := by
  have hsome : ((fixtureSources overrides environment).override? f).isSome = true :=
    override?_of_isFixed hf
  obtain ⟨found, hfound⟩ := Option.isSome_iff_exists.1 hsome
  have hfound' : (fixtureSources overrides []).override? f = some found := hfound
  rw [Sources.find?_of_override? hfound, Sources.find?_of_override? hfound']

/-- Nor does it have an answer for a setting none of whose names it has. -/
theorem find?_of_unnamed
    (h : ∀ e ∈ environment, ∀ n ∈ f.envNames, Text.toAsciiLower e.1 ≠ n) :
    (fixtureSources overrides environment).find? f = (fixtureSources overrides []).find? f := by
  have hnone : (fixtureSources overrides environment).environment? f = none :=
    Sources.environment?_eq_none h
  have hnone' : (fixtureSources overrides []).environment? f = none :=
    Sources.environment?_eq_none fun e he => absurd he List.not_mem_nil
  rw [Sources.find?, Sources.find?, hnone, hnone']
  rfl

theorem lower_of_mem_fixtureNames {n : String} (h : n ∈ fixtureNames) : Text.toAsciiLower n = n := by
  have hall : ∀ n ∈ fixtureNames, Text.toAsciiLower n = n := by decide
  exact hall n h

/-- A variable of each of these names can change the settings of a fixture, or spoil them. -/
theorem ofFixture_ne_of_mem {n : String} (h : n ∈ fixtureNames) :
    ofFixture [] [(n, "x")] ≠ ofFixture [] [] := by
  have hall : ∀ n ∈ fixtureNames,
      (ofFixture [] [(n, "x")]).toOption ≠ (ofFixture [] []).toOption := by
    decide +kernel
  exact fun heq => hall n h (congrArg Except.toOption heq)

end Fixtures

/-- **A list of names makes fixtures hermetic exactly if it has every name under which a setting is
    looked up**, in any case: a fixture does not depend on an environment without the names of such a
    list, and does on one with a name that is missing from it. -/
theorem hermetic_iff (names : List String) :
    Hermetic names ↔ ∀ n ∈ fixtureNames, ∃ k ∈ names, Text.toAsciiLower k = n := by
  constructor
  · intro h n hn
    refine Classical.byContradiction fun hnone => ?_
    refine ofFixture_ne_of_mem hn (h _ ?_ [])
    intro e he k hk heq
    rw [List.mem_singleton.1 he, lower_of_mem_fixtureNames hn] at heq
    exact hnone ⟨k, hk, heq.symm⟩
  · intro h environment hclear overrides
    rw [ofFixture_eq_load, ofFixture_eq_load]
    refine load_congr fun f hf => ?_
    cases hfixed : isFixed f with
    | true => exact find?_of_isFixed hfixed
    | false =>
      refine find?_of_unnamed fun e he n hn heq => ?_
      have hmem : n ∈ fixtureNames :=
        List.mem_flatMap.2 ⟨f, List.mem_filter.2 ⟨hf, by rw [hfixed]; rfl⟩, hn⟩
      obtain ⟨k, hk, hkn⟩ := h n hmem
      exact hclear e he k hk (heq.trans hkn.symm)

/-- The cleared names are those of the settings in the environment; a setting is looked up under its
    own name too. -/
theorem not_hermetic_clearedNames :
    ¬ Hermetic clearedNames ∧ Clear clearedNames [("USERNAME", "bob")] ∧
      (ofFixture [] [("USERNAME", "bob")]).map Settings.username = .ok "bob" ∧
      (ofFixture [] []).map Settings.username = .ok "user_all" := by
  have hclear : Clear clearedNames [("USERNAME", "bob")] := by
    unfold Clear
    decide
  have hbob : (ofFixture [] [("USERNAME", "bob")]).map Settings.username = .ok "bob" := rfl
  have hdefault : (ofFixture [] []).map Settings.username = .ok "user_all" := rfl
  refine ⟨fun h => ?_, hclear, hbob, hdefault⟩
  rw [h _ hclear [], hdefault] at hbob
  exact absurd (Except.ok.inj hbob) (by decide)

end Settings

end RateIsolation
