/-
  What is known of settings that were accepted.

  * `stripSlashes_eq_self_iff`: a text is left as it is exactly if it does not end
    in a slash, and what is left of any text does not;
  * `Settings.value_eq_ok_iff`: a value that was found was read and passed its check;
  * `Settings.load_eq_ok_iff`: settings are accepted exactly if each of their values
    is (`Settings.Loaded`);
  * `Settings.Sound` are the rules of all settings together, `Settings.load_sound`
    says that accepted settings obey them, and `Settings.load_bounds` which of
    them bound a run.
-/
import RateIsolation.Settings.Basic

namespace RateIsolation

/-! ## Slashes at the end -/

theorem dropTrailingSlashes_getLast? (cs : List Char) :
    (dropTrailingSlashes cs).getLast? ≠ some '/' := by
  rw [dropTrailingSlashes, List.getLast?_reverse]
  intro h
  have hhead := List.head?_dropWhile_not (· == '/') cs.reverse
  rw [h] at hhead
  simp at hhead

theorem dropTrailingSlashes_eq_self {cs : List Char} (h : cs.getLast? ≠ some '/') :
    dropTrailingSlashes cs = cs := by
  have hkeep : cs.reverse.dropWhile (· == '/') = cs.reverse := by
    cases hcs : cs.reverse with
    | nil => rfl
    | cons c rest =>
      have hlast : cs.getLast? = some c := by
        rw [← List.head?_reverse, hcs]
        rfl
      rw [List.dropWhile_cons, if_neg]
      rintro hslash
      rw [hlast, eq_of_beq hslash] at h
      exact h rfl
  rw [dropTrailingSlashes, hkeep, List.reverse_reverse]

theorem stripSlashes_getLast? (s : String) : (stripSlashes s).toList.getLast? ≠ some '/' := by
  rw [stripSlashes, String.toList_ofList]
  exact dropTrailingSlashes_getLast? _

theorem stripSlashes_eq_self_iff {s : String} :
    stripSlashes s = s ↔ s.toList.getLast? ≠ some '/' := by
  constructor
  · intro h
    rw [← h]
    exact stripSlashes_getLast? s
  · intro h
    rw [stripSlashes, dropTrailingSlashes_eq_self h, String.ofList_toList]

namespace Settings

/-! ## Checks -/

/-- A value is the default, if nothing was found, or what was found, read and checked. -/
theorem value_eq_ok_iff {α β : Type} {s : Sources} {f : Setting} {read : Json → Except ValueFault α}
    {check : α → Except ValueFault β} {default b : β} :
    value s f read check default = .ok b ↔ (s.find? f = none ∧ b = default) ∨
      ∃ found a, s.find? f = some found ∧ read found.value = .ok a ∧ check a = .ok b := by
  unfold value
  cases s.find? f with
  | none => simp [eq_comm]
  | some found =>
    cases hread : read found.value with
    | error fault => simp [hread]
    | ok a => cases hcheck : check a <;> simp [hread, hcheck]

theorem value_sound {α β : Type} (P : β → Prop) {s : Sources} {f : Setting}
    {read : Json → Except ValueFault α} {check : α → Except ValueFault β} {default b : β}
    (h : value s f read check default = .ok b) (hdefault : P default)
    (hcheck : ∀ {a}, check a = .ok b → P b) : P b := by
  rcases value_eq_ok_iff.1 h with ⟨-, rfl⟩ | ⟨_, a, -, -, ha⟩
  · exact hdefault
  · exact hcheck ha

theorem checkBaseUrl_sound {s t : String} (h : checkBaseUrl s = .ok t) :
    t.toList.getLast? ≠ some '/' := by
  cases h
  exact stripSlashes_getLast? s

theorem checkPath_sound {s t : String} (h : checkPath s = .ok t) : t.toList.head? = some '/' := by
  unfold checkPath at h
  split at h <;> cases h
  assumption

theorem checkBurst_sound {n m : Int} (h : checkBurst n = .ok m) : 2 ≤ m := by
  unfold checkBurst at h
  split at h <;> cases h
  omega

theorem checkWindow_sound {n m : Int} (h : checkWindow n = .ok m) : 1 ≤ m := by
  unfold checkWindow at h
  split at h <;> cases h
  omega

theorem checkMargin_sound {n m : Int} (h : checkMargin n = .ok m) : 0 ≤ m := by
  unfold checkMargin at h
  split at h <;> cases h
  omega

/-! ## Accepted settings -/

/-- Every value of the settings was accepted. -/
structure Loaded (s : Sources) (c : Settings) : Prop where
  apiBaseUrl : value s .apiBaseUrl Value.readText checkBaseUrl "http://localhost:8085" =
    .ok c.apiBaseUrl
  authBaseUrl : value s .authBaseUrl Value.readText checkBaseUrl "http://localhost:8084" =
    .ok c.authBaseUrl
  usersPath : value s .usersPath Value.readText checkPath "/api/v1/users" = .ok c.usersPath
  ordersPath : value s .ordersPath Value.readText checkPath "/api/v1/orders" = .ok c.ordersPath
  username : value s .username Value.readText .ok "user_all" = .ok c.username
  password : value s .password Value.readText .ok "123" = .ok c.password
  usernameB : value s .usernameB Value.readOptionalText .ok none = .ok c.usernameB
  passwordB : value s .passwordB Value.readOptionalText .ok none = .ok c.passwordB
  burst : value s .burstRequests Value.readWhole checkBurst 8 = .ok c.burstRequests
  window : value s .windowMs Value.readWhole checkWindow 1000 = .ok c.windowMs
  margin : value s .alignMarginMs Value.readWhole checkMargin 30 = .ok c.alignMarginMs
  timeout : value s .requestTimeout Value.readNumber checkTimeout (.ofRatio false 10 1) =
    .ok c.requestTimeout
  level : value s .logLevel Value.readText checkLevel "info" = .ok c.logLevel

/-- Settings are accepted exactly if each of their values is. -/
theorem load_eq_ok_iff {s : Sources} {c : Settings} : load s = .ok c ↔ Loaded s c := by
  constructor
  · intro h
    simp only [load, Checked.app_eq_ok_iff] at h
    obtain ⟨_, _, ⟨_, _, ⟨_, _, ⟨_, _, ⟨_, _, hcallers, burst, rfl⟩, window, rfl⟩, margin, rfl⟩,
      timeout, rfl⟩, level, rfl⟩ := h
    obtain ⟨_, _, ⟨_, _, ⟨_, _, ⟨_, _, hstart, username, rfl⟩, password, rfl⟩, usernameB, rfl⟩,
      passwordB, rfl⟩ := hcallers
    obtain ⟨_, _, ⟨_, _, ⟨_, _, ⟨_, _, hmk, apiBaseUrl, rfl⟩, authBaseUrl, rfl⟩, usersPath, rfl⟩,
      ordersPath, rfl⟩ := hstart
    cases hmk
    constructor <;> assumption
  · intro h
    simp only [load, h.apiBaseUrl, h.authBaseUrl, h.usersPath, h.ordersPath, h.username, h.password,
      h.usernameB, h.passwordB, h.burst, h.window, h.margin, h.timeout, h.level, Checked.app]

/-- The rules of settings that a run depends on. -/
structure Sound (s : Settings) : Prop where
  burst : 2 ≤ s.burstRequests
  window : 1 ≤ s.windowMs
  margin : 0 ≤ s.alignMarginMs
  usersPath : s.usersPath.toList.head? = some '/'
  ordersPath : s.ordersPath.toList.head? = some '/'
  apiBaseUrl : s.apiBaseUrl.toList.getLast? ≠ some '/'
  authBaseUrl : s.authBaseUrl.toList.getLast? ≠ some '/'

/-- Whatever the sources, settings that are accepted obey the rules. -/
theorem load_sound {s : Sources} {settings : Settings} (h : load s = .ok settings) :
    settings.Sound := by
  have hloaded : Loaded s settings := load_eq_ok_iff.1 h
  let starts (path : String) : Prop := path.toList.head? = some '/'
  let stripped (base : String) : Prop := base.toList.getLast? ≠ some '/'
  exact {
    burst := value_sound (2 ≤ ·) hloaded.burst (by decide) checkBurst_sound
    window := value_sound (1 ≤ ·) hloaded.window (by decide) checkWindow_sound
    margin := value_sound (0 ≤ ·) hloaded.margin (by decide) checkMargin_sound
    usersPath := value_sound starts hloaded.usersPath rfl checkPath_sound
    ordersPath := value_sound starts hloaded.ordersPath rfl checkPath_sound
    apiBaseUrl := value_sound stripped hloaded.apiBaseUrl (by decide) checkBaseUrl_sound
    authBaseUrl := value_sound stripped hloaded.authBaseUrl (by decide) checkBaseUrl_sound }

/-- Accepted settings have a burst of two requests or more, a window that is longer than nothing,
    and a margin that is not negative. -/
theorem load_bounds {s : Sources} {settings : Settings} (h : load s = .ok settings) :
    2 ≤ settings.burstRequests ∧ 1 ≤ settings.windowMs ∧ 0 ≤ settings.alignMarginMs :=
  ⟨(load_sound h).burst, (load_sound h).window, (load_sound h).margin⟩

end Settings

end RateIsolation
