/-
  Overrides and the variables that they mask.

  * `Setting.isNamed`: the variables of a setting; `EnvFile.Closed` says that some
    names hold all that their assignments refer to, `Setting.FedBy` that they hold
    those of a setting too, and so all that its value is made of;
  * `EnvFile.values_filter`: the values of such names need no others;
  * `Sources.restrict` keeps the variables of some names; a setting all of whose names
    are kept is found as before (`Sources.find?_restrict`);
  * `Settings.faultsOf_load_congr` and `Settings.get?_congr`: the faults and the value
    of a setting are made of what is found for it;
  * `Settings.unmasked` are the variables of no overridden setting;
  * `Settings.overrides_mask`: if nothing else refers to them, the settings are those
    without the other variables, and one that is not overridden depends on no variables
    but its own and those that they refer to; `Settings.references_unmask` are settings
    whose variables refer to others.
-/
import RateIsolation.Proofs.Accepted
import RateIsolation.Proofs.Hermetic

namespace RateIsolation

/-! ## Names -/

namespace Setting

/-- Whether a variable of that name can feed the setting: it is one of its two names, in any
    case. -/
def isNamed (f : Setting) (name : String) : Bool := f.envNames.contains (Text.toAsciiLower name)

/-- The keys of a setting: its names as they are written. -/
def keys (f : Setting) : List String := [f.name, f.envName]

theorem eq_of_mem_envNames {f g : Setting} {n : String} (hf : f ∈ all) (hg : g ∈ all)
    (hfn : n ∈ f.envNames) (hgn : n ∈ g.envNames) : f = g := by
  have hall : ∀ f ∈ all, ∀ g ∈ all, ∀ n ∈ f.envNames, n ∈ g.envNames → f = g := by decide
  exact hall f hf g hg n hfn hgn

theorem eq_of_mem_keys {f g : Setting} {key : String} (hf : f ∈ all) (hg : g ∈ all)
    (hfk : key ∈ f.keys) (hgk : key ∈ g.keys) : f = g := by
  have hall : ∀ f ∈ all, ∀ g ∈ all, ∀ key ∈ f.keys, key ∈ g.keys → f = g := by decide
  exact hall f hf g hg key hfk hgk

end Setting

/-! ## References -/

namespace EnvFile

variable {p : String → Bool} {environment : List (String × String)}
  {assignments : List (String × Option String)}

/-- With a name that is assigned to, the names hold those that its value refers to. -/
def Closed (p : String → Bool) (assignments : List (String × Option String)) : Prop :=
  ∀ e ∈ assignments, p e.1 = true → ∀ value ∈ e.2, ∀ name ∈ references value, p name = true

instance (p : String → Bool) (assignments : List (String × Option String)) :
    Decidable (Closed p assignments) :=
  inferInstanceAs (Decidable (∀ e ∈ assignments, _ → ∀ value ∈ e.2, _))

theorem Closed.mono {assignments' : List (String × Option String)} (h : Closed p assignments)
    (hsub : ∀ e ∈ assignments', p e.1 = true → e ∈ assignments) : Closed p assignments' :=
  fun e he hname => h e (hsub e he hname) hname

/-- A value is made of the variables that it refers to. -/
theorem expand_congr {value : String} {look look' : String → Option (Option String)}
    (h : ∀ name ∈ references value, look name = look' name) :
    expand look value = expand look' value := by
  have htext : ∀ piece ∈ pieces 0 value.toList, piece.text look = piece.text look' := by
    intro piece hpiece
    cases piece with
    | char c => rfl
    | reference name standIn =>
      rw [Piece.text, Piece.text, h name (List.mem_filterMap.2 ⟨_, hpiece, rfl⟩)]
  rw [expand, expand, List.flatMap_def, List.flatMap_def, List.map_congr_left htext]

theorem lookup_filter (environment : List (String × String))
    (earlier : Table String (Option String)) {name : String} (hp : p name = true) :
    lookup (environment.filter fun v => p v.1) (earlier.filter fun v => p v.1) name =
      lookup environment earlier name := by
  have henvironment := Table.get?_ofList_filter_map id environment
    (p := fun v => p v.1) (k := name) fun v _ hv => by rw [← hv] at hp; exact hp
  rw [List.map_id, List.map_id] at henvironment
  rw [lookup, lookup, Table.get?_filter, if_pos hp, henvironment]

theorem valuesAfter_filter (h : Closed p assignments) (earlier : Table String (Option String)) :
    (valuesAfter environment earlier assignments).filter (fun v => p v.1) =
      valuesAfter (environment.filter fun v => p v.1) (earlier.filter fun v => p v.1)
        (assignments.filter fun v => p v.1) := by
  induction assignments generalizing earlier with
  | nil => rfl
  | cons e rest ih =>
    obtain ⟨name, value⟩ := e
    have hrest := ih (h.mono fun e he _ => List.mem_cons_of_mem _ he)
    rw [valuesAfter, hrest, List.filter_cons]
    split
    · rename_i hname
      have hvalue : value.map (expand (lookup environment earlier)) =
          value.map (expand (lookup (environment.filter fun v => p v.1)
            (earlier.filter fun v => p v.1))) := by
        refine Option.map_congr fun v hv => expand_congr fun other hother => ?_
        rw [lookup_filter]
        exact h (name, value) List.mem_cons_self hname v hv other hother
      rw [valuesAfter, Table.filter_set hname, hvalue]
    · rename_i hname
      rw [Table.filter_set_of_not (Bool.not_eq_true _ ▸ hname)]

/-- The values of names that hold all that they refer to need no others. -/
theorem values_filter (h : Closed p assignments) :
    (values environment assignments).filter (fun v => p v.1) =
      values (environment.filter fun v => p v.1) (assignments.filter fun v => p v.1) :=
  valuesAfter_filter h []

end EnvFile

/-- The names hold all variables that the value of a setting is made of: its own, and with an
    assignment those that it refers to. -/
structure Setting.FedBy (f : Setting) (p : String → Bool)
    (assignments : List (String × Option String)) : Prop where
  own : ∀ name, f.isNamed name = true → p name = true
  closed : EnvFile.Closed p assignments

/-! ## Sources -/

namespace Sources

variable {s s' : Sources} {f : Setting}

theorem get?_byLowerName_filter {α : Type} {n : String} {p : String → Bool}
    (hp : ∀ name, Text.toAsciiLower name = n → p name = true) (entries : List (String × α)) :
    Table.get? n (byLowerName (entries.filter fun v => p v.1)) =
      Table.get? n (byLowerName entries) :=
  Table.get?_ofList_filter_map _ entries fun v _ hv => hp v.1 hv

theorem lookup_congr {names : List String} {t t' : Table String (Option String)}
    (h : ∀ n ∈ names, Table.get? n t = Table.get? n t') : lookup names t = lookup names t' := by
  induction names with
  | nil => rfl
  | cons n names ih =>
    have hrest := ih fun m hm => h m (List.mem_cons_of_mem n hm)
    rw [lookup] at hrest ⊢
    rw [List.findSome?_cons, h n List.mem_cons_self, hrest]
    rfl

/-- The sources with the variables of some names only. -/
def restrict (s : Sources) (p : String → Bool) : Sources :=
  { s with
    environment := s.environment.filter fun v => p v.1
    file := s.file.filter fun v => p v.1 }

/-- What is found for a setting depends on the variables of its names only. -/
theorem find?_restrict {p : String → Bool} (hp : ∀ name, f.isNamed name = true → p name = true) :
    (s.restrict p).find? f = s.find? f := by
  have hkept (n : String) (hn : n ∈ f.envNames) (name : String)
      (hname : Text.toAsciiLower name = n) : p name = true := by
    refine hp name (List.contains_iff_mem.2 ?_)
    rwa [hname]
  have henvironment : (s.restrict p).environment? f = s.environment? f := by
    refine lookup_congr fun n hn => ?_
    have h := get?_byLowerName_filter (hkept n hn) (s.environment.map fun v => (v.1, some v.2))
    rwa [List.filter_map] at h
  have hfile : (s.restrict p).file? f = s.file? f :=
    lookup_congr fun n hn => get?_byLowerName_filter (hkept n hn) s.file
  rw [find?, find?, henvironment, hfile]
  rfl

theorem find?_congr (hoverride : s.override? f = s'.override? f)
    (henvironment : s.environment = s'.environment) (hfile : s.file = s'.file) :
    s.find? f = s'.find? f := by
  rw [find?, find?, environment?, environment?, file?, file?, hoverride, henvironment, hfile]

theorem override?_eq_none_iff : s.override? f = none ↔ ∀ e ∈ s.overrides, e.1 ∉ f.keys := by
  have hname (k : String) : Table.get? k s.overrides = none ↔ ∀ e ∈ s.overrides, e.1 ≠ k := by
    rw [Table.get?_eq_none_iff, Table.keys, List.mem_map, not_exists]
    exact forall_congr' fun e => not_and
  simp only [Setting.keys, List.mem_cons, List.not_mem_nil, or_false, not_or, forall_and]
  rw [← hname, ← hname, override?]
  split
  · rename_i h
    simp [h]
  · rename_i h
    simp [h]

/-- A setting is found under one of its keys. -/
theorem key_of_find? {found : Found} (h : s.find? f = some found) : found.key ∈ f.keys := by
  have hname : f.name ∈ f.keys := List.mem_cons_self
  have henvName : f.envName ∈ f.keys := List.mem_cons_of_mem _ List.mem_cons_self
  have hoverride : ∀ found ∈ s.override? f, found.key ∈ f.keys := by
    intro found hfound
    rw [override?] at hfound
    split at hfound
    · cases hfound
      exact henvName
    · obtain ⟨v, -, rfl⟩ := Option.map_eq_some_iff.1 hfound
      exact hname
  rw [find?] at h
  split at h
  · rename_i hsome
    exact hoverride found (hsome.trans h)
  · split at h
    · cases h
      exact henvName
    · obtain ⟨text, -, rfl⟩ := Option.map_eq_some_iff.1 h
      exact henvName

end Sources

/-! ## Faults -/

namespace Checked

variable {α β : Type}

/-- The faults on the way to a result, if any. -/
def faults : Checked α → List SettingFault
  | .ok _ => []
  | .error es => es

theorem faults_app (x : Checked (α → β)) (y : Checked α) :
    (app x y).faults = x.faults ++ y.faults := by
  cases x <;> cases y <;> simp [app, faults]

/-- The faults of one setting. -/
def faultsOf (f : Setting) (x : Checked α) : List SettingFault :=
  x.faults.filter fun e => f.keys.contains e.key

theorem faultsOf_app (f : Setting) (x : Checked (α → β)) (y : Checked α) :
    (app x y).faultsOf f = x.faultsOf f ++ y.faultsOf f := by
  rw [faultsOf, faults_app, List.filter_append]
  rfl

end Checked

namespace Settings

section Faults

variable {α β : Type} {s s' : Sources} {f g : Setting}

theorem key_of_value {read : Json → Except ValueFault α} {check : α → Except ValueFault β}
    {default : β} {e : SettingFault} (h : e ∈ (value s f read check default).faults) :
    e.key ∈ f.keys := by
  unfold value at h
  split at h
  · cases h
  · rename_i found hfound
    have hkey : found.key ∈ f.keys := Sources.key_of_find? hfound
    split at h
    · rw [List.mem_singleton.1 h]
      exact hkey
    · split at h
      · rw [List.mem_singleton.1 h]
        exact hkey
      · cases h

/-- The faults of a setting are made of what is found for it. -/
theorem faultsOf_value_congr (hf : f ∈ Setting.all) (h : s.find? f = s'.find? f)
    (hg : g ∈ Setting.all) (read : Json → Except ValueFault α) (check : α → Except ValueFault β)
    (default : β) :
    (value s g read check default).faultsOf f = (value s' g read check default).faultsOf f := by
  by_cases hfg : f = g
  · subst hfg
    rw [value_congr h]
  · have hnone (s : Sources) : (value s g read check default).faultsOf f = [] := by
      refine List.filter_eq_nil_iff.2 fun e he hkey => hfg ?_
      exact Setting.eq_of_mem_keys hf hg (List.contains_iff_mem.1 hkey) (key_of_value he)
    rw [hnone, hnone]

theorem faultsOf_load_congr (hf : f ∈ Setting.all) (h : s.find? f = s'.find? f) :
    (load s).faultsOf f = (load s').faultsOf f := by
  have happ {α β : Type} {x x' : Checked (α → β)} {y y' : Checked α}
      (hx : x.faultsOf f = x'.faultsOf f) (hy : y.faultsOf f = y'.faultsOf f) :
      (x.app y).faultsOf f = (x'.app y').faultsOf f := by
    rw [Checked.faultsOf_app, Checked.faultsOf_app, hx, hy]
  unfold load
  -- one value after another, the last one first
  repeat' refine happ ?_ (faultsOf_value_congr hf h (by decide) _ _ _)
  rfl

end Faults

/-! ## Values -/

/-- The settings with their values. -/
def entries (c : Settings) : List (Setting × Json) := [
  (.apiBaseUrl, .text c.apiBaseUrl), (.authBaseUrl, .text c.authBaseUrl),
  (.usersPath, .text c.usersPath), (.ordersPath, .text c.ordersPath),
  (.username, .text c.username), (.password, .text c.password),
  (.usernameB, .ofOption .text c.usernameB), (.passwordB, .ofOption .text c.passwordB),
  (.burstRequests, .int c.burstRequests), (.windowMs, .int c.windowMs),
  (.alignMarginMs, .int c.alignMarginMs), (.requestTimeout, .float c.requestTimeout),
  (.logLevel, .text c.logLevel)]

/-- The value of a setting. -/
def get? (c : Settings) (f : Setting) : Option Json := Table.get? f c.entries

theorem value_unique {α β : Type} {s s' : Sources} {f : Setting} {read : Json → Except ValueFault α}
    {check : α → Except ValueFault β} {default b b' : β} (h : s.find? f = s'.find? f)
    (hb : value s f read check default = .ok b) (hb' : value s' f read check default = .ok b') :
    b = b' := by
  rw [value_congr h, hb'] at hb
  exact (Except.ok.inj hb).symm

/-- The value of a setting is made of what is found for it. -/
theorem get?_congr {s s' : Sources} {f : Setting} {c c' : Settings} (hf : f ∈ Setting.all)
    (h : s.find? f = s'.find? f) (hc : load s = .ok c) (hc' : load s' = .ok c') :
    c.get? f = c'.get? f := by
  have hl : Loaded s c := load_eq_ok_iff.1 hc
  have hl' : Loaded s' c' := load_eq_ok_iff.1 hc'
  have htext {v v' : String} (hv : v = v') : some (Json.text v) = some (.text v') := by rw [hv]
  have hint {n n' : Int} (hn : n = n') : some (Json.int n) = some (.int n') := by rw [hn]
  have hoptional {v v' : Option String} (hv : v = v') :
      some (Json.ofOption .text v) = some (.ofOption .text v') := by rw [hv]
  have hnumber {x x' : Binary64} (hx : x = x') : some (Json.float x) = some (.float x') := by rw [hx]
  simp only [Setting.all, List.mem_cons, List.not_mem_nil, or_false] at hf
  rcases hf with rfl | rfl | rfl | rfl | rfl | rfl | rfl | rfl | rfl | rfl | rfl | rfl | rfl
  · exact htext (value_unique h hl.apiBaseUrl hl'.apiBaseUrl)
  · exact htext (value_unique h hl.authBaseUrl hl'.authBaseUrl)
  · exact htext (value_unique h hl.usersPath hl'.usersPath)
  · exact htext (value_unique h hl.ordersPath hl'.ordersPath)
  · exact htext (value_unique h hl.username hl'.username)
  · exact htext (value_unique h hl.password hl'.password)
  · exact hoptional (value_unique h hl.usernameB hl'.usernameB)
  · exact hoptional (value_unique h hl.passwordB hl'.passwordB)
  · exact hint (value_unique h hl.burst hl'.burst)
  · exact hint (value_unique h hl.window hl'.window)
  · exact hint (value_unique h hl.margin hl'.margin)
  · exact hnumber (value_unique h hl.timeout hl'.timeout)
  · exact htext (value_unique h hl.level hl'.level)

/-! ## Overrides -/

/-- Where the settings of a command come from: an override without a value is none. -/
def commandSources (overrides : Table String Json) (environment : List (String × String))
    (file : List (String × Option String)) : Sources where
  overrides := overrides.filter fun e => !e.2.isNull
  environment := environment
  file := EnvFile.values environment file

theorem ofCommand_eq_load (overrides : Table String Json) (environment : List (String × String))
    (file : List (String × Option String)) :
    ofCommand overrides environment file = load (commandSources overrides environment file) := by
  rw [ofCommand, commandSources]

/-- Whether the setting has an override with a value. -/
def isOverridden (overrides : Table String Json) (f : Setting) : Bool :=
  overrides.any fun e => f.keys.contains e.1 && !e.2.isNull

/-- Whether a variable is one of an overridden setting. -/
def isMasked (overrides : Table String Json) (name : String) : Bool :=
  Setting.all.any fun f => isOverridden overrides f && f.isNamed name

/-- The variables of no overridden setting. -/
def unmasked {α : Type} (overrides : Table String Json) (assigned : List (String × α)) :
    List (String × α) :=
  assigned.filter fun v => !isMasked overrides v.1

section Overrides

variable {overrides overrides' : Table String Json} {environment environment' : List (String × String)}
  {file file' : List (String × Option String)} {f : Setting} {p : String → Bool}

theorem override?_eq_none_iff : (commandSources overrides environment file).override? f = none ↔
    isOverridden overrides f = false := by
  rw [Sources.override?_eq_none_iff, isOverridden, List.any_eq_false]
  simp only [commandSources, List.mem_filter, Bool.and_eq_true, List.contains_iff_mem]
  exact ⟨fun h e he hboth => h e ⟨he, hboth.2⟩ hboth.1, fun h e he hkey => h e he.1 ⟨hkey, he.2⟩⟩

/-- The variables of a setting without an override are not masked. -/
theorem not_isMasked (hf : f ∈ Setting.all) (h : isOverridden overrides f = false) {name : String}
    (hname : f.isNamed name = true) : isMasked overrides name = false := by
  rw [isMasked, List.any_eq_false]
  intro g hg hboth
  rw [Bool.and_eq_true] at hboth
  rw [Setting.isNamed, List.contains_iff_mem] at hname hboth
  rw [Setting.eq_of_mem_envNames hf hg hname hboth.2, hboth.1] at h
  cases h

/-- A setting is found in the variables that it is made of. -/
theorem find?_of_fedBy (h : f.FedBy p file) :
    (commandSources overrides environment file).find? f =
      (commandSources overrides (environment.filter fun v => p v.1)
        (file.filter fun v => p v.1)).find? f := by
  rw [← Sources.find?_restrict h.own, Sources.restrict, commandSources, commandSources,
    EnvFile.values_filter h.closed]

theorem filter_unmasked {α : Type} (hp : ∀ name, p name = true → isMasked overrides name = false)
    (assigned : List (String × α)) :
    (unmasked overrides assigned).filter (fun v => p v.1) = assigned.filter fun v => p v.1 := by
  rw [unmasked, List.filter_filter]
  refine List.filter_congr fun v _ => ?_
  cases hv : p v.1 with
  | false => rfl
  | true => rw [hp v.1 hv]; rfl

/-- Masked variables are not asked for. -/
theorem find?_unmasked (hfed : isOverridden overrides f = false → f.FedBy p file)
    (hp : ∀ name, p name = true → isMasked overrides name = false) :
    (commandSources overrides (unmasked overrides environment) (unmasked overrides file)).find? f =
      (commandSources overrides environment file).find? f := by
  cases hoverridden : isOverridden overrides f with
  | true =>
    have hsome : (commandSources overrides environment file).override? f ≠ none := by
      rw [Ne, override?_eq_none_iff, hoverridden]
      decide
    obtain ⟨found, hfound⟩ := Option.ne_none_iff_exists'.1 hsome
    have hfound' : (commandSources overrides (unmasked overrides environment)
      (unmasked overrides file)).override? f = some found := hfound
    rw [Sources.find?_of_override? hfound, Sources.find?_of_override? hfound']
  | false =>
    have hfile := hfed hoverridden
    have hunmasked : f.FedBy p (unmasked overrides file) :=
      ⟨hfile.own, hfile.closed.mono fun e he _ => (List.mem_filter.1 he).1⟩
    rw [find?_of_fedBy hfile, find?_of_fedBy hunmasked, filter_unmasked hp, filter_unmasked hp]

/-- A setting without an override is found in the variables that it is made of. -/
theorem find?_of_agree (h : isOverridden overrides f = false) (h' : isOverridden overrides' f = false)
    (hfed : f.FedBy p file)
    (henvironment : environment.filter (fun v => p v.1) = environment'.filter fun v => p v.1)
    (hfile : file.filter (fun v => p v.1) = file'.filter fun v => p v.1) :
    (commandSources overrides environment file).find? f =
      (commandSources overrides' environment' file').find? f := by
  have hfed' : f.FedBy p file' := by
    refine ⟨hfed.own, hfed.closed.mono fun e he hname => ?_⟩
    have hkept : e ∈ file'.filter fun v => p v.1 := List.mem_filter.2 ⟨he, hname⟩
    rw [← hfile] at hkept
    exact (List.mem_filter.1 hkept).1
  rw [find?_of_fedBy hfed, find?_of_fedBy hfed', henvironment, hfile]
  refine Sources.find?_congr ?_ rfl rfl
  exact (override?_eq_none_iff.2 h).trans (override?_eq_none_iff.2 h').symm

end Overrides

/-- **Overrides mask the variables of their settings and nothing else.** If those that the others are
    made of are not masked, the settings, or the faults, are those without the variables of overridden
    settings; an override without a value is none; and the value and the faults of a setting that is
    not overridden depend on no variables but those that it is made of, and on no other override. -/
theorem overrides_mask (overrides : Table String Json) (environment : List (String × String))
    (file : List (String × Option String)) :
    (∀ p : String → Bool, (∀ name, p name = true → isMasked overrides name = false) →
      (∀ f ∈ Setting.all, isOverridden overrides f = false → f.FedBy p file) →
        ofCommand overrides environment file =
          ofCommand overrides (unmasked overrides environment) (unmasked overrides file)) ∧
    (∀ before name after, overrides = before ++ (name, .null) :: after →
      ofCommand overrides environment file = ofCommand (before ++ after) environment file) ∧
    ∀ f ∈ Setting.all, isOverridden overrides f = false →
      ∀ p : String → Bool, f.FedBy p file →
        ∀ overrides' environment' file', isOverridden overrides' f = false →
          environment.filter (fun v => p v.1) = environment'.filter (fun v => p v.1) →
          file.filter (fun v => p v.1) = file'.filter (fun v => p v.1) →
          (∀ c c', ofCommand overrides environment file = .ok c →
            ofCommand overrides' environment' file' = .ok c' → c.get? f = c'.get? f) ∧
          (ofCommand overrides environment file).faultsOf f =
            (ofCommand overrides' environment' file').faultsOf f := by
  refine ⟨?_, ?_, ?_⟩
  · intro p hp hfed
    rw [ofCommand_eq_load, ofCommand_eq_load]
    exact load_congr fun f hf => (find?_unmasked (hfed f hf) hp).symm
  · rintro before name after rfl
    have hnull : (before ++ (name, .null) :: after).filter (fun e => !e.2.isNull) =
        (before ++ after).filter fun e => !e.2.isNull := by
      rw [List.filter_append, List.filter_append]
      rfl
    rw [ofCommand, ofCommand, hnull]
  · intro f hf hplain p hfed overrides' environment' file' hplain' henvironment hfile
    have hfound := find?_of_agree hplain hplain' hfed henvironment hfile
    rw [ofCommand_eq_load, ofCommand_eq_load]
    exact ⟨fun c c' hc hc' => get?_congr hf hfound hc hc', faultsOf_load_congr hf hfound⟩

/-- An override of the burst masks variables that would be refused, one of the log level without a
    value does not; the log level is that of a variable which its own refers to, and does not depend
    on the window. -/
theorem overrides_mask_burst :
    let overrides : Table String Json := [("burst_requests", .int 5), ("log_level", .null)]
    let environment := [("Burst_Requests", "one"), ("RATE_WINDOW_MS", "700")]
    let file : List (String × Option String) :=
      [("BURST_REQUESTS", some "1"), ("Level", some "Debug"), ("Log_Level", some "$\x7bLevel\x7d")]
    let others : List (String × Option String) :=
      [("Level", some "Debug"), ("Log_Level", some "$\x7bLevel\x7d")]
    ∃ c c', ofCommand overrides environment file = .ok c ∧
      ofCommand overrides [] others = .ok c' ∧
      ofCommand overrides [("RATE_WINDOW_MS", "700")] others = .ok c ∧
      ofCommand [("burst_requests", .int 5)] environment file = .ok c ∧
      c.burstRequests = 5 ∧ c.logLevel = "debug" ∧ c.windowMs ≠ c'.windowMs ∧
      c.get? .logLevel = c'.get? .logLevel := by
  intro overrides environment file others
  obtain ⟨hmasked, hnull, hothers⟩ := overrides_mask overrides environment file
  have hc : ∃ c, ofCommand overrides environment file = .ok c ∧ c.burstRequests = 5 ∧
      c.logLevel = "debug" ∧ c.windowMs = 700 := by
    simp only [overrides, environment, file]
    exact ⟨_, rfl, rfl, rfl, rfl⟩
  have hc' : ∃ c, ofCommand overrides [] others = .ok c ∧ c.windowMs = 1000 := by
    simp only [overrides, others]
    exact ⟨_, rfl, rfl⟩
  obtain ⟨c, hload, hburst, hlevel, hwindow⟩ := hc
  obtain ⟨c', hload', hwindow'⟩ := hc'
  refine ⟨c, c', hload, hload', ?_, ?_, hburst, hlevel, ?_, ?_⟩
  · -- every variable but those of the burst is kept
    have hclosed : EnvFile.Closed (fun name => !isMasked overrides name) file := by decide
    have hkept := hmasked (fun name => !isMasked overrides name)
      (fun name hname => by simpa using hname) fun f hf hplain =>
        ⟨fun name hname => by rw [not_isMasked hf hplain hname]; decide, hclosed⟩
    have henvironment : unmasked overrides environment = [("RATE_WINDOW_MS", "700")] := by decide
    have hfile : unmasked overrides file = others := by decide
    rw [henvironment, hfile] at hkept
    exact hkept.symm.trans hload
  · exact (hnull [("burst_requests", .int 5)] "log_level" [] rfl).symm.trans hload
  · rw [hwindow, hwindow']
    decide
  · -- the log level is made of its own variables and the one that they refer to
    have hclosed : EnvFile.Closed
        (fun name => Setting.logLevel.isNamed name || name == "Level") file := by decide
    have hfed : Setting.logLevel.FedBy
        (fun name => Setting.logLevel.isNamed name || name == "Level") file :=
      ⟨fun name hname => by rw [hname, Bool.true_or], hclosed⟩
    have hplain : isOverridden overrides .logLevel = false := by decide
    exact (hothers .logLevel (by decide) hplain _ hfed overrides [] others hplain (by decide)
      (by decide)).1 c c' hload hload'

/-- A setting whose variable refers to another depends on that one, also where it is masked. -/
theorem references_unmask :
    (∃ c c', ofCommand [] [("FOO", "bob")] [("AUTH_USERNAME", some "$\x7bFOO\x7d")] = .ok c ∧
      ofCommand [] [] [("AUTH_USERNAME", some "$\x7bFOO\x7d")] = .ok c' ∧
      c.username = "bob" ∧ c'.username = "") ∧
    let overrides : Table String Json := [("window_ms", .int 500)]
    let file : List (String × Option String) :=
      [("RATE_WINDOW_MS", some "1000"), ("BURST_REQUESTS", some "$\x7bRATE_WINDOW_MS\x7d")]
    unmasked overrides file = [("BURST_REQUESTS", some "$\x7bRATE_WINDOW_MS\x7d")] ∧
    (∃ c, ofCommand overrides [] file = .ok c ∧ c.burstRequests = 1000) ∧
    ∃ faults, ofCommand overrides [] (unmasked overrides file) = .error faults :=
  ⟨⟨_, _, rfl, rfl, rfl, rfl⟩, rfl, ⟨_, rfl, rfl⟩, _, rfl⟩

end Settings

end RateIsolation
