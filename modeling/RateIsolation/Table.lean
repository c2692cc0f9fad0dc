/-
  Tables in insertion order: lists of keys and values.

  Writing to a key that is present keeps its place and replaces its value;
  a new key goes to the end. All of the program's ordered data (members of an
  object, fields of a log record, samples of a counter, tokens, quotas) is
  kept this way.

  * `get?_set_self` and `get?_set_ne`: what reading gives after a write;
  * `keys_set_of_mem`, `keys_set_of_not_mem` and `keys_prefix_set`: the order after a
    write;
  * `set_eq_self`: a write of what is there changes nothing;
  * `get?_eq_some_iff_mem` and `get?_eq_of_perm`: where no key comes twice, the entries are
    what reading gives;
  * `get?_filter`, `filter_set` and `filter_set_of_not`: entries that are left out, and writes to
    a table of which some are;
  * `get?_foldl_set_of_ne` and `get?_foldl_set_isSome`: what reading gives after a
    list of writes;
  * `get?_ofList_filter_map`: entries of other keys do not count;
  * `mem_keys_ofList` and `nodup_keys_ofList`: a list of writes leaves each of its
    keys once; `ofList_of_nodup`: keys that are written once stay in their places.
-/

namespace RateIsolation

/-- Keys and values in the order in which the keys came. -/
abbrev Table (κ α : Type) := List (κ × α)

namespace Table

variable {κ α β : Type} [DecidableEq κ]

/-- The value at a key. -/
def get? (k : κ) : Table κ α → Option α
  | [] => none
  | (k', v) :: rest => if k' = k then some v else get? k rest

/-- Write a value at a key. -/
def set (k : κ) (v : α) : Table κ α → Table κ α
  | [] => [(k, v)]
  | (k', v') :: rest => if k' = k then (k, v) :: rest else (k', v') :: set k v rest

/-- Remove a key. -/
def erase (k : κ) (t : Table κ α) : Table κ α := t.filter fun e => e.1 ≠ k

/-- Whether a key is present. -/
def has (k : κ) (t : Table κ α) : Bool := (get? k t).isSome

/-- The keys in order. -/
def keys (t : Table κ α) : List κ := t.map (·.1)

/-- Add to the count at a key, which is zero while absent. -/
def increment (k : κ) (t : Table κ Nat) : Table κ Nat := set k ((get? k t).getD 0 + 1) t

/-- Write every entry of a list in turn. -/
def ofList (entries : List (κ × α)) : Table κ α := entries.foldl (fun t e => set e.1 e.2 t) []

@[simp] theorem get?_nil (k : κ) : get? k ([] : Table κ α) = none := rfl

@[simp] theorem get?_set_self (k : κ) (v : α) (t : Table κ α) : get? k (set k v t) = some v := by
  induction t with
  | nil => simp [set, get?]
  | cons e t ih => by_cases h : e.1 = k <;> simp [set, get?, h, ih]

@[simp] theorem get?_set_ne {k k' : κ} (h : k' ≠ k) (v : α) (t : Table κ α) :
    get? k' (set k v t) = get? k' t := by
  induction t with
  | nil => simp [set, get?, Ne.symm h]
  | cons e t ih =>
    by_cases h₁ : e.1 = k
    · have h₂ : ¬ k = k' := fun h' => h h'.symm
      simp [set, get?, h₁, h₂]
    · by_cases h₂ : e.1 = k' <;> simp [set, get?, h, h₁, h₂, ih]

theorem get?_set (k k' : κ) (v : α) (t : Table κ α) :
    get? k' (set k v t) = if k' = k then some v else get? k' t := by
  by_cases h : k' = k
  · subst h; simp
  · simp [h]

theorem keys_set_of_mem {k : κ} {t : Table κ α} (h : k ∈ keys t) (v : α) :
    keys (set k v t) = keys t := by
  induction t with
  | nil => simp [keys] at h
  | cons e t ih =>
    by_cases h₁ : e.1 = k
    · simp [set, keys, h₁]
    · have h₂ : k ∈ keys t := by
        simp only [keys, List.map_cons, List.mem_cons] at h
        exact h.resolve_left fun h' => h₁ h'.symm
      have := ih h₂
      simp only [keys] at this
      simp [set, keys, h₁, this]

theorem keys_set_of_not_mem {k : κ} {t : Table κ α} (h : k ∉ keys t) (v : α) :
    set k v t = t ++ [(k, v)] := by
  induction t with
  | nil => rfl
  | cons e t ih =>
    simp only [keys, List.map_cons, List.mem_cons, not_or] at h
    have h₁ : ¬ e.1 = k := fun h' => h.1 h'.symm
    simp [set, h₁, ih h.2]

theorem set_eq_self {k : κ} {v : α} {t : Table κ α} (h : get? k t = some v) : set k v t = t := by
  induction t with
  | nil => cases h
  | cons e t ih =>
    rw [get?] at h
    rw [set]
    split at h
    · rename_i hk
      cases hk
      cases h
      rw [if_pos rfl]
    · rename_i hk
      rw [if_neg hk, ih h]

theorem keys_prefix_set (k : κ) (v : α) (t : Table κ α) : keys t <+: keys (set k v t) := by
  by_cases h : k ∈ keys t
  · exact ⟨[], by rw [List.append_nil, keys_set_of_mem h]⟩
  · exact ⟨[k], by simp [keys_set_of_not_mem h, keys]⟩

/-- Keeping entries by their keys keeps or removes the value at a key. -/
theorem get?_filter (p : κ → Bool) (k : κ) (t : Table κ α) :
    get? k (t.filter fun e => p e.1) = if p k then get? k t else none := by
  induction t with
  | nil => simp
  | cons e t ih =>
    by_cases hk : e.1 = k
    · subst hk
      by_cases hp : p e.1
      · simp [hp, get?]
      · simp only [List.filter_cons, hp, Bool.false_eq_true, ↓reduceIte, ih]
    · by_cases hp : p e.1 <;> simp [hp, get?, hk, ih]

/-- A write under a key that is kept goes to what is left. -/
theorem filter_set {p : κ → Bool} {k : κ} (hp : p k = true) (v : α) (t : Table κ α) :
    (set k v t).filter (fun e => p e.1) = set k v (t.filter fun e => p e.1) := by
  induction t with
  | nil => simp [set, hp]
  | cons e t ih =>
    by_cases h : e.1 = k
    · simp [set, h, hp]
    · by_cases he : p e.1 <;> simp [set, h, he, ih]

/-- A write under a key that is left out does not show. -/
theorem filter_set_of_not {p : κ → Bool} {k : κ} (hp : p k = false) (v : α) (t : Table κ α) :
    (set k v t).filter (fun e => p e.1) = t.filter fun e => p e.1 := by
  induction t with
  | nil => simp [set, hp]
  | cons e t ih =>
    by_cases h : e.1 = k
    · simp [set, h, hp]
    · simp only [set, h, if_false, List.filter_cons, ih]

theorem get?_eq_none_iff {k : κ} {t : Table κ α} : get? k t = none ↔ k ∉ keys t := by
  induction t with
  | nil => simp [keys]
  | cons e t ih =>
    simp only [keys] at ih
    by_cases h : e.1 = k
    · simp [get?, keys, h]
    · have h' : ¬ k = e.1 := fun h'' => h h''.symm
      simp [get?, keys, h, h', ih]

theorem get?_eq_some_iff_mem {t : Table κ α} (h : (keys t).Nodup) {k : κ} {v : α} :
    get? k t = some v ↔ (k, v) ∈ t := by
  induction t with
  | nil => simp
  | cons e t ih =>
    rw [keys, List.map_cons, List.nodup_cons] at h
    by_cases hk : e.1 = k
    · have hnot : (k, v) ∉ t := fun hmem => h.1 (hk ▸ List.mem_map_of_mem hmem)
      simp only [get?, hk, if_true, Option.some.injEq, List.mem_cons, hnot, or_false]
      constructor
      · rintro rfl
        rw [← hk]
      · rintro rfl
        rfl
    · have hne : (k, v) ≠ e := by
        rintro rfl
        exact hk rfl
      simp only [get?, hk, if_false, List.mem_cons, hne, false_or]
      exact ih h.2

theorem get?_eq_of_perm {t t' : Table κ α} (h : (keys t).Nodup) (hperm : t.Perm t')
    (k : κ) : get? k t = get? k t' := by
  have h' : (keys t').Nodup := (hperm.map Prod.fst).nodup_iff.1 h
  ext v
  rw [get?_eq_some_iff_mem h, get?_eq_some_iff_mem h', hperm.mem_iff]

theorem get?_foldl_set_of_ne {k : κ} (entries : List (κ × α)) (h : ∀ e ∈ entries, e.1 ≠ k)
    (t : Table κ α) : get? k (entries.foldl (fun t e => set e.1 e.2 t) t) = get? k t := by
  induction entries generalizing t with
  | nil => rfl
  | cons e rest ih =>
    have hrest := ih (fun e' he' => h e' (List.mem_cons_of_mem _ he')) (set e.1 e.2 t)
    rw [List.foldl_cons, hrest, get?_set_ne (h e List.mem_cons_self).symm]

/-- What is written over a key leaves something there. -/
theorem get?_foldl_set_isSome {k : κ} (entries : List (κ × α)) {t : Table κ α}
    (h : (get? k t).isSome = true) :
    (get? k (entries.foldl (fun t e => set e.1 e.2 t) t)).isSome = true := by
  induction entries generalizing t with
  | nil => exact h
  | cons e rest ih =>
    apply ih
    rw [get?_set]
    split
    · rfl
    · exact h

/-- What is written under a key does not depend on what is written under others. -/
theorem get?_foldl_set_filter_map {k : κ} (g : β → κ × α) {p : β → Bool} (entries : List β)
    (hp : ∀ e ∈ entries, (g e).1 = k → p e = true) {t t' : Table κ α}
    (h : get? k t = get? k t') :
    get? k (((entries.filter p).map g).foldl (fun t e => set e.1 e.2 t) t) =
      get? k ((entries.map g).foldl (fun t e => set e.1 e.2 t) t') := by
  induction entries generalizing t t' with
  | nil => exact h
  | cons e rest ih =>
    have hrest := fun e' he' => hp e' (List.mem_cons_of_mem e he')
    rw [List.filter_cons]
    split
    · refine ih hrest ?_
      rw [get?_set, get?_set, h]
    · rename_i hskip
      refine ih hrest ?_
      rw [get?_set_ne, h]
      exact fun hk => hskip (hp e List.mem_cons_self hk.symm)

theorem get?_ofList_filter_map {k : κ} (g : β → κ × α) {p : β → Bool} (entries : List β)
    (hp : ∀ e ∈ entries, (g e).1 = k → p e = true) :
    get? k (ofList ((entries.filter p).map g)) = get? k (ofList (entries.map g)) :=
  get?_foldl_set_filter_map g entries hp rfl

theorem mem_keys_set {k k' : κ} {v : α} {t : Table κ α} :
    k' ∈ keys (set k v t) ↔ k' = k ∨ k' ∈ keys t := by
  by_cases hk : k ∈ keys t
  · rw [keys_set_of_mem hk]
    refine ⟨Or.inr, ?_⟩
    rintro (rfl | h)
    · exact hk
    · exact h
  · rw [keys_set_of_not_mem hk]
    simp [keys, or_comm]

theorem nodup_keys_set {t : Table κ α} (h : (keys t).Nodup) (k : κ) (v : α) :
    (keys (set k v t)).Nodup := by
  by_cases hk : k ∈ keys t
  · rwa [keys_set_of_mem hk]
  · have hkeys : keys (t ++ [(k, v)]) = keys t ++ [k] := by simp [keys]
    rw [keys_set_of_not_mem hk, hkeys, List.nodup_append]
    refine ⟨h, by simp, ?_⟩
    rintro a ha _ hb rfl
    rw [List.mem_singleton] at hb
    exact hk (hb ▸ ha)

theorem mem_keys_foldl_set {k : κ} (entries : List (κ × α)) (t : Table κ α) :
    k ∈ keys (entries.foldl (fun t e => set e.1 e.2 t) t) ↔ k ∈ entries.map (·.1) ∨ k ∈ keys t := by
  induction entries generalizing t with
  | nil => simp
  | cons e rest ih =>
    rw [List.foldl_cons, ih, mem_keys_set, List.map_cons, List.mem_cons, or_left_comm, or_assoc]

theorem nodup_keys_foldl_set (entries : List (κ × α)) {t : Table κ α} (h : (keys t).Nodup) :
    (keys (entries.foldl (fun t e => set e.1 e.2 t) t)).Nodup := by
  induction entries generalizing t with
  | nil => exact h
  | cons e rest ih => exact ih (nodup_keys_set h e.1 e.2)

/-- New keys that are written once follow in their order. -/
theorem foldl_set_of_nodup (entries : List (κ × α)) {t : Table κ α}
    (h : (keys t ++ entries.map (·.1)).Nodup) :
    entries.foldl (fun t e => set e.1 e.2 t) t = t ++ entries := by
  induction entries generalizing t with
  | nil => exact (List.append_nil t).symm
  | cons e rest ih =>
    have hnew : e.1 ∉ keys t := by
      intro hmem
      exact (List.nodup_append.1 h).2.2 e.1 hmem e.1 List.mem_cons_self rfl
    rw [List.foldl_cons, keys_set_of_not_mem hnew, ih, List.append_assoc]
    · rfl
    · simpa [keys] using h

theorem mem_keys_ofList {k : κ} {entries : List (κ × α)} :
    k ∈ keys (ofList entries) ↔ k ∈ entries.map (·.1) := by
  rw [ofList, mem_keys_foldl_set]
  simp [keys]

theorem nodup_keys_ofList (entries : List (κ × α)) : (keys (ofList entries)).Nodup :=
  nodup_keys_foldl_set entries List.nodup_nil

theorem ofList_of_nodup {entries : List (κ × α)} (h : (entries.map (·.1)).Nodup) :
    ofList entries = entries :=
  foldl_set_of_nodup entries h

end Table

end RateIsolation
