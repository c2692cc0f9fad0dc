/-
  What the samples of the metrics say about the calls before them.

  * `Metrics.countValue_of_lt`: a count is exact as a number below `2 ^ 53`;
  * `Metrics.sameLabels_iff_perm`: a sample is asked for by its labels in any order;
    `LabelSets.find?_tally`: where different label values give different labels, it tells
    how often its own were counted;
  * `Metrics.Counter` are the three counters, `Metrics.count?` is the exact count in a sample
    of one; `count?_recordAll`: it is the number of calls with exactly those labels;
  * `Metrics.samples_tally`: the counters and the gauge tell what was recorded, and no sample
    depends on the order of the calls, but for the order of the waits.
-/
import Mathlib.Data.List.Perm.Subperm
import RateIsolation.Proofs.Counters
import RateIsolation.Proofs.Window

namespace RateIsolation

/-! ## Counts as numbers -/

theorem roundQuotient_mul {d : Nat} (hd : 0 < d) (n : Nat) : roundQuotient (n * d) d = n := by
  unfold roundQuotient
  dsimp only
  rw [Nat.mul_mod_left, Nat.mul_div_cancel n hd, if_pos hd]

namespace Binary64

/-- A number of at most 53 bits with zeros at its end is not rounded. -/
theorem nearestUnits_of_short {n e : Nat} (hn : n < 2 ^ 53) (he : 53 ≤ e) :
    nearestUnits (n * 2 ^ e) 1 = n * 2 ^ e := by
  rcases Nat.eq_zero_or_pos n with rfl | hpos
  · rw [Nat.zero_mul]
    rfl
  · have hlog : n.log2 < 53 := (Nat.log2_lt hpos.ne').2 hn
    generalize hshift : n.log2 + e - 52 = shift
    have hsplit : n * 2 ^ e = n * 2 ^ (e - shift) * 2 ^ shift := by
      rw [Nat.mul_assoc, ← Nat.pow_add, Nat.sub_add_cancel (by omega)]
    rw [nearestUnits_mul_two_pow hpos.ne' he, hshift, hsplit,
      roundQuotient_mul (by positivity)]

end Binary64

/-- Below `2 ^ 53` a count is exact as a number. -/
theorem Metrics.countValue_of_lt {n : Nat} (h : n < 2 ^ 53) :
    countValue n = .finite false (n * Binary64.unitsPerOne) := by
  have hunits : Binary64.nearestUnits (n * Binary64.unitsPerOne) 1 = n * Binary64.unitsPerOne := by
    rw [Binary64.unitsPerOne_eq, Binary64.nearestUnits_of_short h (by omega)]
  have hshifted (e : Nat) : n * 2 ^ e < 2 ^ (1024 + e) :=
    calc n * 2 ^ e < 2 ^ 53 * 2 ^ e := Nat.mul_lt_mul_of_pos_right h (by positivity)
      _ = 2 ^ (53 + e) := (Nat.pow_add 2 53 e).symm
      _ ≤ 2 ^ (1024 + e) := Nat.pow_le_pow_right (by omega) (by omega)
  have hlt : n * Binary64.unitsPerOne < Binary64.overflowUnits := by
    rw [Binary64.unitsPerOne_eq, Binary64.overflowUnits_eq]
    exact hshifted 1074
  rw [countValue, Binary64.ofRatio, Binary64.ofUnitRatio]
  simp only [hunits, hlt, if_true]

/-! ## Samples by their labels -/

namespace Metrics

variable {asked labels : List (String × String)}

/-- Two sets of labels say the same if one is a rearrangement of the other. -/
theorem sameLabels_iff_perm (hasked : (Table.keys asked).Nodup) (hlabels : (Table.keys labels).Nodup) :
    sameLabels asked labels = true ↔ asked.Perm labels := by
  have hall : sameLabels asked labels = true ↔
      asked.length = labels.length ∧ ∀ e ∈ labels, e ∈ asked := by
    simp [sameLabels, Table.get?_eq_some_iff_mem hasked]
  rw [hall]
  constructor
  · rintro ⟨hlength, hsub⟩
    have hnodup : labels.Nodup := List.Nodup.of_map _ hlabels
    exact ((List.subperm_of_subset hnodup hsub).perm_of_length_le hlength.le).symm
  · intro h
    exact ⟨h.length_eq, fun e he => h.mem_iff.2 he⟩

/-- Labels by name that tell what they are the labels of. -/
structure LabelSets {κ : Type} (named : κ → List (String × String)) : Prop where
  /-- No name comes twice. -/
  nodup : ∀ k, (Table.keys (named k)).Nodup
  /-- Different label values give different labels, in whatever order they are. -/
  injective : ∀ k k', (named k).Perm (named k') → k = k'

namespace LabelSets

variable {κ : Type} {named : κ → List (String × String)}

/-- The sample with some labels is that of the one key that has them. -/
theorem find?_of_perm [DecidableEq κ] (h : LabelSets named) (hasked : (Table.keys asked).Nodup)
    {k : κ} (hk : asked.Perm (named k)) (t : Table κ Nat) :
    ((t.map fun e => (named e.1, e.2)).find? fun s => sameLabels asked s.1).map Prod.snd =
      Table.get? k t := by
  induction t with
  | nil => rfl
  | cons e t ih =>
    have hsame : sameLabels asked (named e.1) = true ↔ e.1 = k := by
      rw [sameLabels_iff_perm hasked (h.nodup e.1)]
      constructor
      · intro he
        exact h.injective _ _ (he.symm.trans hk)
      · rintro rfl
        exact hk
    rw [List.map_cons, List.find?_cons, Table.get?]
    by_cases he : e.1 = k
    · rw [if_pos he, hsame.2 he]
      rfl
    · rw [if_neg he, ← ih, Bool.eq_false_iff.2 (mt hsame.1 he)]

theorem find?_of_not_perm (h : LabelSets named) (hasked : (Table.keys asked).Nodup)
    (hnone : ∀ k, ¬ asked.Perm (named k)) (t : Table κ Nat) :
    ((t.map fun e => (named e.1, e.2)).find? fun s => sameLabels asked s.1).map Prod.snd = none := by
  rw [Option.map_eq_none_iff, List.find?_eq_none]
  intro s hs
  obtain ⟨e, -, rfl⟩ := List.mem_map.1 hs
  rw [sameLabels_iff_perm hasked (h.nodup e.1)]
  exact hnone e.1

/-- The sample with some labels tells how many of the keys have exactly those. -/
theorem find?_tally [DecidableEq κ] (h : LabelSets named) (hasked : (Table.keys asked).Nodup)
    (ks : List κ) :
    (((Table.tally ks []).map fun e => (named e.1, e.2)).find? fun s => sameLabels asked s.1).map
        Prod.snd =
      if (ks.countP fun k => asked.Perm (named k)) = 0 then none
      else some (ks.countP fun k => asked.Perm (named k)) := by
  by_cases hk : ∃ k, asked.Perm (named k)
  · obtain ⟨k, hk⟩ := hk
    have hcount : (ks.countP fun k => asked.Perm (named k)) = ks.count k := by
      rw [List.count_eq_countP]
      refine List.countP_congr fun k' _ => ?_
      rw [decide_eq_true_iff, beq_iff_eq]
      constructor
      · intro hk'
        exact h.injective _ _ (hk'.symm.trans hk)
      · rintro rfl
        exact hk
    rw [h.find?_of_perm hasked hk, hcount, Table.get?_tally]
    simp
  · have hnone := not_exists.1 hk
    have hcount : (ks.countP fun k => asked.Perm (named k)) = 0 := by
      rw [List.countP_eq_zero]
      intro k _
      rw [decide_eq_true_iff]
      exact hnone k
    rw [h.find?_of_not_perm hasked hnone, if_pos hcount]

end LabelSets

/-! ## Counters -/

/-- A counter. -/
inductive Counter where
  /-- Requests by target, identity and outcome. -/
  | requests
  /-- Evaluations of checks by check and result. -/
  | checks
  /-- Fatal errors by code. -/
  | errors
deriving DecidableEq, Repr

/-- The name of its samples. -/
def Counter.name : Counter → String
  | requests => "ratecheck_requests_total"
  | checks => "ratecheck_checks_total"
  | errors => "ratecheck_errors_total"

/-- The labels of a counted request by name. -/
def requestNamed (l : RequestLabels) : List (String × String) :=
  [("identity", l.identity), ("outcome", l.outcome), ("target", l.target)]

/-- The labels of a counted check by name. -/
def checkNamed (l : CheckLabels) : List (String × String) :=
  [("check", l.check), ("result", l.result)]

/-- The label of a counted error by name. -/
def errorNamed (code : String) : List (String × String) := [("error_type", code)]

/-- The samples of a counter: their labels, and their counts as exact numbers. -/
def counts (m : Metrics) : Counter → List (List (String × String) × Nat)
  | .requests => m.requests.map fun e => (requestNamed e.1, e.2)
  | .checks => m.checks.map fun e => (checkNamed e.1, e.2)
  | .errors => m.errors.map fun e => (errorNamed e.1, e.2)

/-- The exact count in the sample of a counter with exactly those labels. -/
def count? (m : Metrics) (c : Counter) (labels : List (String × String)) : Option Nat :=
  ((m.counts c).find? fun s => sameLabels labels s.1).map Prod.snd

theorem map_value_find? {κ : Type} (named : κ → List (String × String)) (value : Nat → Binary64)
    (t : Table κ Nat) :
    ((t.map fun e => (⟨named e.1, value e.2⟩ : Sample)).find? fun s =>
        sameLabels asked s.labels).map Sample.value =
      (((t.map fun e => (named e.1, e.2)).find? fun s => sameLabels asked s.1).map Prod.snd).map
        value := by
  rw [List.find?_map, List.find?_map, Option.map_map, Option.map_map, Option.map_map]
  rfl

/-- A sample of a counter is its count as a number. -/
theorem sample?_name (m : Metrics) (c : Counter) :
    m.sample? c.name asked = (m.count? c asked).map countValue := by
  cases c with
  | requests =>
    simp only [sample?, families, Counter.name, List.find?_cons, String.reduceBEq]
    exact map_value_find? requestNamed countValue m.requests
  | checks =>
    simp only [sample?, families, Counter.name, List.find?_cons, String.reduceBEq]
    exact map_value_find? checkNamed countValue m.checks
  | errors =>
    simp only [sample?, families, Counter.name, List.find?_cons, String.reduceBEq]
    exact map_value_find? errorNamed countValue m.errors

end Metrics

namespace Recording

/-- The counter that the call adds one to, and the labels under which it does. -/
def adds? : Recording → Option (Metrics.Counter × List (String × String))
  | request target identity outcome =>
    some (.requests, [("identity", identity), ("outcome", outcome), ("target", target)])
  | check label passed =>
    some (.checks, [("check", label), ("result", if passed then "pass" else "fail")])
  | error code => some (.errors, [("error_type", code)])
  | alignment _ => none

/-- Whether the call adds to a counter under exactly those labels. -/
def counts (c : Metrics.Counter) (labels : List (String × String)) (call : Recording) : Bool :=
  call.adds?.any fun a => a.1 == c && decide (labels.Perm a.2)

end Recording

namespace Metrics

theorem nodup_keys_requestNamed (l : RequestLabels) : (Table.keys (requestNamed l)).Nodup :=
  (by decide : ["identity", "outcome", "target"].Nodup)

theorem nodup_keys_checkNamed (l : CheckLabels) : (Table.keys (checkNamed l)).Nodup :=
  (by decide : ["check", "result"].Nodup)

theorem labelSets_request : LabelSets requestNamed where
  nodup := nodup_keys_requestNamed
  injective l l' h := by
    have hget := Table.get?_eq_of_perm (nodup_keys_requestNamed l) h
    have htarget : some l.target = some l'.target := hget "target"
    have hidentity : some l.identity = some l'.identity := hget "identity"
    have houtcome : some l.outcome = some l'.outcome := hget "outcome"
    cases l
    cases l'
    cases htarget
    cases hidentity
    cases houtcome
    rfl

theorem labelSets_check : LabelSets checkNamed where
  nodup := nodup_keys_checkNamed
  injective l l' h := by
    have hget := Table.get?_eq_of_perm (nodup_keys_checkNamed l) h
    have hcheck : some l.check = some l'.check := hget "check"
    have hresult : some l.result = some l'.result := hget "result"
    cases l
    cases l'
    cases hcheck
    cases hresult
    rfl

theorem labelSets_error : LabelSets errorNamed where
  nodup _ := List.nodup_singleton _
  injective code code' h := by
    cases List.singleton_perm_singleton.1 h
    rfl

theorem count?_of_table {κ : Type} [DecidableEq κ] {m : Metrics} {c : Counter}
    {named : κ → List (String × String)} {key? : Recording → Option κ} {calls : List Recording}
    (h : LabelSets named) (hasked : (Table.keys asked).Nodup)
    (hcounts : m.counts c = (Table.tally (calls.filterMap key?) []).map fun e => (named e.1, e.2))
    (hcall : ∀ call : Recording, call.counts c asked =
      ((key? call).map fun k => decide (asked.Perm (named k))).getD false) :
    m.count? c asked =
      if calls.countP (·.counts c asked) = 0 then none
      else some (calls.countP (·.counts c asked)) := by
  have hcountP : (calls.countP fun call => call.counts c asked) =
      (calls.filterMap key?).countP fun k => decide (asked.Perm (named k)) := by
    rw [List.countP_filterMap]
    exact List.countP_congr fun call _ => by rw [hcall call]
  rw [count?, hcounts, h.find?_tally hasked, hcountP]

/-- A counter of new metrics counts the calls with exactly those labels, and has no sample for
    labels that no call had. -/
theorem count?_recordAll (service : String) (calls : List Recording) (c : Counter)
    (hasked : (Table.keys asked).Nodup) :
    (recordAll { service := service } calls).count? c asked =
      if calls.countP (·.counts c asked) = 0 then none
      else some (calls.countP (·.counts c asked)) := by
  cases c with
  | requests =>
    refine count?_of_table labelSets_request hasked (by rw [counts, requests_recordAll]) fun call => ?_
    cases call <;> rfl
  | checks =>
    refine count?_of_table labelSets_check hasked (by rw [counts, checks_recordAll]) fun call => ?_
    cases call <;> rfl
  | errors =>
    refine count?_of_table labelSets_error hasked (by rw [counts, errors_recordAll]) fun call => ?_
    cases call <;> rfl

theorem sample?_gauge (m : Metrics) :
    m.sample? "ratecheck_alignment_wait_seconds" [] = some m.waitSeconds := by
  simp only [sample?, families, List.find?_cons, String.reduceBEq]
  rfl

/-- The samples of all names are made of the counts, the gauge and the name of the service. -/
theorem sample?_congr {m m' : Metrics} (hcount : ∀ c, m.count? c asked = m'.count? c asked)
    (hwait : m.waitSeconds = m'.waitSeconds) (hservice : m.service = m'.service) (name : String) :
    m.sample? name asked = m'.sample? name asked := by
  by_cases hname : ∃ c : Counter, c.name = name
  · obtain ⟨c, rfl⟩ := hname
    rw [sample?_name, sample?_name, hcount c]
  · have hne (c : Counter) : (c.name == name) = false :=
      beq_eq_false_iff_ne.2 fun h => hname ⟨c, h⟩
    have hrequests : ("ratecheck_requests_total" == name) = false := hne .requests
    have hchecks : ("ratecheck_checks_total" == name) = false := hne .checks
    have herrors : ("ratecheck_errors_total" == name) = false := hne .errors
    simp only [sample?, families, List.find?_cons, List.find?_nil, hrequests, hchecks, herrors, hwait,
      hservice]

/-- What the samples of metrics say about all calls since they were new. -/
structure Tells (calls : List Recording) (m : Metrics) : Prop where
  /-- The count under some labels is the number of calls with exactly those; there is none if
      there was no such call. -/
  count : ∀ c labels, (Table.keys labels).Nodup →
    m.count? c labels =
      if calls.countP (·.counts c labels) = 0 then none
      else some (calls.countP (·.counts c labels))
  /-- The sample of a counter is its count as a number. -/
  sample : ∀ c labels, m.sample? c.name labels = (m.count? c labels).map countValue
  /-- Below `2 ^ 53` that number is the count. -/
  small : ∀ c labels n, m.count? c labels = some n → n < 2 ^ 53 →
    m.sample? c.name labels = some (.finite false (n * Binary64.unitsPerOne))
  /-- The sample of the gauge is the last wait, and zero before the first one. -/
  gauge : m.sample? "ratecheck_alignment_wait_seconds" [] =
    some (((calls.filterMap Recording.seconds?).getLast?).getD (.finite false 0))

theorem tells_recordAll (service : String) (calls : List Recording) :
    Tells calls (recordAll { service := service } calls) where
  count c labels hlabels := count?_recordAll service calls c hlabels
  sample c labels := sample?_name _ c
  small c labels n hn hlt := by
    rw [sample?_name, hn, Option.map_some, countValue_of_lt hlt]
  gauge := by
    rw [sample?_gauge, waitSeconds_recordAll]

/-- **The samples are a faithful tally of the calls.** For every list of calls on new metrics, each
    counter has, under each set of labels, the number of the calls with exactly those labels, and
    no sample where there was no such call; the gauge shows the last wait. So the same calls in
    another order, with the waits among them in the same order, give the same sample under every
    name and every set of labels. -/
theorem samples_tally (service : String) (calls : List Recording) :
    Tells calls (recordAll { service := service } calls) ∧
    ∀ calls' : List Recording, calls.Perm calls' →
      calls.filterMap Recording.seconds? = calls'.filterMap Recording.seconds? →
      ∀ name labels, (Table.keys labels).Nodup →
        (recordAll { service := service } calls').sample? name labels =
          (recordAll { service := service } calls).sample? name labels := by
  have htells := tells_recordAll service
  refine ⟨htells calls, fun calls' hperm hwaits name labels hlabels => ?_⟩
  refine sample?_congr (fun c => ?_) ?_ ?_ name
  · rw [(htells calls').count c labels hlabels, (htells calls).count c labels hlabels,
      hperm.countP_eq]
  · rw [waitSeconds_recordAll, waitSeconds_recordAll, hwaits]
  · rw [service_recordAll, service_recordAll]

/-- Two requests under the same labels, and one whose texts only its labels keep apart from them. -/
def sampled : List Recording :=
  [.alignment (.finite false 1), .request "users" "a,b" "other", .request "users,a" "b" "other",
    .error "E", .request "users" "a,b" "other", .alignment (.finite false 2)]

/-- The same calls in another order, the waits among them in the same one. -/
def rearranged : List Recording :=
  [.error "E", .request "users,a" "b" "other", .alignment (.finite false 1),
    .alignment (.finite false 2), .request "users" "a,b" "other", .request "users" "a,b" "other"]

/-- The two requests are counted apart from the third one, before and after it. -/
theorem samples_tally_sampled :
    sampled.Perm rearranged ∧
    sampled.filterMap Recording.seconds? = rearranged.filterMap Recording.seconds? ∧
    ∀ calls ∈ [sampled, rearranged],
      (recordAll { service := "ratecheck" } calls).sample? "ratecheck_requests_total"
          [("target", "users"), ("identity", "a,b"), ("outcome", "other")] =
        some (.finite false (2 * Binary64.unitsPerOne)) ∧
      (recordAll { service := "ratecheck" } calls).sample? "ratecheck_requests_total"
          [("target", "users,a,b"), ("identity", ""), ("outcome", "other")] = none := by
  have hperm : sampled.Perm rearranged := by decide
  have hwaits : sampled.filterMap Recording.seconds? = rearranged.filterMap Recording.seconds? := rfl
  obtain ⟨htells, hsame⟩ := samples_tally "ratecheck" sampled
  have hlabels (target identity : String) : (Table.keys
      [("target", target), ("identity", identity), ("outcome", "other")]).Nodup :=
    (by decide : ["target", "identity", "outcome"].Nodup)
  have htwo := htells.small .requests _ 2 (htells.count .requests _ (hlabels "users" "a,b"))
    (by decide)
  have hnone := htells.sample .requests [("target", "users,a,b"), ("identity", ""), ("outcome", "other")]
  rw [htells.count .requests _ (hlabels "users,a,b" "")] at hnone
  refine ⟨hperm, hwaits, fun calls hcalls => ?_⟩
  simp only [List.mem_cons, List.not_mem_nil, or_false] at hcalls
  rcases hcalls with rfl | rfl
  · exact ⟨htwo, hnone⟩
  · have hsame := hsame rearranged hperm hwaits Counter.requests.name
    exact ⟨(hsame _ (hlabels "users" "a,b")).trans htwo,
      (hsame _ (hlabels "users,a,b" "")).trans hnone⟩

end Metrics

end RateIsolation
