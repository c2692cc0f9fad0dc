/-
  The tags of a log record: its service, its run and its phase.

  * `beforeDot_of_dot` and `beforeDot_of_no_dot`: which service the name of a logger has;
  * `Fields.tag` writes a value that may be missing; the two steps that tag a record are
    made of it (`withService_eq_tag`, `withContext_eq_tag`);
  * `Fields.Tags` is what a tagged record is beside the record of its caller. It leaves one
    value for each name (`Tags.get?_eq`), and nothing for the steps to change
    (`Tags.withService_eq_self`, `Tags.withContext_eq_self`);
  * `Fields.tags_either_order`: both orders of the steps tag a record; `tags_logRecord`: the
    record of a call is tagged.
-/
import RateIsolation.Log.Record

namespace RateIsolation

/-! ## The service of a logger -/

section Service

variable {name : WideText} {before after : List Point}

theorem beforeDot_of_no_dot (h : .char '.' ∉ name.points) : beforeDot name = none := by
  simp [beforeDot, h]

theorem beforeDot_of_dot (hname : name.points = before ++ .char '.' :: after)
    (hbefore : .char '.' ∉ before) : beforeDot name = some (.ofPoints before) := by
  have hne : ∀ p ∈ before, (p != .char '.') = true := by
    intro p hp
    rw [bne_iff_ne]
    rintro rfl
    exact hbefore hp
  have htake : (before ++ .char '.' :: after).takeWhile (· != .char '.') = before := by
    rw [List.takeWhile_append_of_pos hne]
    simp
  simp [beforeDot, hname, htake]

end Service

namespace Fields

variable {fields tagged : Fields} {k name : String} {value : Option Json}

/-! ## Values that may be missing -/

/-- Write a value unless it is missing. -/
def tag (name : String) (value : Option Json) (fields : Fields) : Fields :=
  match value with
  | none => fields
  | some v => Table.set name v fields

theorem get?_tag_self :
    Table.get? name (fields.tag name value) = value.or (Table.get? name fields) := by
  cases value with
  | none => rfl
  | some v => exact Table.get?_set_self name v fields

theorem get?_tag_of_ne (h : k ≠ name) :
    Table.get? k (fields.tag name value) = Table.get? k fields := by
  cases value with
  | none => rfl
  | some v => exact Table.get?_set_ne h v fields

theorem keys_prefix_tag : Table.keys fields <+: Table.keys (fields.tag name value) := by
  cases value with
  | none => exact List.prefix_rfl
  | some v => exact Table.keys_prefix_set name v fields

theorem nodup_keys_tag (h : (Table.keys fields).Nodup) :
    (Table.keys (fields.tag name value)).Nodup := by
  cases value with
  | none => exact h
  | some v => exact Table.nodup_keys_set h name v

theorem filter_tag {p : String → Bool} (h : p name = false) :
    (fields.tag name value).filter (fun e => p e.1) = fields.filter fun e => p e.1 := by
  cases value with
  | none => rfl
  | some v => exact Table.filter_set_of_not h v fields

/-- What is there already is not written again. -/
theorem tag_eq_self (h : ∀ v, value = some v → Table.get? name fields = some v) :
    fields.tag name value = fields := by
  cases value with
  | none => rfl
  | some v => exact Table.set_eq_self (h v rfl)

/-! ## The two steps -/

/-- The value of a text of the context: none if the text is missing or empty. -/
def shown (text : Option String) : Option Json := (text.filter (· ≠ "")).map .text

theorem shown_of_ne {text : String} (h : text ≠ "") : shown (some text) = some (.text text) := by
  simp [shown, Option.filter, h]

theorem setNonempty_eq_tag (text : Option String) :
    fields.setNonempty name text = fields.tag name (shown text) := by
  cases text with
  | none => rfl
  | some t => by_cases h : t = "" <;> simp [setNonempty, tag, shown, Option.filter, h]

theorem withContext_eq_tag (c : LogContext) :
    fields.withContext c = (fields.tag "run_id" (shown c.runId)).tag "phase" (shown c.phase) := by
  rw [withContext, setNonempty_eq_tag, setNonempty_eq_tag]

theorem withService_eq_tag :
    fields.withService = fields.tag "service" ((beforeDot fields.logger).map .str) := by
  unfold withService
  cases beforeDot fields.logger <;> rfl

/-! ## Tagged records -/

/-- The record was written by a logger of that name; a record without a logger counts as one of
    the logger with the empty name. -/
def LoggedBy (logger : WideText) (fields : Fields) : Prop :=
  Table.get? "logger" fields = some (.str logger) ∨
    Table.get? "logger" fields = none ∧ logger = .plain ""

theorem LoggedBy.logger_eq {logger : WideText} (h : fields.LoggedBy logger) :
    fields.logger = logger := by
  rcases h with h | ⟨h, rfl⟩ <;> rw [Fields.logger, h]

/-- Whether the steps write under that name. -/
def isTag (name : String) : Bool := ["service", "run_id", "phase"].contains name

/-- The fields under other names, in their order. -/
def untagged (fields : Fields) : Fields := fields.filter fun e => !isTag e.1

/-- The second record is the first one, of a logger, tagged in a context. -/
structure Tags (c : LogContext) (logger : WideText) (fields tagged : Fields) : Prop where
  /-- No name comes twice. -/
  nodup : (Table.keys tagged).Nodup
  /-- The names that were there come first, in their places. -/
  places : Table.keys fields <+: Table.keys tagged
  /-- The other fields keep their values and their order. -/
  others : tagged.untagged = fields.untagged
  /-- The run is that of the context, or else what the caller wrote. -/
  run : Table.get? "run_id" tagged = (shown c.runId).or (Table.get? "run_id" fields)
  /-- The phase is that of the context, or else what the caller wrote. -/
  phase : Table.get? "phase" tagged = (shown c.phase).or (Table.get? "phase" fields)
  /-- The service is the logger's name before the first dot. -/
  service : ∀ before after, logger.points = before ++ .char '.' :: after → .char '.' ∉ before →
    Table.get? "service" tagged = some (.str (.ofPoints before))
  /-- Without a dot the service is what the caller wrote. -/
  noService : .char '.' ∉ logger.points → Table.get? "service" tagged = Table.get? "service" fields

theorem get?_untagged (h : isTag k = false) :
    Table.get? k fields.untagged = Table.get? k fields := by
  rw [untagged, Table.get?_filter (fun k => !isTag k), h]
  rfl

theorem untagged_tag (h : isTag name = true) :
    (fields.tag name value).untagged = fields.untagged :=
  filter_tag (p := fun k => !isTag k) (by rw [h]; rfl)

section Tags

variable {c : LogContext} {logger : WideText}

/-- A record that has the values of the tags, and the other fields as they were, is tagged. -/
theorem tags_of_get? (hnodup : (Table.keys tagged).Nodup)
    (hplaces : Table.keys fields <+: Table.keys tagged) (hothers : tagged.untagged = fields.untagged)
    (hrun : Table.get? "run_id" tagged = (shown c.runId).or (Table.get? "run_id" fields))
    (hphase : Table.get? "phase" tagged = (shown c.phase).or (Table.get? "phase" fields))
    (hservice : Table.get? "service" tagged =
      ((beforeDot logger).map .str).or (Table.get? "service" fields)) :
    Tags c logger fields tagged where
  nodup := hnodup
  places := hplaces
  others := hothers
  run := hrun
  phase := hphase
  service before after hlogger hbefore := by
    rw [hservice, beforeDot_of_dot hlogger hbefore]
    rfl
  noService hdot := by
    rw [hservice, beforeDot_of_no_dot hdot]
    rfl

/-- The service first, the context after it. -/
theorem tags_withContext (hkeys : (Table.keys fields).Nodup) (hlogger : fields.LoggedBy logger) :
    Tags c logger fields (fields.withService.withContext c) := by
  rw [withContext_eq_tag, withService_eq_tag, hlogger.logger_eq]
  refine tags_of_get? (nodup_keys_tag (nodup_keys_tag (nodup_keys_tag hkeys)))
    (keys_prefix_tag.trans (keys_prefix_tag.trans keys_prefix_tag)) ?_ ?_ ?_ ?_
  · rw [untagged_tag rfl, untagged_tag rfl, untagged_tag rfl]
  · rw [get?_tag_of_ne (by decide), get?_tag_self, get?_tag_of_ne (by decide)]
  · rw [get?_tag_self, get?_tag_of_ne (by decide), get?_tag_of_ne (by decide)]
  · rw [get?_tag_of_ne (by decide), get?_tag_of_ne (by decide), get?_tag_self]

theorem LoggedBy.withContext (h : fields.LoggedBy logger) :
    (fields.withContext c).LoggedBy logger := by
  rw [LoggedBy, withContext_eq_tag, get?_tag_of_ne (by decide), get?_tag_of_ne (by decide)]
  exact h

/-- The context first, the service after it. -/
theorem tags_withService (hkeys : (Table.keys fields).Nodup) (hlogger : fields.LoggedBy logger) :
    Tags c logger fields (fields.withContext c).withService := by
  rw [withService_eq_tag, hlogger.withContext.logger_eq, withContext_eq_tag]
  refine tags_of_get? (nodup_keys_tag (nodup_keys_tag (nodup_keys_tag hkeys)))
    (keys_prefix_tag.trans (keys_prefix_tag.trans keys_prefix_tag)) ?_ ?_ ?_ ?_
  · rw [untagged_tag rfl, untagged_tag rfl, untagged_tag rfl]
  · rw [get?_tag_of_ne (by decide), get?_tag_of_ne (by decide), get?_tag_self]
  · rw [get?_tag_of_ne (by decide), get?_tag_self, get?_tag_of_ne (by decide)]
  · rw [get?_tag_self, get?_tag_of_ne (by decide), get?_tag_of_ne (by decide)]

namespace Tags

theorem get?_of_not_tag (h : Tags c logger fields tagged) (hk : isTag k = false) :
    Table.get? k tagged = Table.get? k fields := by
  rw [← get?_untagged hk, h.others, get?_untagged hk]

theorem get?_service (h : Tags c logger fields tagged) :
    Table.get? "service" tagged =
      ((beforeDot logger).map .str).or (Table.get? "service" fields) := by
  by_cases hdot : .char '.' ∈ logger.points
  · obtain ⟨before, after, hlogger, hbefore⟩ := List.eq_append_cons_of_mem hdot
    rw [h.service before after hlogger hbefore, beforeDot_of_dot hlogger hbefore]
    rfl
  · rw [h.noService hdot, beforeDot_of_no_dot hdot]
    rfl

/-- However a record was tagged, it has the same values. -/
theorem get?_eq {tagged' : Fields} (h : Tags c logger fields tagged)
    (h' : Tags c logger fields tagged') (k : String) :
    Table.get? k tagged = Table.get? k tagged' := by
  cases hk : isTag k with
  | false => rw [h.get?_of_not_tag hk, h'.get?_of_not_tag hk]
  | true =>
    have hmem : k = "service" ∨ k = "run_id" ∨ k = "phase" := by
      simpa [isTag] using hk
    rcases hmem with rfl | rfl | rfl
    · rw [h.get?_service, h'.get?_service]
    · rw [h.run, h'.run]
    · rw [h.phase, h'.phase]

theorem loggedBy (h : Tags c logger fields tagged) (hlogger : fields.LoggedBy logger) :
    tagged.LoggedBy logger := by
  rw [LoggedBy, h.get?_of_not_tag rfl]
  exact hlogger

theorem withService_eq_self (h : Tags c logger fields tagged) (hlogger : fields.LoggedBy logger) :
    tagged.withService = tagged := by
  rw [withService_eq_tag, (h.loggedBy hlogger).logger_eq]
  refine tag_eq_self fun v hv => ?_
  rw [h.get?_service, hv]
  rfl

theorem withContext_eq_self (h : Tags c logger fields tagged) : tagged.withContext c = tagged := by
  have hrun : tagged.tag "run_id" (shown c.runId) = tagged := by
    refine tag_eq_self fun v hv => ?_
    rw [h.run, hv]
    rfl
  have hphase : tagged.tag "phase" (shown c.phase) = tagged := by
    refine tag_eq_self fun v hv => ?_
    rw [h.phase, hv]
    rfl
  rw [withContext_eq_tag, hrun, hphase]

end Tags

/-- **Both orders of the two steps tag a record, and once is enough.** For every record of a logger
    and every context, adding the service and adding the run and the phase, in either order,
    leaves the same value under every name; the caller's other fields stay as they were and
    in their order, and the caller's own tags give way to those of the logger and the context,
    where these have any. Neither step changes a tagged record again. -/
theorem tags_either_order (c : LogContext) (hkeys : (Table.keys fields).Nodup)
    (hlogger : fields.LoggedBy logger) :
    Tags c logger fields (fields.withService.withContext c) ∧
    Tags c logger fields (fields.withContext c).withService ∧
    (∀ k, Table.get? k (fields.withService.withContext c) =
      Table.get? k (fields.withContext c).withService) ∧
    ∀ tagged ∈ [fields.withService.withContext c, (fields.withContext c).withService],
      tagged.withService = tagged ∧ tagged.withContext c = tagged := by
  have hone : Tags c logger fields (fields.withService.withContext c) :=
    tags_withContext hkeys hlogger
  have hother : Tags c logger fields (fields.withContext c).withService :=
    tags_withService hkeys hlogger
  refine ⟨hone, hother, hone.get?_eq hother, fun tagged htagged => ?_⟩
  have h : Tags c logger fields tagged := by
    simp only [List.mem_cons, List.not_mem_nil, or_false] at htagged
    rcases htagged with rfl | rfl
    · exact hone
    · exact hother
  exact ⟨h.withService_eq_self hlogger, h.withContext_eq_self⟩

end Tags

/-- A record whose caller wrote tags of its own. -/
def selfTagged : Fields :=
  [("phase", .text "mine"), ("logger", .text "ratecheck.scenario"), ("run_id", .int 7),
    ("wait_ms", .int 780)]

/-- In an empty phase the caller keeps its own, but the run is that of the context. -/
theorem tags_either_order_selfTagged :
    (Table.keys selfTagged).Nodup ∧ selfTagged.LoggedBy (.plain "ratecheck.scenario") ∧
    ∀ tagged ∈ [selfTagged.withService.withContext ⟨some "run-42", some ""⟩,
        (selfTagged.withContext ⟨some "run-42", some ""⟩).withService],
      tagged.withService = tagged ∧ Table.get? "run_id" tagged = some (.text "run-42") ∧
      Table.get? "phase" tagged = some (.text "mine") ∧
      Table.get? "service" tagged = some (.text "ratecheck") := by
  have hkeys : (Table.keys selfTagged).Nodup := by decide
  have hlogger : selfTagged.LoggedBy (.plain "ratecheck.scenario") := .inl rfl
  obtain ⟨hone, hother, -, hagain⟩ := tags_either_order ⟨some "run-42", some ""⟩ hkeys hlogger
  refine ⟨hkeys, hlogger, fun tagged htagged => ⟨(hagain tagged htagged).1, ?_⟩⟩
  have h : Tags ⟨some "run-42", some ""⟩ (.plain "ratecheck.scenario") selfTagged tagged := by
    simp only [List.mem_cons, List.not_mem_nil, or_false] at htagged
    rcases htagged with rfl | rfl
    · exact hone
    · exact hother
  have hservice := h.service (Point.ofString "ratecheck") (Point.ofString "scenario") rfl (by decide)
  rw [WideText.ofPoints_ofString] at hservice
  exact ⟨h.run, h.phase, hservice⟩

end Fields

/-- The record of a call is what its caller wrote, tagged: a caller has no say in the run and the
    phase of its records. -/
theorem tags_logRecord (c : LogContext) (stamp logger event : String) (severity : Severity)
    (fields : List (String × Json)) :
    Fields.Tags c (.plain (loggerName logger))
      (Table.ofList (fields ++ [("event", .text event), ("logger", .text (loggerName logger)),
        ("level", .text severity.name), ("timestamp", .text stamp)]))
      (logRecord stamp c logger severity event fields) := by
  refine Fields.tags_withContext (Table.nodup_keys_ofList _) (.inl ?_)
  rw [Table.ofList, List.foldl_append]
  simp [List.foldl, Json.text]

end RateIsolation
