import KirbyOcpp.Ocpp.Schema

/-!
# The `AuthorizationKey` in the records of the connection task

Two texts that set `AuthorizationKey` to different values, and are the same otherwise. What the task reports about
them (`Run.reported`) is the same if it can read the frame; a frame that it cannot read is recorded as it came.

**The law** `incomingText_reported_iff`.
-/

namespace KirbyOcpp.Schema

open Ws List

/-! ## The payload -/

/-- A payload with the value `x`. -/
def withValue (fields : List (String × Json)) (x : String) : Json :=
  .object (fields.map fun field => if field.1 == "value" then (field.1, .string x) else field)

/-- The members of a `ChangeConfiguration` that sets `AuthorizationKey`. -/
structure SetsKey (fields : List (String × Json)) : Prop where
  key : ((fields.lookup "key").bind Json.asStr).any isAuthorizationKey = true
  value : "value" ∈ fields.map (·.1)

variable {fields : List (String × Json)} {x y : String}

theorem lookup_key (fields : List (String × Json)) (x : String) :
    (fields.map fun field => if field.1 == "value" then (field.1, Json.string x) else field).lookup "key" =
      fields.lookup "key" := by
  induction fields with
  | nil => rfl
  | cons field fields ih =>
    rw [List.map_cons, List.lookup_cons, List.lookup_cons, ih]
    by_cases value : (field.1 == "value") = true
    · have other : ("key" == field.1) = false := by
        rw [beq_iff_eq.mp value]
        rfl
      simp [value, other]
    · simp [value]

theorem carries_withValue (sets : SetsKey fields) (x : String) :
    carriesAuthorizationKey "ChangeConfiguration" (withValue fields x) = true := by
  unfold carriesAuthorizationKey withValue
  dsimp only
  rw [lookup_key, sets.key]
  rfl

theorem withValue_ne (sets : SetsKey fields) (differ : x ≠ y) : withValue fields x ≠ withValue fields y := by
  intro same
  obtain ⟨field, mem, name⟩ := List.mem_map.mp sets.value
  have same := List.map_inj_left.mp (Json.object.inj same) field mem
  rw [name, beq_self_eq_true, if_pos rfl, if_pos rfl] at same
  exact differ (Json.string.inj (Prod.mk.inj same).2)

/-- The record hides the value. -/
theorem redactSecrets_withValue (sets : SetsKey fields) (id : MessageId) (x y : String) :
    redactSecrets (.call id "ChangeConfiguration" (withValue fields x)) =
      redactSecrets (.call id "ChangeConfiguration" (withValue fields y)) := by
  have secret (x : String) : (((fields.map fun field =>
      if field.1 == "value" then (field.1, Json.string x) else field).lookup "key").bind Json.asStr).any
        (fun key => key.map Char.toLower == "authorizationkey") = true := by
    rw [lookup_key]
    exact sets.key
  have hidden (x : String) : (fields.map fun field =>
      if field.1 == "value" then (field.1, Json.string x) else field).map
        (fun field => if field.1 == "value" then (field.1, Json.string redacted) else field) =
      fields.map fun field => if field.1 == "value" then (field.1, Json.string redacted) else field := by
    rw [List.map_map]
    refine List.map_congr_left fun field _ => ?_
    simp only [Function.comp_apply]
    cases value : field.1 == "value" with
    | true => simp only [if_true, value]
    | false => simp only [Bool.false_eq_true, if_false, value]
  unfold withValue
  simp only [redactSecrets]
  rw [secret, secret, if_pos rfl, if_pos rfl, hidden, hidden]

/-! ## The verdict of the schema -/

/-- Where an error is and which keyword it is about. -/
def ValidationError.site (error : ValidationError) : String × String := (error.instancePath, error.keyword)

/-- The schema of `ChangeConfiguration` judges the value at its own place only: what it has to say elsewhere does
not depend on which text the value is. -/
def JudgesValueApart (schemas : SchemaRegistry) : Prop := ∀ fields x y,
  (((schemas.iterErrors "ChangeConfiguration" .request (withValue fields x)).filter fun error =>
      decide (error.instancePath ≠ "/value")).map ValidationError.site).Perm
    (((schemas.iterErrors "ChangeConfiguration" .request (withValue fields y)).filter fun error =>
      decide (error.instancePath ≠ "/value")).map ValidationError.site)

/-- Both values are accepted, or both are refused by the same keywords. -/
def SameVerdict (schemas : SchemaRegistry) (fields : List (String × Json)) (x y : String) : Prop :=
  ((schemas.iterErrors "ChangeConfiguration" .request (withValue fields x)).map (·.keyword)).Perm
    ((schemas.iterErrors "ChangeConfiguration" .request (withValue fields y)).map (·.keyword))

/-- The same keywords at the same places. -/
theorem perm_sites {errors errors' : List ValidationError}
    (apart : ((errors.filter fun error => decide (error.instancePath ≠ "/value")).map ValidationError.site).Perm
      ((errors'.filter fun error => decide (error.instancePath ≠ "/value")).map ValidationError.site))
    (same : (errors.map (·.keyword)).Perm (errors'.map (·.keyword))) :
    (errors.map ValidationError.site).Perm (errors'.map ValidationError.site) := by
  have parts (errors : List ValidationError) :
      ((errors.filter fun error => decide (error.instancePath ≠ "/value")) ++
        errors.filter fun error => !decide (error.instancePath ≠ "/value")).Perm errors :=
    List.filter_append_perm _ _
  have value (errors : List ValidationError) :
      (errors.filter fun error => !decide (error.instancePath ≠ "/value")).map ValidationError.site =
        ((errors.filter fun error => !decide (error.instancePath ≠ "/value")).map (·.keyword)).map ("/value", ·) := by
    rw [List.map_map]
    refine List.map_congr_left fun error mem => ?_
    have place : error.instancePath = "/value" := by simpa using (List.mem_filter.mp mem).2
    exact Prod.ext place rfl
  have elsewhere := apart.map Prod.snd
  rw [List.map_map, List.map_map] at elsewhere
  have both := ((parts errors).map (·.keyword)).trans (same.trans ((parts errors').map (·.keyword)).symm)
  rw [List.map_append, List.map_append] at both
  have there := (List.perm_append_left_iff _).mp ((elsewhere.symm.append_right _).trans both)
  have whole := apart.append (there.map (("/value", ·) : String → String × String))
  rw [← value, ← value, ← List.map_append, ← List.map_append] at whole
  exact ((parts errors).map ValidationError.site).symm.trans (whole.trans ((parts errors').map ValidationError.site))

/-- A secret issue tells no more than its place and its keyword. -/
theorem issueOf_secret (error : ValidationError) : SchemaRegistry.issueOf true error =
    { instancePath := error.site.1, keyword := .fromName error.site.2
      message := "violates `" ++ error.site.2 ++ "` (details hidden: the value is a secret)" } := rfl

theorem keywordName_fromName (name : String) : (SchemaKeyword.fromName name).keywordName = name := by
  unfold SchemaKeyword.fromName
  cases found : SchemaKeyword.known.find? fun keyword => keyword.keywordName == name with
  | none => rfl
  | some keyword => simpa using List.find?_some found

/-- The order of the issues does not depend on the traversal. -/
theorem fromIssues_perm {errors errors' : List ValidationError}
    (same : (errors.map ValidationError.site).Perm (errors'.map ValidationError.site)) (action : String)
    (kind : PayloadKind) :
    SchemaViolation.fromIssues action kind (errors.map (SchemaRegistry.issueOf true)) =
      SchemaViolation.fromIssues action kind (errors'.map (SchemaRegistry.issueOf true)) := by
  have issues : (errors.map (SchemaRegistry.issueOf true)).Perm (errors'.map (SchemaRegistry.issueOf true)) := by
    have read := same.map fun site : String × String =>
      ({ instancePath := site.1, keyword := .fromName site.2
         message := "violates `" ++ site.2 ++ "` (details hidden: the value is a secret)" } : SchemaIssue)
    rwa [List.map_map, List.map_map] at read
  have ordered (issues : List SchemaIssue) :
      (issues.mergeSort fun a b => decide (a.sortKey ≤ b.sortKey)).Pairwise fun a b =>
        decide (a.sortKey ≤ b.sortKey) = true := by
    refine pairwise_mergeSort (fun a b c ab bc => ?_) (fun a b => ?_) issues
    · exact decide_eq_true ((of_decide_eq_true ab).trans (of_decide_eq_true bc))
    · rw [Bool.or_eq_true, decide_eq_true_eq, decide_eq_true_eq]
      exact le_total _ _
  have sorted : (errors.map (SchemaRegistry.issueOf true)).mergeSort (fun a b => decide (a.sortKey ≤ b.sortKey)) =
      (errors'.map (SchemaRegistry.issueOf true)).mergeSort (fun a b => decide (a.sortKey ≤ b.sortKey)) := by
    refine Perm.eq_of_pairwise
      (fun issue issue' mem mem' le ge => ?_) (ordered _) (ordered _)
      (((mergeSort_perm _ _).trans issues).trans (mergeSort_perm _ _).symm)
    obtain ⟨error, -, rfl⟩ := List.mem_map.mp ((mergeSort_perm _ _).mem_iff.mp mem)
    obtain ⟨error', -, rfl⟩ := List.mem_map.mp ((mergeSort_perm _ _).mem_iff.mp mem')
    have keys := le_antisymm (of_decide_eq_true le) (of_decide_eq_true ge)
    have keys := toLex.injective keys
    have place : error.instancePath = error'.instancePath := (Prod.mk.inj keys).1
    have keyword : error.keyword = error'.keyword := by
      have names := (Prod.mk.inj (toLex.injective (Prod.mk.inj keys).2)).1
      rwa [issueOf_secret, issueOf_secret, keywordName_fromName, keywordName_fromName] at names
    rw [issueOf_secret, issueOf_secret, ValidationError.site, ValidationError.site, place, keyword]
  unfold SchemaViolation.fromIssues
  rw [sorted]

variable {schemas : SchemaRegistry} {base : Env}

theorem validate_same (sets : SetsKey fields) (apart : JudgesValueApart schemas)
    (same : SameVerdict schemas fields x y) :
    schemas.validate "ChangeConfiguration" .request (withValue fields x) =
      schemas.validate "ChangeConfiguration" .request (withValue fields y) := by
  have sites := perm_sites (apart fields x y) same
  have secret (x : String) : (decide (PayloadKind.request = .request) &&
      carriesAuthorizationKey "ChangeConfiguration" (withValue fields x)) = true := by
    rw [carries_withValue sets]
    rfl
  unfold SchemaRegistry.validate
  dsimp only
  rw [secret, secret, fromIssues_perm sites]
  have count := sites.length_eq
  rw [List.length_map, List.length_map] at count
  have empty : ((schemas.iterErrors "ChangeConfiguration" .request (withValue fields x)).map
      (SchemaRegistry.issueOf true)).isEmpty = ((schemas.iterErrors "ChangeConfiguration" .request
      (withValue fields y)).map (SchemaRegistry.issueOf true)).isEmpty := by
    rw [List.isEmpty_map, List.isEmpty_map, Bool.eq_iff_iff, List.isEmpty_iff_length_eq_zero,
      List.isEmpty_iff_length_eq_zero, count]
  rw [empty]

theorem rejection_same (sets : SetsKey fields) (apart : JudgesValueApart schemas)
    (same : SameVerdict schemas fields x y) :
    Run.rejection (schemas.env base) "ChangeConfiguration" (withValue fields x) =
      Run.rejection (schemas.env base) "ChangeConfiguration" (withValue fields y) := by
  unfold Run.rejection SchemaRegistry.env
  dsimp only
  rw [validate_same sets apart same]

end KirbyOcpp.Schema

namespace KirbyOcpp.Ws

open Schema

/-! ## What the task reports -/

/-- A record of a frame or a warning. -/
def ConnectionEvent.isReport : ConnectionEvent → Bool
  | .frame _ | .protocolWarning _ => true
  | _ => false

/-- The records and the warnings so far, the frames on the wire, and whether the connection ends. -/
def Flow.reported (flow : Flow) : List ConnectionEvent × List Frame × Option Stop :=
  (flow.1.events.filter (·.isReport), flow.1.wire, flow.2)

/-- The array of a `ChangeConfiguration` CALL with the value `x`. -/
def changeConfiguration (id : Json) (fields : List (String × Json)) (rest : List Json) (x : String) : Json :=
  .array (.integer 2 :: id :: .string "ChangeConfiguration" :: withValue fields x :: rest)

/-- The array has the shape of a CALL. -/
def IsCall (id : Json) (rest : List Json) : Prop := (∃ text, id = .string text) ∧ rest = []

namespace Run

/-- The owner takes the next event. -/
def takesNext (r : Run) : Bool :=
  match r.io with
  | [] => true
  | io :: _ => io.failure.isNone

variable {r : Run} {fields : List (String × Json)} {x y : String}

theorem giveUps_events (callers : List Caller) (r : Run) : (callers.foldl giveUp r).events = r.events := by
  induction callers generalizing r with
  | nil => rfl
  | cons caller callers ih => exact ih (r.giveUp caller)

theorem giveUps_wire (callers : List Caller) (r : Run) : (callers.foldl giveUp r).wire = r.wire := by
  induction callers generalizing r with
  | nil => rfl
  | cons caller callers ih => exact ih (r.giveUp caller)

/-- A later run has the events of an earlier one. -/
theorem attempt_events (done : Run → Run) (keeps : ∀ r, r.events <:+ (done r).events) (r : Run) :
    r.events <:+ (r.attempt done).1.events := by
  unfold attempt
  split
  · exact keeps r
  · rename_i rest taken
    split
    · rw [giveUps_events]
      exact keeps { r with io := rest }
    · exact ⟨[], (giveUps_events _ { r with io := rest }).symm⟩

theorem emit_events (event : ConnectionEvent) (r : Run) : r.events <:+ (r.emit event).1.events := by
  have step := attempt_events (fun r => id { r with events := event :: r.events })
    (fun r => List.suffix_cons event r.events) r
  unfold emit hand
  split
  · rename_i attempted
    rw [attempted] at step
    exact step
  · rename_i attempted
    rw [attempted] at step
    exact step

theorem andThen_events {flow : Flow} {rest : Run → Flow} (first : r.events <:+ flow.1.events)
    (then_ : ∀ r : Run, r.events <:+ (rest r).1.events) : r.events <:+ (flow.andThen rest).1.events := by
  unfold Flow.andThen
  split
  · exact first.trans (then_ _)
  · exact first

theorem write_events (frame : Frame) (action : Option String) (entry : Rpc.Event Caller MessageId CallResult)
    (r : Run) : r.events <:+ (r.write frame action entry).1.events := by
  have step := attempt_events (fun r : Run => { r with wire := frame :: r.wire, log := entry :: r.log })
    (fun r => List.suffix_rfl) r
  unfold write
  refine andThen_events ?_ fun r => emit_events _ r
  unfold sendMessage
  split
  · rename_i attempted
    rw [attempted] at step
    exact step
  · rename_i attempted
    rw [attempted] at step
    exact step

/-- An event that the owner takes. -/
theorem emit_taken (takes : r.takesNext = true) (event : ConnectionEvent) :
    ∃ r', r.emit event = (r', none) ∧ r'.events = event :: r.events := by
  unfold takesNext at takes
  unfold emit hand attempt
  cases io : r.io with
  | nil => exact ⟨_, rfl, rfl⟩
  | cons first rest =>
    rw [io] at takes
    have goes : first.failure = none := Option.isNone_iff_eq_none.mp takes
    dsimp only
    rw [goes]
    exact ⟨_, rfl, giveUps_events _ _⟩

/-- An event that it does not take leaves nothing behind. -/
theorem emit_refused (refuses : r.takesNext = false) :
    ∃ r', ∀ event, r.emit event = (r', some .requested) := by
  unfold takesNext at refuses
  unfold emit hand attempt
  cases io : r.io with
  | nil =>
    rw [io] at refuses
    cases refuses
  | cons first rest =>
    rw [io] at refuses
    obtain ⟨failure, fails⟩ := Option.isSome_iff_exists.mp (by simpa using refuses)
    refine ⟨first.gaveUp.foldl giveUp { r with io := rest }, fun event => ?_⟩
    dsimp only
    rw [fails]

variable {env : Env} {text text' : String}

/-- A text that is no frame is recorded as it came. -/
theorem brokenText_records (env : Env) (takes : r.takesNext = true) (text : String) (error : FrameError) :
    (.frame { direction := .in, msgId := error.messageId, action := none, frame := .string text } :: r.events) <:+
      (r.brokenText env text error).1.events := by
  obtain ⟨taken, emitted, events⟩ := emit_taken takes
    (.frame { direction := .in, msgId := error.messageId, action := none, frame := .string text })
  unfold brokenText
  rw [emitted, ← events]
  refine andThen_events List.suffix_rfl fun r => andThen_events (emit_events _ r) fun r => ?_
  split
  · exact write_events _ _ _ r
  · exact List.suffix_rfl

theorem brokenText_refused (refuses : r.takesNext = false) (text text' : String) (error : FrameError) :
    r.brokenText env text error = r.brokenText env text' error := by
  obtain ⟨stopped, emitted⟩ := emit_refused refuses
  unfold brokenText
  rw [emitted, emitted]

/-! ## The frame -/

theorem parse_call (env : Env) {id : MessageId}
    (read : env.fromStr text = .ok (changeConfiguration (.string id) fields [] x)) :
    Frame.parse env.fromStr text = .ok (.call id "ChangeConfiguration" (withValue fields x)) := by
  unfold Frame.parse
  rw [read]
  rfl

/-- What is wrong with a frame does not depend on the value. -/
theorem tryFrom_broken {id : Json} {rest : List Json} (broken : ¬IsCall id rest) (fields : List (String × Json)) :
    ∃ error, ∀ x, Frame.tryFrom (changeConfiguration id fields rest x) = .error error := by
  cases rest with
  | cons next rest =>
    refine ⟨{ kind := .wrongLength 4 (rest.length + 5), messageType := some 2, messageId := id.asStr }, fun x => ?_⟩
    unfold changeConfiguration Frame.tryFrom
    rfl
  | nil =>
    refine ⟨{ kind := .invalidField "messageId" "a string", messageType := some 2, messageId := id.asStr },
      fun x => ?_⟩
    cases id with
    | string text => exact absurd ⟨⟨text, rfl⟩, rfl⟩ broken
    | _ => rfl

/-- The CALL is delivered or refused, and reported the same. -/
theorem incomingCall_reported {schemas : SchemaRegistry} {base : Env} (sets : SetsKey fields)
    (apart : JudgesValueApart schemas) (same : SameVerdict schemas fields x y) (id : MessageId) (r : Run) :
    (r.incomingCall (schemas.env base) id "ChangeConfiguration" (withValue fields x)).reported =
      (r.incomingCall (schemas.env base) id "ChangeConfiguration" (withValue fields y)).reported := by
  unfold incomingCall
  rw [rejection_same sets apart same]
  dsimp only
  split
  · rfl
  · split
    · rfl
    · -- The delivered CALL is no report.
      unfold hand attempt
      dsimp only
      cases r.io with
      | nil => rfl
      | cons io rest =>
        dsimp only
        cases io.failure with
        | none =>
          dsimp only
          unfold Flow.reported
          simp only [giveUps_events, giveUps_wire, note]
          rfl
        | some failure => rfl

/-- A frame that can be read is reported the same. -/
theorem incomingText_reported {schemas : SchemaRegistry} {base : Env} (sets : SetsKey fields)
    (apart : JudgesValueApart schemas) (same : SameVerdict schemas fields x y) (hidden : r.showSecrets = false)
    {id : MessageId} (read : base.fromStr text = .ok (changeConfiguration (.string id) fields [] x))
    (read' : base.fromStr text' = .ok (changeConfiguration (.string id) fields [] y)) :
    (r.incomingText (schemas.env base) text).reported = (r.incomingText (schemas.env base) text').reported := by
  have recorded : r.recorded (.call id "ChangeConfiguration" (withValue fields x)) =
      r.recorded (.call id "ChangeConfiguration" (withValue fields y)) := by
    unfold recorded
    rw [hidden, if_neg Bool.false_ne_true, if_neg Bool.false_ne_true, redactSecrets_withValue sets id x y]
  unfold incomingText
  rw [parse_call (schemas.env base) read, parse_call (schemas.env base) read']
  dsimp only [Frame.id, frameAction]
  rw [recorded]
  split
  · rw [rejection_same sets apart same]
  · exact incomingCall_reported sets apart same id _

/-- The texts are recorded as they came, so the records differ. -/
theorem brokenText_reported (takes : r.takesNext = true) (differ : text ≠ text') (error : FrameError) :
    (r.brokenText env text error).reported ≠ (r.brokenText env text' error).reported := by
  intro same
  obtain ⟨later, events⟩ := brokenText_records env takes text error
  obtain ⟨later', events'⟩ := brokenText_records env takes text' error
  have same := (Prod.mk.inj same).1
  rw [← events, ← events', List.filter_append, List.filter_append] at same
  have records := List.append_inj_right' same rfl
  have record := (List.cons.inj records).1
  exact differ (Json.string.inj (FrameRecord.mk.inj (ConnectionEvent.frame.inj record)).2.2.2)

theorem incomingText_broken {schemas : SchemaRegistry} {base : Env} {id : Json} {rest : List Json} {error : FrameError}
    (read : base.fromStr text = .ok (changeConfiguration id fields rest x))
    (broken : ∀ x, Frame.tryFrom (changeConfiguration id fields rest x) = .error error) :
    r.incomingText (schemas.env base) text = r.brokenText (schemas.env base) text error := by
  unfold incomingText Frame.parse
  rw [show (schemas.env base).fromStr text = _ from read]
  dsimp only
  rw [broken]

/-- Two texts that set `AuthorizationKey` to different values are reported the same if the task can read the frame, or
if nobody takes its reports. -/
theorem incomingText_reported_iff {schemas : SchemaRegistry} {base : Env} (sets : SetsKey fields)
    (apart : JudgesValueApart schemas) (same : SameVerdict schemas fields x y) (hidden : r.showSecrets = false)
    (differ : x ≠ y) {id : Json} {rest : List Json}
    (read : base.fromStr text = .ok (changeConfiguration id fields rest x))
    (read' : base.fromStr text' = .ok (changeConfiguration id fields rest y)) :
    (r.incomingText (schemas.env base) text).reported = (r.incomingText (schemas.env base) text').reported ↔
      IsCall id rest ∨ r.takesNext = false := by
  by_cases shape : IsCall id rest
  · obtain ⟨⟨id, rfl⟩, rfl⟩ := shape
    exact iff_of_true (incomingText_reported sets apart same hidden read read') (.inl ⟨⟨id, rfl⟩, rfl⟩)
  · obtain ⟨error, broken⟩ := tryFrom_broken shape fields
    rw [incomingText_broken read broken, incomingText_broken read' broken]
    cases takes : r.takesNext with
    | false =>
      rw [brokenText_refused takes text text' error]
      exact iff_of_true rfl (.inr rfl)
    | true =>
      have texts : text ≠ text' := by
        rintro rfl
        have values := Except.ok.inj (read.symm.trans read')
        have items := (List.cons.inj (List.cons.inj (List.cons.inj (Json.array.inj values)).2).2).2
        exact withValue_ne sets differ (List.cons.inj items).1
      refine iff_of_false (brokenText_reported takes texts error) ?_
      rintro (call | refuses)
      · exact shape call
      · cases refuses

/-! ## Two texts -/

/-- A JSON reader that knows two texts. -/
def readerOf (first second : String) (value value' : Json) : Env :=
  { fromStr := fun text => if text = first then .ok value else if text = second then .ok value' else .error "unread"
    render := fun _ => "", knowsAction := fun _ => true, validateRequest := fun _ _ => .ok ()
    validateResponse := fun _ _ => .ok (), newV4 := toString, latest := 0 }

theorem readerOf_first (first second : String) (value value' : Json) :
    (readerOf first second value value').fromStr first = .ok value := if_pos rfl

theorem readerOf_second {first second : String} (differ : first ≠ second) (value value' : Json) :
    (readerOf first second value value').fromStr second = .ok value' :=
  (if_neg differ.symm).trans (if_pos rfl)

/-- The part of the schema of `ChangeConfiguration` that judges the value: at most 500 characters. -/
def valueSchemas : SchemaRegistry where
  iterErrors _ _ payload :=
    match payload with
    | .object fields =>
      match (fields.lookup "value").bind Json.asStr with
      | some text =>
        if 500 < text.length then
          [{ instancePath := "/value", keyword := "maxLength", message := text ++ " is longer than 500 characters" }]
        else []
      | none => []
    | _ => []

theorem valueSchemas_apart : JudgesValueApart valueSchemas := by
  have silent (payload : Json) : ((valueSchemas.iterErrors "ChangeConfiguration" .request payload).filter fun error =>
      decide (error.instancePath ≠ "/value")) = [] := by
    unfold valueSchemas
    dsimp only
    split
    · split
      · split <;> rfl
      · rfl
    · rfl
  intro fields x y
  rw [silent, silent]

/-- The members of a CALL that sets `AuthorizationKey`. -/
def keyFields : List (String × Json) := [("key", .string "authorizationKEY"), ("value", .null)]

theorem keyFields_sets : SetsKey keyFields where
  key := by
    show isAuthorizationKey "authorizationKEY" = true
    decide +kernel
  value := by decide

theorem valueSchemas_short {x : String} (short : ¬500 < x.length) :
    valueSchemas.iterErrors "ChangeConfiguration" .request (withValue keyFields x) = [] := if_neg short

theorem valueSchemas_same {x y : String} (short : ¬500 < x.length) (short' : ¬500 < y.length) :
    SameVerdict valueSchemas keyFields x y := by
  unfold SameVerdict
  rw [valueSchemas_short short, valueSchemas_short short']

/-- The text of the CALL, with more elements of the array in `rest`. -/
def keyText (rest x : String) : String :=
  "[2,\"7\",\"ChangeConfiguration\",\x7b\"key\":\"authorizationKEY\",\"value\":\"" ++ x ++ "\"\x7d" ++ rest ++ "]"

/-- A reader of the two texts with the values `x` and `y`. -/
def keyReader (text : String) (rest : List Json) (x y : String) : Env :=
  readerOf (keyText text x) (keyText text y) (changeConfiguration (.string "7") keyFields rest x)
    (changeConfiguration (.string "7") keyFields rest y)

theorem incomingText_reported_iff_read :
    (({} : Run).incomingText (valueSchemas.env (keyReader "" [] "0123456789abcdef" "fedcba9876543210"))
        (keyText "" "0123456789abcdef")).reported =
      (({} : Run).incomingText (valueSchemas.env (keyReader "" [] "0123456789abcdef" "fedcba9876543210"))
        (keyText "" "fedcba9876543210")).reported := by
  have same : SameVerdict valueSchemas keyFields "0123456789abcdef" "fedcba9876543210" :=
    valueSchemas_same (by decide) (by decide)
  have texts : keyText "" "0123456789abcdef" ≠ keyText "" "fedcba9876543210" := by decide
  exact (incomingText_reported_iff keyFields_sets valueSchemas_apart same rfl (by decide) (readerOf_first _ _ _ _)
    (readerOf_second texts _ _)).mpr (.inl ⟨⟨"7", rfl⟩, rfl⟩)

/-- With a fifth element the texts are recorded as they came. -/
theorem fifthElement_reported :
    SetsKey keyFields ∧ SameVerdict valueSchemas keyFields "0123456789abcdef" "fedcba9876543210" ∧
    (keyReader ",null" [.null] "0123456789abcdef" "fedcba9876543210").fromStr (keyText ",null" "0123456789abcdef") =
      .ok (changeConfiguration (.string "7") keyFields [.null] "0123456789abcdef") ∧
    (keyReader ",null" [.null] "0123456789abcdef" "fedcba9876543210").fromStr (keyText ",null" "fedcba9876543210") =
      .ok (changeConfiguration (.string "7") keyFields [.null] "fedcba9876543210") ∧
    (({} : Run).incomingText (valueSchemas.env (keyReader ",null" [.null] "0123456789abcdef" "fedcba9876543210"))
        (keyText ",null" "0123456789abcdef")).reported ≠
      (({} : Run).incomingText (valueSchemas.env (keyReader ",null" [.null] "0123456789abcdef" "fedcba9876543210"))
        (keyText ",null" "fedcba9876543210")).reported := by
  have texts : keyText ",null" "0123456789abcdef" ≠ keyText ",null" "fedcba9876543210" := by decide
  have read : (keyReader ",null" [.null] "0123456789abcdef" "fedcba9876543210").fromStr
      (keyText ",null" "0123456789abcdef") =
      .ok (changeConfiguration (.string "7") keyFields [.null] "0123456789abcdef") := readerOf_first _ _ _ _
  have read' : (keyReader ",null" [.null] "0123456789abcdef" "fedcba9876543210").fromStr
      (keyText ",null" "fedcba9876543210") =
      .ok (changeConfiguration (.string "7") keyFields [.null] "fedcba9876543210") := readerOf_second texts _ _
  refine ⟨keyFields_sets, valueSchemas_same (by decide) (by decide), read, read', ?_⟩
  obtain ⟨error, broken⟩ := tryFrom_broken
    (show ¬IsCall (.string "7") [.null] from fun call => by cases call.2) keyFields
  rw [incomingText_broken read broken, incomingText_broken read' broken]
  exact brokenText_reported rfl texts error

end Run

end KirbyOcpp.Ws
