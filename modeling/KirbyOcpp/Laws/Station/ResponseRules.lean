import KirbyOcpp.Laws.Ocpp.Text
import KirbyOcpp.Station.ResponseRules

/-!
# Response rules print, parse and count down

What the parser accepts is well formed, and a printed rule parses back to itself exactly if it is well
formed and an unlimited rule does not end like a counted one. A rule list holds at most one rule of an
action, which is answered with exactly as often as it counts.
-/

namespace KirbyOcpp

open Ws (ErrorCode)

/-! ## Names -/

theorem canonicalAction_of_mem : ∀ action ∈ inboundActions, canonicalAction action = .ok action := by
  decide +kernel

theorem inboundActions_apart : ∀ action ∈ inboundActions, '=' ∉ action := by decide +kernel

theorem mem_of_canonicalAction {name action : Text} (found : canonicalAction name = .ok action) :
    action ∈ inboundActions := by
  unfold canonicalAction at found
  split at found
  · next known known' =>
    cases found
    exact List.mem_of_find?_eq_some known'
  · cases found

theorem standardCode_of_mem : ∀ code ∈ ErrorCode.standard,
    standardCode code.asStr.toList = some code ∧ Text.trim code.asStr.toList = code.asStr.toList ∧
      ':' ∉ code.asStr.toList ∧ '*' ∉ code.asStr.toList := by
  decide +kernel

theorem mem_of_standardCode {name : Text} {code : ErrorCode} (found : standardCode name = some code) :
    code ∈ ErrorCode.standard :=
  List.mem_of_find?_eq_some found

/-! ## What the parser accepts -/

/-- The behaviors that have a text: the delay is in range, the code is one of OCPP 1.6, and a
description is neither empty nor surrounded by white space. -/
def Behavior.Printable : Behavior → Prop
  | .delay ms => ms.toNat ≤ maxDelayMs
  | .error code description =>
    code ∈ ErrorCode.standard ∧ ∀ text, description = some text → text ≠ [] ∧ Text.trim text = text
  | _ => True

theorem parseDelay_printable {arg : Text} {behavior : Behavior} (parsed : parseDelay arg = .ok behavior) :
    behavior.Printable := by
  unfold parseDelay at parsed
  split at parsed
  · cases parsed
  next ms _ =>
  split at parsed
  · cases parsed
  next short =>
  cases parsed
  have small : ms < 2 ^ 64 := by unfold maxDelayMs at short; omega
  change (UInt64.ofNat ms).toNat ≤ maxDelayMs
  rw [UInt64.toNat_ofNat_of_lt' small]
  exact Nat.le_of_not_lt short

theorem parseError_printable {arg : Text} {behavior : Behavior} (parsed : parseError arg = .ok behavior) :
    behavior.Printable := by
  unfold parseError at parsed
  have shape {code : Text} {known : ErrorCode} (description : Option Text) (found : standardCode code = some known)
      (trimmed : ∀ text, description = some text → Text.trim text = text) :
      (Behavior.error known (description.filter fun t => !t.isEmpty)).Printable := by
    refine ⟨mem_of_standardCode found, fun text some => ?_⟩
    obtain ⟨given, filled⟩ := Option.filter_eq_some_iff.mp some
    exact ⟨by simpa using filled, trimmed text given⟩
  cases split : arg.splitOnce ':' with
  | none =>
    rw [split] at parsed
    dsimp only at parsed
    split at parsed
    · rename_i known found
      cases parsed
      exact shape none found fun _ absent => by cases absent
    · cases parsed
  | some parts =>
    rw [split] at parsed
    dsimp only at parsed
    split at parsed
    · rename_i known found
      cases parsed
      refine shape (some _) found fun text given => ?_
      obtain rfl := Option.some.inj given
      exact Text.trim_trim _
    · cases parsed

theorem parseBehavior_printable {text : Text} {behavior : Behavior}
    (parsed : parseBehavior text = .ok behavior) : behavior.Printable := by
  unfold parseBehavior at parsed
  cases split : text.splitOnce ':' with
  | none =>
    simp only [split] at parsed
    repeat' split at parsed
    all_goals cases parsed
    all_goals exact trivial
  | some parts =>
    simp only [split] at parsed
    split at parsed
    · exact parseDelay_printable parsed
    split at parsed
    · exact parseError_printable parsed
    · cases parsed

/-! ## Counts -/

/-- The text ends in a star and digits, like a count. -/
def EndsInCount (text : Text) : Prop :=
  ∃ head tail, text = head ++ '*' :: tail ∧ tail ≠ [] ∧ ∀ c ∈ tail, Text.isAsciiDigit c = true

theorem star_not_digit {tail : Text} (digits : ∀ c ∈ tail, Text.isAsciiDigit c = true) : '*' ∉ tail :=
  fun star => absurd (digits '*' star) (by decide)

/-- A count is split off. -/
theorem splitCount_count {head tail : Text} (filled : tail ≠ []) (digits : ∀ c ∈ tail, Text.isAsciiDigit c = true) :
    splitCount (head ++ '*' :: tail) =
      match tail.parseU32 with
      | none => .error .badCount
      | some 0 => .error .badCount
      | some count => .ok (head.trimEnd, some (UInt32.ofNat count)) := by
  have counts : (!tail.isEmpty && tail.all Text.isAsciiDigit) = true := by
    simpa [filled] using digits
  rw [splitCount, Text.rsplitOnce_append (star_not_digit digits)]
  exact if_pos counts

/-- Anything else stays. -/
theorem splitCount_plain {text : Text} (plain : ¬EndsInCount text) : splitCount text = .ok (text, none) := by
  by_cases star : '*' ∈ text
  · obtain ⟨head, tail, rfl, apart⟩ := Text.eq_append_of_mem star
    rw [splitCount, Text.rsplitOnce_append apart]
    refine if_neg fun counts => plain ⟨head, tail, rfl, ?_⟩
    simpa using counts
  · rw [splitCount, Text.rsplitOnce_of_not_mem star]

theorem splitCount_none {text head : Text} (split : splitCount text = .ok (head, none)) : ¬EndsInCount text := by
  rintro ⟨front, tail, rfl, filled, digits⟩
  rw [splitCount_count filled digits] at split
  revert split
  cases Text.parseU32 tail with
  | none => exact fun split => nomatch split
  | some count =>
    cases count with
    | zero => exact fun split => nomatch split
    | succ count =>
      intro split
      cases split

theorem endsInCount_append {front text : Text} (apart : '*' ∉ front) :
    EndsInCount (front ++ text) ↔ EndsInCount text := by
  constructor
  · rintro ⟨head, tail, eq, filled, digits⟩
    rcases List.append_eq_append_iff.mp eq with ⟨more, rfl, rest⟩ | ⟨more, rfl, rest⟩
    · exact ⟨more, tail, rest, filled, digits⟩
    · cases more with
      | nil => exact ⟨[], tail, rest.symm, filled, digits⟩
      | cons c more =>
        obtain ⟨rfl, -⟩ := List.cons.inj rest
        exact absurd (by simp) apart
  · rintro ⟨head, tail, rfl, filled, digits⟩
    exact ⟨front ++ head, tail, by simp, filled, digits⟩

theorem not_endsInCount {text : Text} (apart : '*' ∉ text) : ¬EndsInCount text := by
  rintro ⟨head, tail, rfl, -⟩
  exact apart (by simp)

/-! ## The behavior in the middle -/

/-- A rule that the compact form keeps. -/
structure ResponseRule.Printable (rule : ResponseRule) : Prop where
  behavior : rule.behavior.Printable
  /-- Without a count, the text does not end like one. -/
  plain : rule.remaining = none → ∀ code text, rule.behavior = .error code (some text) → ¬EndsInCount text

namespace Behavior

theorem display_delay (ms : UInt64) : (delay ms).display = "delay".toList ++ ':' :: Text.ofNat ms.toNat := rfl

theorem display_error (code : ErrorCode) (text : Text) :
    (error code (some text)).display = ("error:".toList ++ code.asStr.toList) ++ ':' :: text := rfl

theorem display_bare (code : ErrorCode) : (error code none).display = "error:".toList ++ code.asStr.toList :=
  List.append_nil _

/-- A behavior text starts with a letter. -/
theorem display_starts (behavior : Behavior) :
    ∃ c rest, behavior.display = c :: rest ∧ Text.isWhitespace c = false := by
  cases behavior with
  | reject => exact ⟨'r', _, rfl, by decide⟩
  | drop => exact ⟨'d', _, rfl, by decide⟩
  | ignore => exact ⟨'i', _, rfl, by decide⟩
  | delay ms => exact ⟨'d', _, rfl, by decide⟩
  | error code description => exact ⟨'e', _, rfl, by decide⟩

/-- The test for a text without white space runs over the text, not over all characters. -/
theorem not_white_of_all {text : Text} (none : (text.all fun c => !Text.isWhitespace c) = true) :
    ∀ c ∈ text, Text.isWhitespace c = false :=
  fun c mem => Bool.not_eq_true' _ ▸ List.all_eq_true.mp none c mem

theorem codes_solid : ∀ code ∈ ErrorCode.standard,
    (("error:".toList ++ code.asStr.toList).all fun c => !Text.isWhitespace c) = true := by
  decide +kernel

theorem codes_plain : ∀ code ∈ ErrorCode.standard, '*' ∉ "error:".toList ++ code.asStr.toList := by
  decide +kernel

/-- A printable behavior text does not end in white space. -/
theorem trimEnd_display {behavior : Behavior} (printable : behavior.Printable) :
    Text.trimEnd behavior.display = behavior.display := by
  have solid {text : Text} (none : ∀ c ∈ text, Text.isWhitespace c = false) : Text.trimEnd text = text :=
    Text.trimEnd_of_trim (Text.trim_of_none none)
  cases behavior with
  | reject => exact solid (not_white_of_all (by decide +kernel))
  | drop => exact solid (not_white_of_all (by decide +kernel))
  | ignore => exact solid (not_white_of_all (by decide +kernel))
  | delay ms =>
    refine solid fun c mem => ?_
    rcases List.mem_append.mp mem with front | digit
    · have solid : ("delay:".toList.all fun c => !Text.isWhitespace c) = true := by decide +kernel
      exact not_white_of_all solid c front
    · exact Text.not_white_of_digit (Text.ofNat_digits _ c digit)
  | error code description =>
    obtain ⟨standard, described⟩ := printable
    cases description with
    | none =>
      rw [display_bare]
      exact solid (not_white_of_all (codes_solid code standard))
    | some text =>
      rw [display_error, Text.trimEnd_append (by decide), Text.trimEnd_of_trim (described text rfl).2]

/-- A printable behavior text is parsed back. -/
theorem parse_display {behavior : Behavior} (printable : behavior.Printable) :
    parseBehavior behavior.display = .ok behavior := by
  cases behavior with
  | reject => decide +kernel
  | drop => decide +kernel
  | ignore => decide +kernel
  | delay ms =>
    have bound : ms.toNat ≤ 2 ^ 64 - 1 := by have := ms.toNat_lt; omega
    have digits : Text.trim (Text.ofNat ms.toNat) = Text.ofNat ms.toNat :=
      Text.trim_of_none fun c mem => Text.not_white_of_digit (Text.ofNat_digits _ c mem)
    have number : Text.parseU64 (Text.ofNat ms.toNat) = some ms.toNat := by
      rw [Text.parseU64, Text.parseUnsigned_ofNat, if_pos bound]
    have delayed : parseDelay (Text.ofNat ms.toNat) = .ok (.delay ms) := by
      rw [parseDelay, digits, number]
      dsimp only
      rw [if_neg (Nat.not_lt.mpr printable), UInt64.ofNat_toNat]
    have named : Text.toAsciiLowercase (Text.trim "delay".toList) = "delay".toList := by decide +kernel
    rw [display_delay, parseBehavior, Text.splitOnce_append (by decide +kernel)]
    dsimp only
    rw [named, if_pos rfl, delayed]
  | error code description =>
    obtain ⟨standard, described⟩ := printable
    obtain ⟨found, trimmed, apart, -⟩ := standardCode_of_mem code standard
    have named : Text.toAsciiLowercase (Text.trim "error".toList) = "error".toList := by decide +kernel
    have other : "error".toList ≠ "delay".toList := by decide +kernel
    have argument (arg : Text) : parseBehavior ("error".toList ++ ':' :: arg) = parseError arg := by
      rw [parseBehavior, Text.splitOnce_append (by decide +kernel)]
      dsimp only
      rw [named, if_neg other, if_pos rfl]
    cases description with
    | none =>
      rw [display_bare]
      refine (argument code.asStr.toList).trans ?_
      rw [parseError, Text.splitOnce_of_not_mem apart]
      dsimp only
      rw [trimmed, found]
      rfl
    | some text =>
      obtain ⟨filled, inner⟩ := described text rfl
      have kept : (some text).filter (fun t : Text => !t.isEmpty) = some text := by simp [filled]
      refine (argument (code.asStr.toList ++ ':' :: text)).trans ?_
      rw [parseError, Text.splitOnce_append apart]
      dsimp only
      rw [trimmed, inner, found]
      dsimp only
      rw [kept]

/-- Only a description can make a behavior text end like a count. -/
theorem endsInCount_display {behavior : Behavior} (printable : behavior.Printable) :
    EndsInCount behavior.display ↔ ∃ code text, behavior = .error code (some text) ∧ EndsInCount text := by
  have none {text : Text} (apart : '*' ∉ text) (others : ∀ code text, behavior ≠ .error code (some text)) :
      EndsInCount text ↔ ∃ code text, behavior = .error code (some text) ∧ EndsInCount text :=
    iff_of_false (not_endsInCount apart) fun ⟨code, text, eq, _⟩ => others code text eq
  cases behavior with
  | reject => exact none (by decide +kernel) (fun _ _ eq => by cases eq)
  | drop => exact none (by decide +kernel) (fun _ _ eq => by cases eq)
  | ignore => exact none (by decide +kernel) (fun _ _ eq => by cases eq)
  | delay ms =>
    refine none (fun star => ?_) (fun _ _ eq => by cases eq)
    rcases List.mem_append.mp star with front | digit
    · exact absurd front (by decide +kernel)
    · exact star_not_digit (Text.ofNat_digits _) digit
  | error code description =>
    obtain ⟨standard, -⟩ := printable
    cases description with
    | none =>
      rw [display_bare]
      exact none (codes_plain code standard) (fun _ _ eq => by cases eq)
    | some text =>
      have apart : '*' ∉ ("error:".toList ++ code.asStr.toList) ++ [':'] := by
        rw [List.mem_append, not_or]
        exact ⟨codes_plain code standard, by decide⟩
      rw [display_error, List.append_cons, endsInCount_append apart]
      constructor
      · exact fun ends => ⟨code, text, rfl, ends⟩
      · rintro ⟨_, _, eq, ends⟩
        cases eq
        exact ends

end Behavior

/-! ## The whole rule -/

namespace ResponseRule

/-- What the printed rule has after `=`, trimmed. -/
theorem trim_display (rule : ResponseRule) :
    Text.trim (rule.behavior.display ++
      (match rule.remaining with
        | some count => '*' :: Text.ofNat count.toNat
        | none => [])) =
      match rule.remaining with
      | some count => rule.behavior.display ++ '*' :: Text.ofNat count.toNat
      | none => Text.trimEnd rule.behavior.display := by
  obtain ⟨c, rest, starts, solid⟩ := rule.behavior.display_starts
  cases rule.remaining with
  | none =>
    dsimp only
    rw [List.append_nil, starts, Text.trim_cons solid]
  | some count =>
    have digits : Text.trimEnd (Text.ofNat count.toNat) = Text.ofNat count.toNat :=
      Text.trimEnd_of_trim (Text.trim_of_none fun c mem =>
        Text.not_white_of_digit (Text.ofNat_digits _ c mem))
    dsimp only
    rw [starts, List.cons_append, Text.trim_cons solid, ← List.cons_append,
      Text.trimEnd_append (by decide), digits]

/-- The parser on a printed rule, up to the count. -/
theorem fromStr_display {rule : ResponseRule} (known : rule.action ∈ inboundActions) :
    fromStr rule.display =
      match splitCount (match rule.remaining with
        | some count => rule.behavior.display ++ '*' :: Text.ofNat count.toNat
        | none => Text.trimEnd rule.behavior.display) with
      | .error error => .error error
      | .ok (behaviorText, remaining) =>
        match parseBehavior behaviorText with
        | .error error => .error error
        | .ok behavior => .ok { action := rule.action, behavior, remaining } := by
  have split : rule.display.splitOnce '=' = some (rule.action, rule.behavior.display ++
      (match rule.remaining with
        | some count => '*' :: Text.ofNat count.toNat
        | none => [])) := by
    rw [display, List.append_assoc, List.cons_append]
    exact Text.splitOnce_append (inboundActions_apart _ known) _
  have named := canonicalAction_of_mem _ known
  unfold fromStr
  rw [split]
  dsimp only
  rw [trim_display]
  generalize canonicalAction rule.action = name at named ⊢
  subst named
  rfl

/-- The parser only returns rules with a printable behavior. -/
theorem printable_of_fromStr {text : Text} {rule : ResponseRule} (parsed : fromStr text = .ok rule) :
    rule.behavior.Printable := by
  unfold fromStr at parsed
  split at parsed
  · cases parsed
  split at parsed
  · cases parsed
  split at parsed
  · cases parsed
  split at parsed
  · cases parsed
  next parsed' =>
  cases parsed
  exact parseBehavior_printable parsed'

/-- The count of a printed rule is split off again. -/
theorem splitCount_display (behavior : Behavior) {count : UInt32} (positive : count ≠ 0) :
    splitCount (behavior.display ++ '*' :: Text.ofNat count.toNat) =
      .ok (Text.trimEnd behavior.display, some count) := by
  have bound : count.toNat ≤ 2 ^ 32 - 1 := by have := count.toNat_lt; omega
  have number : Text.parseU32 (Text.ofNat count.toNat) = some count.toNat := by
    rw [Text.parseU32, Text.parseUnsigned_ofNat, if_pos bound]
  rw [splitCount_count (Text.ofNat_ne_nil _) (Text.ofNat_digits _), number]
  split
  · next absent => cases absent
  · next zero =>
    exact absurd (UInt32.toNat_inj.mp ((Option.some.inj zero).trans UInt32.toNat_zero.symm)) positive
  · next n _ same =>
    rw [← Option.some.inj same, UInt32.ofNat_toNat]

/-- A rule of a known action with a positive count or none is read back from its compact form exactly
if that form keeps it. -/
theorem fromStr_display_iff {rule : ResponseRule} (known : rule.action ∈ inboundActions)
    (positive : rule.remaining ≠ some 0) : fromStr rule.display = .ok rule ↔ rule.Printable := by
  constructor
  · intro parsed
    have printable := printable_of_fromStr parsed
    refine ⟨printable, fun unlimited code text described ends => ?_⟩
    rw [fromStr_display known, unlimited] at parsed
    dsimp only at parsed
    rw [Behavior.trimEnd_display printable] at parsed
    split at parsed
    · cases parsed
    next behaviorText remaining split' =>
    split at parsed
    · cases parsed
    next behavior _ =>
    have kept : remaining = none := (congrArg ResponseRule.remaining (Except.ok.inj parsed)).trans unlimited
    rw [kept] at split'
    exact splitCount_none split' ((Behavior.endsInCount_display printable).mpr ⟨code, text, described, ends⟩)
  · rintro ⟨printable, plain⟩
    rw [fromStr_display known]
    obtain ⟨action, behavior, remaining⟩ := rule
    cases remaining with
    | some count =>
      dsimp only
      rw [splitCount_display behavior fun zero => positive (congrArg some zero)]
      dsimp only
      rw [Behavior.trimEnd_display printable, Behavior.parse_display printable]
    | none =>
      have whole : ¬EndsInCount behavior.display := fun ends =>
        have ⟨code, text, described, ends'⟩ := (Behavior.endsInCount_display printable).mp ends
        plain rfl code text described ends'
      dsimp only
      rw [Behavior.trimEnd_display printable, splitCount_plain whole]
      dsimp only
      rw [Behavior.parse_display printable]

end ResponseRule

/-! ## The list of rules -/

/-- The rule of an action. -/
def ruleOf (action : Text) (rules : List ResponseRule) : Option ResponseRule :=
  rules.find? fun rule => decide (rule.action = action)

/-- At most one rule of an action. -/
def OnePerAction (rules : List ResponseRule) : Prop := (rules.map (·.action)).Nodup

theorem setRule_actions (rule : ResponseRule) (rules : List ResponseRule) :
    (setRule rule rules).map (·.action) =
      if rule.action ∈ rules.map (·.action) then rules.map (·.action)
      else rules.map (·.action) ++ [rule.action] := by
  induction rules with
  | nil => rfl
  | cons slot rest ih =>
    unfold setRule
    by_cases same : slot.action = rule.action
    · simp [same]
    · rw [if_neg same, List.map_cons, ih]
      by_cases mem : rule.action ∈ rest.map (·.action)
      · have listed : rule.action ∈ (slot :: rest).map (·.action) := List.mem_cons_of_mem _ mem
        rw [if_pos mem, if_pos listed, List.map_cons]
      · have absent : rule.action ∉ (slot :: rest).map (·.action) := by
          rw [List.map_cons, List.mem_cons, not_or]
          exact ⟨Ne.symm same, mem⟩
        rw [if_neg mem, if_neg absent]
        rfl

theorem usedUp_action {rule left : ResponseRule} (kept : rule.usedUp = some left) : left.action = rule.action := by
  obtain ⟨action, behavior, remaining⟩ := rule
  cases remaining with
  | none =>
    cases kept
    rfl
  | some count =>
    simp only [ResponseRule.usedUp] at kept
    generalize (if count = 0 then 0 else count - 1) = down at kept
    by_cases last : down = 0
    · rw [if_pos last] at kept
      cases kept
    · rw [if_neg last] at kept
      cases kept
      rfl

theorem takeRule_actions (action : Text) (rules : List ResponseRule) :
    ((takeRule action rules).2.map (·.action)).Sublist (rules.map (·.action)) := by
  induction rules with
  | nil => exact List.Sublist.refl _
  | cons rule rest ih =>
    unfold takeRule
    split
    · cases used : rule.usedUp with
      | none => exact List.sublist_cons_self _ _
      | some left =>
        rw [Option.toList_some, List.singleton_append, List.map_cons, List.map_cons, usedUp_action used]
    · exact ih.cons_cons _

/-- Every operation keeps one rule per action. -/
theorem OnePerAction.apply {rules : List ResponseRule} (h : OnePerAction rules) (op : RuleOp) :
    OnePerAction (op.apply rules) := by
  cases op with
  | set rule =>
    change ((setRule rule rules).map (·.action)).Nodup
    rw [setRule_actions]
    split
    · exact h
    · next fresh =>
      rw [List.nodup_append]
      refine ⟨h, List.pairwise_singleton _ _, fun a mem b last eq => fresh ?_⟩
      rw [← List.mem_singleton.mp last, ← eq]
      exact mem
  | clear action => exact h.sublist (List.filter_sublist.map _)
  | take action => exact h.sublist (takeRule_actions action rules)

theorem onePerAction_run {rules : List ResponseRule} (h : OnePerAction rules) (ops : List RuleOp) :
    OnePerAction (ops.foldl RuleOp.apply rules) := by
  induction ops generalizing rules with
  | nil => exact h
  | cons op ops ih => exact ih (h.apply op)

theorem ruleOf_cons_pos {action : Text} {rule : ResponseRule} (here : rule.action = action)
    (rest : List ResponseRule) : ruleOf action (rule :: rest) = some rule :=
  List.find?_cons_of_pos (by simpa using here)

theorem ruleOf_cons_neg {action : Text} {rule : ResponseRule} (other : rule.action ≠ action)
    (rest : List ResponseRule) : ruleOf action (rule :: rest) = ruleOf action rest :=
  List.find?_cons_of_neg (by simpa using other)

theorem ruleOf_setRule (action : Text) (rule : ResponseRule) (rules : List ResponseRule) :
    ruleOf action (setRule rule rules) = if rule.action = action then some rule else ruleOf action rules := by
  induction rules with
  | nil => by_cases same : rule.action = action <;> simp [setRule, ruleOf, same]
  | cons slot rest ih =>
    unfold setRule
    by_cases taken : slot.action = rule.action
    · rw [if_pos taken]
      by_cases same : rule.action = action
      · rw [if_pos same, ruleOf_cons_pos same]
      · rw [if_neg same, ruleOf_cons_neg same, ruleOf_cons_neg fun eq => same (taken.symm.trans eq)]
    · rw [if_neg taken]
      by_cases here : slot.action = action
      · have other : rule.action ≠ action := fun eq => taken (here.trans eq.symm)
        rw [if_neg other, ruleOf_cons_pos here, ruleOf_cons_pos here]
      · rw [ruleOf_cons_neg here, ruleOf_cons_neg here, ih]

theorem ruleOf_clearRules (action : Text) (cleared : Option Text) (rules : List ResponseRule) :
    ruleOf action (clearRules cleared rules).1 =
      if cleared.all fun cleared => decide (cleared = action) then none else ruleOf action rules := by
  unfold ruleOf clearRules
  dsimp only
  rw [List.find?_filter]
  cases cleared with
  | none => simp
  | some cleared =>
    by_cases same : cleared = action
    · subst same
      simp
    · rw [if_neg (by simpa using same)]
      congr 1
      funext rule
      by_cases here : rule.action = action
      · have : rule.action ≠ cleared := fun eq => same (eq.symm.trans here)
        simp [here, Ne.symm same]
      · simp [here]

theorem takeRule_fst (action : Text) (rules : List ResponseRule) :
    (takeRule action rules).1 = (ruleOf action rules).map (·.behavior) := by
  induction rules with
  | nil => rfl
  | cons rule rest ih =>
    unfold takeRule
    by_cases here : rule.action = action
    · rw [if_pos here, ruleOf_cons_pos here]
      rfl
    · rw [if_neg here, ruleOf_cons_neg here, ← ih]

theorem ruleOf_eq_none {action : Text} {rules : List ResponseRule} (absent : action ∉ rules.map (·.action)) :
    ruleOf action rules = none := by
  refine List.find?_eq_none.mpr fun rule mem => ?_
  have : rule.action ≠ action := fun eq => absent (eq ▸ List.mem_map_of_mem mem)
  simpa using this

theorem ruleOf_takeRule {rules : List ResponseRule} (h : OnePerAction rules) (taken action : Text) :
    ruleOf action (takeRule taken rules).2 =
      if taken = action then (ruleOf action rules).bind ResponseRule.usedUp else ruleOf action rules := by
  induction rules with
  | nil => simp [takeRule, ruleOf]
  | cons rule rest ih =>
    have h' : OnePerAction rest := (List.nodup_cons.mp h).2
    have fresh : rule.action ∉ rest.map (·.action) := (List.nodup_cons.mp h).1
    unfold takeRule
    by_cases here : rule.action = taken
    · rw [if_pos here]
      by_cases same : taken = action
      · rw [if_pos same, ruleOf_cons_pos (here.trans same), Option.bind_some]
        cases used : rule.usedUp with
        | none => exact ruleOf_eq_none ((here.trans same) ▸ fresh)
        | some left => exact ruleOf_cons_pos ((usedUp_action used).trans (here.trans same)) _
      · have other : rule.action ≠ action := fun eq => same (here.symm.trans eq)
        rw [if_neg same, ruleOf_cons_neg other]
        cases used : rule.usedUp with
        | none => rfl
        | some left => exact ruleOf_cons_neg ((usedUp_action used).symm ▸ other) _
    · rw [if_neg here]
      by_cases mine : rule.action = action
      · have other : taken ≠ action := fun eq => here (mine.trans eq.symm)
        rw [if_neg other, ruleOf_cons_pos mine, ruleOf_cons_pos mine]
      · rw [ruleOf_cons_neg mine, ruleOf_cons_neg mine, ih h']

/-- The operation is about the rule of `action`. -/
def RuleOp.names (action : Text) : RuleOp → Bool
  | .set rule => decide (rule.action = action)
  | .clear cleared => cleared.all fun cleared => decide (cleared = action)
  | .take taken => decide (taken = action)

/-- The operation replaces or clears the rule of `action`. -/
def RuleOp.resets (action : Text) : RuleOp → Bool
  | .take _ => false
  | op => op.names action

/-- The other rules stay. -/
theorem ruleOf_apply {rules : List ResponseRule} (h : OnePerAction rules) {op : RuleOp} {action : Text}
    (other : op.names action = false) : ruleOf action (op.apply rules) = ruleOf action rules := by
  cases op with
  | set rule => exact (ruleOf_setRule action rule rules).trans (if_neg (of_decide_eq_false other))
  | clear cleared => exact (ruleOf_clearRules action cleared rules).trans (if_neg (ne_true_of_eq_false other))
  | take taken => exact (ruleOf_takeRule h taken action).trans (if_neg (of_decide_eq_false other))

/-! ## Counting down -/

/-- The rule of `action` answers with `behavior` and has `n` applications left; without any it is gone. -/
def Counts (action : Text) (behavior : Behavior) (n : Nat) (rules : List ResponseRule) : Prop :=
  if n = 0 then ruleOf action rules = none
  else ∃ rule, ruleOf action rules = some rule ∧ rule.behavior = behavior ∧
    ∃ left, rule.remaining = some left ∧ left.toNat = n

/-- One CALL of the action uses up one application. -/
theorem Counts.take {action : Text} {behavior : Behavior} {n : Nat} {rules : List ResponseRule}
    (h : OnePerAction rules) (counts : Counts action behavior n rules) :
    (takeRule action rules).1 = (if n = 0 then none else some behavior) ∧
      Counts action behavior (n - 1) (takeRule action rules).2 := by
  have after := ruleOf_takeRule h action action
  rw [if_pos rfl] at after
  rw [takeRule_fst]
  unfold Counts at counts ⊢
  by_cases gone : n = 0
  · rw [if_pos gone] at counts
    rw [counts] at after ⊢
    rw [if_pos gone, if_pos (by omega)]
    exact ⟨rfl, after⟩
  · rw [if_neg gone] at counts
    obtain ⟨rule, found, same, left, remaining, count⟩ := counts
    rw [found] at after ⊢
    rw [if_neg gone]
    refine ⟨congrArg some same, ?_⟩
    have more : left ≠ 0 := by
      rintro rfl
      exact gone count.symm
    have down : (left - 1).toNat = n - 1 := by
      have positive : 1 ≤ left.toNat := by omega
      rw [UInt32.toNat_sub_of_le _ _ (by simpa [UInt32.le_iff_toNat_le] using positive), count]
      rfl
    by_cases last : n - 1 = 0
    · have zero : left - 1 = 0 := UInt32.toNat_inj.mp (down.trans last)
      rw [if_pos last, after]
      simp [ResponseRule.usedUp, remaining, more, zero]
    · have above : left - 1 ≠ 0 := fun eq => last (down.symm.trans (congrArg UInt32.toNat eq))
      rw [if_neg last, after]
      refine ⟨{ rule with remaining := some (left - 1) }, ?_, same, left - 1, rfl, down⟩
      simp [ResponseRule.usedUp, remaining, more, above]

theorem Counts.other {action : Text} {behavior : Behavior} {n : Nat} {rules : List ResponseRule}
    (h : OnePerAction rules) (counts : Counts action behavior n rules) {op : RuleOp}
    (away : op.names action = false) : Counts action behavior n (op.apply rules) := by
  unfold Counts at counts ⊢
  rwa [ruleOf_apply h away]

/-- The number of CALLs of an action. -/
def calls (action : Text) (ops : List RuleOp) : Nat := ops.countP fun op => decide (op = .take action)

/-- A counted rule answers exactly the next CALLs of its action, as many as it counts. -/
theorem Counts.run {action : Text} {behavior : Behavior} {n : Nat} {rules : List ResponseRule}
    (h : OnePerAction rules) (counts : Counts action behavior n rules) {ops : List RuleOp}
    (kept : ∀ op ∈ ops, op.resets action = false) :
    takenBehaviors action rules ops =
        List.replicate (min n (calls action ops)) (some behavior) ++
          List.replicate (calls action ops - n) none ∧
      Counts action behavior (n - calls action ops) (ops.foldl RuleOp.apply rules) := by
  induction ops generalizing rules n with
  | nil => simpa [takenBehaviors, calls] using counts
  | cons op ops ih =>
    have later : ∀ op ∈ ops, op.resets action = false := fun op mem => kept op (List.mem_cons_of_mem _ mem)
    have now := kept op List.mem_cons_self
    unfold takenBehaviors
    by_cases mine : op = .take action
    · obtain ⟨answered, counted⟩ := counts.take h
      obtain ⟨rest, final⟩ := ih (h.apply op) (show Counts action behavior (n - 1) (op.apply rules) from mine ▸ counted) later
      have more : calls action (op :: ops) = calls action ops + 1 := by simp [calls, mine]
      rw [if_pos mine, rest, answered, more, List.foldl_cons]
      rw [show n - 1 - calls action ops = n - (calls action ops + 1) by omega] at final
      refine ⟨?_, final⟩
      cases n with
      | zero => simp [List.replicate_succ]
      | succ n =>
        rw [if_neg (Nat.succ_ne_zero n), Nat.add_sub_cancel, Nat.add_min_add_right, List.replicate_succ,
          Nat.add_sub_add_right]
        rfl
    · have away : op.names action = false := by
        cases op with
        | take taken =>
          have : taken ≠ action := fun eq => mine (congrArg _ eq)
          exact decide_eq_false this
        | set rule => exact now
        | clear cleared => exact now
      have same : calls action (op :: ops) = calls action ops := by simp [calls, mine]
      rw [if_neg mine, same, List.nil_append]
      exact ih (h.apply op) (counts.other h away) later

/-- A rule just set with a positive count. -/
theorem counts_setRule {rule : ResponseRule} {count : UInt32} (remaining : rule.remaining = some count)
    (positive : count ≠ 0) (rules : List ResponseRule) :
    Counts rule.action rule.behavior count.toNat (setRule rule rules) := by
  have more : count.toNat ≠ 0 := fun eq => positive (UInt32.toNat_inj.mp (eq.trans UInt32.toNat_zero.symm))
  unfold Counts
  rw [if_neg more]
  exact ⟨rule, (ruleOf_setRule rule.action rule rules).trans (if_pos rfl), rfl, count, remaining, rfl⟩

/-- A rule without a count answers every CALL of its action. -/
theorem unlimited_run {action : Text} {rule : ResponseRule} (unlimited : rule.remaining = none)
    {rules : List ResponseRule} (h : OnePerAction rules) (found : ruleOf action rules = some rule)
    {ops : List RuleOp} (kept : ∀ op ∈ ops, op.resets action = false) :
    takenBehaviors action rules ops = List.replicate (calls action ops) (some rule.behavior) := by
  induction ops generalizing rules with
  | nil => rfl
  | cons op ops ih =>
    have later : ∀ op ∈ ops, op.resets action = false := fun op mem => kept op (List.mem_cons_of_mem _ mem)
    have now := kept op List.mem_cons_self
    have same : ruleOf action (op.apply rules) = some rule := by
      by_cases named : op.names action = true
      · cases op with
        | take taken =>
          obtain rfl := of_decide_eq_true named
          refine (ruleOf_takeRule h taken taken).trans ?_
          rw [if_pos rfl, found, Option.bind_some, ResponseRule.usedUp, unlimited]
        | set other => exact absurd (named.symm.trans now) (by decide)
        | clear cleared => exact absurd (named.symm.trans now) (by decide)
      · exact (ruleOf_apply h (eq_false_of_ne_true named)).trans found
    rw [takenBehaviors, ih (h.apply op) same later]
    by_cases mine : op = .take action
    · rw [if_pos mine, takeRule_fst, found]
      simp [calls, mine, List.replicate_succ]
    · rw [if_neg mine]
      simp [calls, mine]

/-- What is stored by `SetResponseRule`: the rule under its canonical action. -/
theorem setResponseRule_ok {rule stored : ResponseRule} (accepted : setResponseRule rule = .ok stored) :
    stored.action ∈ inboundActions ∧ stored.behavior = rule.behavior ∧ stored.remaining = rule.remaining ∧
      stored.remaining ≠ some 0 := by
  unfold setResponseRule at accepted
  split at accepted
  · cases accepted
  next canonical named =>
  split at accepted
  · cases accepted
  next positive =>
  cases accepted
  exact ⟨mem_of_canonicalAction named, rfl, rfl, positive⟩

/-- The rules of a run: one per action, an operation changes no other rule, and a rule just set answers
the next CALLs of its action until it is replaced or cleared, as many as it counts. -/
structure RuleListLaws (rules : List ResponseRule) : Prop where
  one : OnePerAction rules
  others : ∀ (op : RuleOp) (action : Text), op.names action = false →
    ruleOf action (op.apply rules) = ruleOf action rules
  counted : ∀ (rule : ResponseRule) (count : UInt32), rule.remaining = some count → count ≠ 0 →
    ∀ later : List RuleOp, (∀ op ∈ later, op.resets rule.action = false) →
      takenBehaviors rule.action (setRule rule rules) later =
          List.replicate (min count.toNat (calls rule.action later)) (some rule.behavior) ++
            List.replicate (calls rule.action later - count.toNat) none ∧
        ((ruleOf rule.action (later.foldl RuleOp.apply (setRule rule rules))).isSome = true ↔
          calls rule.action later < count.toNat)
  unlimited : ∀ rule : ResponseRule, rule.remaining = none →
    ∀ later : List RuleOp, (∀ op ∈ later, op.resets rule.action = false) →
      takenBehaviors rule.action (setRule rule rules) later =
        List.replicate (calls rule.action later) (some rule.behavior)

theorem ruleListLaws {rules : List ResponseRule} (h : OnePerAction rules) : RuleListLaws rules where
  one := h
  others := fun _ _ away => ruleOf_apply h away
  counted := fun rule count remaining positive later kept => by
    have counts := counts_setRule remaining positive rules
    have one : OnePerAction (setRule rule rules) := h.apply (.set rule)
    obtain ⟨taken, final⟩ := counts.run one kept
    refine ⟨taken, ?_⟩
    unfold Counts at final
    by_cases gone : count.toNat - calls rule.action later = 0
    · rw [if_pos gone] at final
      rw [final]
      exact iff_of_false Bool.false_ne_true (by omega)
    · rw [if_neg gone] at final
      obtain ⟨left, found, -⟩ := final
      rw [found]
      exact iff_of_true rfl (by omega)
  unlimited := fun rule unlimited later kept =>
    unlimited_run unlimited (h.apply (.set rule)) ((ruleOf_setRule rule.action rule rules).trans (if_pos rfl)) kept

/-- A rule that `SetResponseRule` accepts is read back from its compact form exactly if that form keeps
it, and every list of rules counts down as it should. -/
theorem responseRules_lawful (rule stored : ResponseRule) (ops : List RuleOp) :
    (setResponseRule rule = .ok stored → (ResponseRule.fromStr stored.display = .ok stored ↔ rule.Printable)) ∧
    RuleListLaws (ops.foldl RuleOp.apply []) := by
  constructor
  · intro accepted
    obtain ⟨known, behavior, remaining, positive⟩ := setResponseRule_ok accepted
    rw [ResponseRule.fromStr_display_iff known positive]
    constructor
    · rintro ⟨printable, plain⟩
      exact ⟨behavior ▸ printable, behavior ▸ remaining ▸ plain⟩
    · rintro ⟨printable, plain⟩
      exact ⟨behavior ▸ printable, behavior ▸ remaining ▸ plain⟩
  · exact ruleListLaws (onePerAction_run (show OnePerAction [] from List.nodup_nil) ops)

/-- An unlimited rule with a description that ends like a count is read back as a counted one. -/
theorem rule_misread :
    ¬(∀ rule stored, setResponseRule rule = .ok stored → ResponseRule.fromStr stored.display = .ok stored) := by
  intro keeps
  have stored : setResponseRule
      { action := "Reset".toList, behavior := .error .internalError (some "busy*2".toList), remaining := none } =
      .ok { action := "Reset".toList, behavior := .error .internalError (some "busy*2".toList), remaining := none } := by
    decide +kernel
  have printed := keeps _ _ stored
  revert printed
  decide +kernel

end KirbyOcpp
