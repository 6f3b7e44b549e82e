import KirbyOcpp.Fleet
import KirbyOcpp.Laws.Ocpp.Text
import KirbyOcpp.Data.Lists

/-!
# The ids of a fleet

A template is a row of tokens: characters, doubled braces and placeholders. The parser accepts exactly these
rows (`parseLoop_ok_iff`). A placeholder never gets shorter when the index grows, so two indices with one
expansion agree in every token, also in the placeholders.
-/

namespace KirbyOcpp

/-! ## The grammar -/

/-- What a template is made of. A placeholder has the digits of its width, if it has one. -/
inductive Token where
  | char (c : Char)
  | openBrace
  | closeBrace
  | index (width : Option Text)

namespace Token

/-- How the token is written. -/
def text : Token → Text
  | char c => [c]
  | openBrace => ['{', '{']
  | closeBrace => ['}', '}']
  | index none => ['{', 'n', '}']
  | index (some width) => '{' :: 'n' :: ':' :: (width ++ ['}'])

/-- The width that the digits name. -/
def widthOf (width : Option Text) : Nat := (width.bind (Text.digits 0)).getD 0

/-- A character is no brace, and a width is a row of digits with a value of at most 9. -/
def Valid : Token → Prop
  | char c => c ≠ '{' ∧ c ≠ '}'
  | openBrace => True
  | closeBrace => True
  | index none => True
  | index (some width) => width ≠ [] ∧ ∃ value, Text.digits 0 width = some value ∧ value ≤ maxWidth

/-- What the token stands for in the id of a station. -/
def expand (n : Nat) : Token → Text
  | char c => [c]
  | openBrace => ['{']
  | closeBrace => ['}']
  | index width => Template.padded (widthOf width) n

/-- What the parser makes of the token: parts that are complete, and a literal that may go on. -/
def read : List Part × Text → Token → List Part × Text
  | (parts, literal), char c => (parts, literal ++ [c])
  | (parts, literal), openBrace => (parts, literal ++ ['{'])
  | (parts, literal), closeBrace => (parts, literal ++ ['}'])
  | (parts, literal), index width => (flushLiteral parts literal ++ [.index (widthOf width)], [])

end Token

/-- The tokens spell the template. -/
def Spells (tokens : List Token) (template : Text) : Prop :=
  (∀ token ∈ tokens, token.Valid) ∧ template = tokens.flatMap Token.text

/-- The parts of a template, from the state in which the parser begins. -/
def partsOf (state : List Part × Text) (tokens : List Token) : List Part :=
  let (parts, literal) := tokens.foldl Token.read state
  flushLiteral parts literal

/-! ## Placeholders -/

theorem digits_isSome {text : Text} {value n : Nat} (read : Text.digits value text = some n) :
    text.all Text.isAsciiDigit = true := by
  induction text generalizing value with
  | nil => rfl
  | cons c rest ih =>
    unfold Text.digits at read
    split at read
    · rename_i digit
      rw [List.all_cons, digit, ih read]
      rfl
    · cases read

theorem parseU64_of_digits {width : Text} {value : Nat} (filled : width ≠ []) (all : width.all Text.isAsciiDigit = true)
    (small : value ≤ maxWidth) : Text.parseU64 width = some value ↔ Text.digits 0 width = some value := by
  have fits : value ≤ 2 ^ 64 - 1 := small.trans (by decide)
  unfold Text.parseU64 Text.parseUnsigned
  rw [Text.unsigned_of_digits (List.all_eq_true.mp all), if_neg (by simpa using filled), Option.filter_eq_some_iff]
  exact and_iff_left (decide_eq_true fits)

/-- A width is parsed if and only if it is a row of digits with a small value. -/
theorem parseWidth_eq_some {spec : Text} {value : Nat} :
    parseWidth spec = some value ↔
      ∃ width, spec = ':' :: width ∧ width ≠ [] ∧ Text.digits 0 width = some value ∧ value ≤ maxWidth := by
  constructor
  · intro parsed
    unfold parseWidth at parsed
    split at parsed
    · rename_i width
      split at parsed
      · rename_i digits
        simp only [Bool.and_eq_true, Bool.not_eq_true', List.isEmpty_eq_false_iff] at digits
        obtain ⟨read, small⟩ := Option.filter_eq_some_iff.mp parsed
        have small := of_decide_eq_true small
        exact ⟨width, rfl, digits.1, (parseU64_of_digits digits.1 digits.2 small).mp read, small⟩
      · cases parsed
    · cases parsed
  · rintro ⟨width, rfl, filled, read, small⟩
    have all := digits_isSome read
    rw [parseWidth, if_pos (by simp [filled, all]), (parseU64_of_digits filled all small).mpr read, Option.filter_some,
      decide_eq_true small, if_pos rfl]

/-- What stands between the braces of a placeholder. -/
def inside : Option Text → Text
  | none => ['n']
  | some width => 'n' :: ':' :: width

theorem text_index (width : Option Text) : Token.text (.index width) = '{' :: (inside width ++ ['}']) := by
  cases width <;> rfl

/-- What stands between braces is a placeholder if and only if it is `n` with a valid width or without one. -/
theorem placeholderWidth_ok {inner : Text} {value : Nat} :
    placeholderWidth inner = .ok value ↔
      ∃ width, inner = inside width ∧ Token.Valid (.index width) ∧ value = Token.widthOf width := by
  constructor
  · intro ok
    unfold placeholderWidth at ok
    split at ok
    · rename_i spec
      split at ok
      · rename_i none
        obtain rfl := List.isEmpty_iff.mp none
        exact ⟨.none, rfl, trivial, (Except.ok.inj ok).symm⟩
      · split at ok
        · rename_i width parsed
          obtain ⟨digits, rfl, filled, read, small⟩ := parseWidth_eq_some.mp parsed
          obtain rfl := Except.ok.inj ok
          exact ⟨some digits, rfl, ⟨filled, width, read, small⟩, by simp [Token.widthOf, read]⟩
        · cases ok
    · cases ok
  · rintro ⟨width, rfl, valid, rfl⟩
    cases width with
    | none => rfl
    | some digits =>
      obtain ⟨filled, value, read, small⟩ := valid
      have parsed : parseWidth (':' :: digits) = some value := parseWidth_eq_some.mpr ⟨digits, rfl, filled, read, small⟩
      rw [inside, placeholderWidth, if_neg (by simp), parsed]
      simp [Token.widthOf, read]

theorem not_mem_inside {width : Option Text} (valid : Token.Valid (.index width)) : '}' ∉ inside width := by
  cases width with
  | none => decide
  | some digits =>
    obtain ⟨-, value, read, -⟩ := valid
    have all := List.all_eq_true.mp (digits_isSome read)
    intro mem
    rcases List.mem_cons.mp mem with eq | mem
    · cases eq
    rcases List.mem_cons.mp mem with eq | mem
    · cases eq
    · exact absurd (all _ mem) (by decide)

/-! ## The parser -/

/-- The inner loop reads up to the next closing brace. -/
theorem parseLoop_inside {inner w : Text} (apart : '}' ∉ w) (parts : List Part) (literal rest : Text) :
    parseLoop (some inner) parts literal (w ++ '}' :: rest) =
      match placeholderWidth (inner ++ w) with
      | .ok width => parseLoop none (flushLiteral parts literal ++ [.index width]) [] rest
      | .error reason => .error reason := by
  induction w generalizing inner with
  | nil =>
    rw [List.nil_append, List.append_nil]
    exact parseLoop.eq_8 _ _ _ _
  | cons c w ih =>
    have here : c ≠ '}' := fun eq => apart (eq ▸ List.mem_cons_self)
    rw [List.cons_append, parseLoop.eq_9 _ _ _ _ _ here, ih fun mem => apart (List.mem_cons_of_mem _ mem),
      List.append_assoc, List.singleton_append]

/-- The parser accepts a row of tokens. -/
theorem parseLoop_tokens {tokens : List Token} (valid : ∀ token ∈ tokens, token.Valid) (parts : List Part)
    (literal : Text) :
    parseLoop none parts literal (tokens.flatMap Token.text) = .ok (partsOf (parts, literal) tokens) := by
  induction tokens generalizing parts literal with
  | nil => rfl
  | cons token rest ih =>
    have here := valid token List.mem_cons_self
    have later := ih fun token mem => valid token (List.mem_cons_of_mem _ mem)
    rw [List.flatMap_cons]
    cases token with
    | char c =>
      rw [Token.text, List.singleton_append,
        parseLoop.eq_6 _ _ _ _ (fun _ brace _ => here.1 brace) (fun _ brace _ => here.2 brace) here.2 here.1]
      exact later parts (literal ++ [c])
    | openBrace => exact later parts (literal ++ ['{'])
    | closeBrace => exact later parts (literal ++ ['}'])
    | index width =>
      have single : ∀ rest', inside width ++ ['}'] ++ rest.flatMap Token.text = '{' :: rest' → False := by
        intro rest' eq
        cases width <;> cases eq
      rw [text_index, List.cons_append, parseLoop.eq_5 _ _ _ single, List.append_assoc, List.singleton_append,
        parseLoop_inside (not_mem_inside here), List.nil_append,
        placeholderWidth_ok.mpr ⟨width, rfl, here, rfl⟩]
      exact later (flushLiteral parts literal ++ [.index (Token.widthOf width)]) []

theorem Spells.nil : Spells [] [] := ⟨fun _ none => (nomatch none), rfl⟩

theorem Spells.cons {token : Token} {tokens : List Token} {rest : Text} (valid : token.Valid)
    (spells : Spells tokens rest) : Spells (token :: tokens) (token.text ++ rest) := by
  obtain ⟨all, rfl⟩ := spells
  exact ⟨List.forall_mem_cons.mpr ⟨valid, all⟩, List.flatMap_cons.symm⟩

/-- What an accepted text was read as. Inside a placeholder its end and its width are still to come. -/
def ReadAs (parts : List Part) (literal text : Text) (result : List Part) : Option Text → Prop
  | none => ∃ tokens, Spells tokens text ∧ result = partsOf (parts, literal) tokens
  | some inner => ∃ w width tokens rest, text = w ++ '}' :: rest ∧ placeholderWidth (inner ++ w) = .ok width ∧
      Spells tokens rest ∧ result = partsOf (flushLiteral parts literal ++ [.index width], []) tokens

/-- The parser accepts nothing but rows of tokens. -/
theorem parseLoop_sound (inner : Option Text) (parts : List Part) (literal text : Text) {result : List Part}
    (ok : parseLoop inner parts literal text = .ok result) : ReadAs parts literal text result inner := by
  induction inner, parts, literal, text using parseLoop.induct with
  | case1 parts literal =>
    rw [parseLoop] at ok
    exact ⟨[], .nil, (Except.ok.inj ok).symm⟩
  | case2 parts literal rest ih =>
    rw [parseLoop] at ok
    obtain ⟨tokens, spells, eq⟩ := ih ok
    exact ⟨.openBrace :: tokens, .cons trivial spells, eq⟩
  | case3 parts literal rest ih =>
    rw [parseLoop] at ok
    obtain ⟨tokens, spells, eq⟩ := ih ok
    exact ⟨.closeBrace :: tokens, .cons trivial spells, eq⟩
  | case4 parts literal rest single =>
    rw [parseLoop.eq_4 _ _ _ single] at ok
    cases ok
  | case5 parts literal rest single ih =>
    rw [parseLoop.eq_5 _ _ _ single] at ok
    obtain ⟨w, value, tokens, rest', rfl, placeholder, spells, eq⟩ := ih ok
    obtain ⟨width, rfl, valid, rfl⟩ := placeholderWidth_ok.mp placeholder
    refine ⟨.index width :: tokens, ?_, eq⟩
    have written : '{' :: (inside width ++ '}' :: rest') = Token.text (.index width) ++ rest' := by
      rw [text_index]
      simp
    exact written ▸ .cons valid spells
  | case6 parts literal c rest noOpen noClose noUnmatched noIndex ih =>
    rw [parseLoop.eq_6 _ _ _ _ noOpen noClose noUnmatched noIndex] at ok
    obtain ⟨tokens, spells, eq⟩ := ih ok
    exact ⟨.char c :: tokens, .cons ⟨noIndex, noUnmatched⟩ spells, eq⟩
  | case7 inner parts literal =>
    rw [parseLoop] at ok
    cases ok
  | case8 inner parts literal rest width placeholder ih =>
    rw [parseLoop.eq_8, placeholder] at ok
    obtain ⟨tokens, spells, eq⟩ := ih ok
    exact ⟨[], width, tokens, rest, rfl, by rwa [List.append_nil], spells, eq⟩
  | case9 inner parts literal rest reason refused =>
    rw [parseLoop.eq_8, refused] at ok
    cases ok
  | case10 inner parts literal c rest more ih =>
    rw [parseLoop.eq_9 _ _ _ _ _ more] at ok
    obtain ⟨w, width, tokens, rest', rfl, placeholder, spells, eq⟩ := ih ok
    exact ⟨c :: w, width, tokens, rest', rfl, by simpa using placeholder, spells, eq⟩

/-- The parser accepts exactly the rows of tokens, each as its parts. -/
theorem parseLoop_ok_iff {template : Text} {parts : List Part} :
    parseLoop none [] [] template = .ok parts ↔
      ∃ tokens, Spells tokens template ∧ parts = partsOf ([], []) tokens := by
  constructor
  · exact parseLoop_sound none [] [] template
  · rintro ⟨tokens, ⟨valid, rfl⟩, rfl⟩
    exact parseLoop_tokens valid [] []

/-! ## What the parts are worth -/

theorem expand_append (n : Nat) (parts parts' : List Part) :
    Template.expand (parts ++ parts') n = Template.expand parts n ++ Template.expand parts' n := List.flatMap_append

theorem expand_flushLiteral (n : Nat) (parts : List Part) (literal : Text) :
    Template.expand (flushLiteral parts literal) n = Template.expand parts n ++ literal := by
  unfold flushLiteral
  split
  · rename_i none
    rw [List.isEmpty_iff.mp none, List.append_nil]
  · rw [expand_append]
    exact congrArg _ (List.flatMap_singleton _ _)

/-- The parts of a row of tokens expand to what the tokens stand for. -/
theorem expand_partsOf (n : Nat) (tokens : List Token) (parts : List Part) (literal : Text) :
    Template.expand (partsOf (parts, literal) tokens) n =
      Template.expand parts n ++ literal ++ tokens.flatMap (Token.expand n) := by
  induction tokens generalizing parts literal with
  | nil => rw [List.flatMap_nil, List.append_nil, ← expand_flushLiteral n parts literal]; rfl
  | cons token rest ih =>
    cases token with
    | char c => exact (ih parts (literal ++ [c])).trans (by simp [Token.expand])
    | openBrace => exact (ih parts (literal ++ ['{'])).trans (by simp [Token.expand])
    | closeBrace => exact (ih parts (literal ++ ['}'])).trans (by simp [Token.expand])
    | index width =>
      refine (ih (flushLiteral parts literal ++ [.index (Token.widthOf width)]) []).trans ?_
      rw [expand_append, expand_flushLiteral]
      simp [Token.expand, Template.expand, Template.expandPart]

theorem hasPlaceholder_append (parts parts' : List Part) :
    Template.hasPlaceholder (parts ++ parts') = (Template.hasPlaceholder parts || Template.hasPlaceholder parts') :=
  List.any_append

theorem hasPlaceholder_flushLiteral (parts : List Part) (literal : Text) :
    Template.hasPlaceholder (flushLiteral parts literal) = Template.hasPlaceholder parts := by
  unfold flushLiteral
  split
  · rfl
  · rw [hasPlaceholder_append]
    exact Bool.or_false _

theorem hasPlaceholder_partsOf (tokens : List Token) (parts : List Part) (literal : Text) :
    Template.hasPlaceholder (partsOf (parts, literal) tokens) = true ↔
      Template.hasPlaceholder parts = true ∨ ∃ width, .index width ∈ tokens := by
  induction tokens generalizing parts literal with
  | nil =>
    show Template.hasPlaceholder (flushLiteral parts literal) = true ↔ _
    rw [hasPlaceholder_flushLiteral]
    simp
  | cons token rest ih =>
    cases token with
    | char c => exact (ih parts (literal ++ [c])).trans (by simp)
    | openBrace => exact (ih parts (literal ++ ['{'])).trans (by simp)
    | closeBrace => exact (ih parts (literal ++ ['}'])).trans (by simp)
    | index width =>
      refine (ih (flushLiteral parts literal ++ [.index (Token.widthOf width)]) []).trans ?_
      have placeholder : Template.hasPlaceholder (flushLiteral parts literal ++ [.index (Token.widthOf width)]) = true := by
        rw [hasPlaceholder_append]
        exact Bool.or_true _
      simp [placeholder]

/-! ## Padded indices -/

theorem ofNat_length_mono {n m : Nat} (le : n ≤ m) : (Text.ofNat n).length ≤ (Text.ofNat m).length := by
  have filled : 0 < (Text.ofNat m).length := List.length_pos_iff.mpr (Text.ofNat_ne_nil m)
  have bound : m < 10 ^ (Text.ofNat m).length := (Nat.length_toDigits_le_iff (by decide) filled).mp (Nat.le_refl _)
  exact (Nat.length_toDigits_le_iff (by decide) filled).mpr (Nat.lt_of_le_of_lt le bound)

theorem padded_length_mono (width : Nat) {n m : Nat} (le : n ≤ m) :
    (Template.padded width n).length ≤ (Template.padded width m).length := by
  have grows := ofNat_length_mono le
  unfold Template.padded
  dsimp only
  rw [List.length_append, List.length_append, List.length_replicate, List.length_replicate]
  omega

theorem digits_zeros (k : Nat) (text : Text) : Text.digits 0 (List.replicate k '0' ++ text) = Text.digits 0 text := by
  induction k with
  | zero => rfl
  | succ k ih =>
    rw [List.replicate_succ, List.cons_append, Text.digits, if_pos (by decide)]
    exact ih

/-- A padded index reads back as itself. -/
theorem digits_padded (width n : Nat) : Text.digits 0 (Template.padded width n) = some n :=
  (digits_zeros _ _).trans (Text.digits_ofNat n)

/-- No token gets shorter when the index grows. -/
theorem expand_length_mono {n m : Nat} (le : n ≤ m) (token : Token) :
    (token.expand n).length ≤ (token.expand m).length := by
  cases token with
  | index width => exact padded_length_mono _ le
  | _ => exact Nat.le_refl _

/-- With a placeholder, different indices have different expansions. -/
theorem flatMap_expand_injective {tokens : List Token} {width : Option Text} (mem : .index width ∈ tokens) :
    Function.Injective fun n => tokens.flatMap (Token.expand n) := by
  have wlog {n m : Nat} (le : n ≤ m) (same : tokens.flatMap (Token.expand n) = tokens.flatMap (Token.expand m)) :
      n = m := by
    have piece := Lists.eq_of_flatMap_eq (fun token _ => expand_length_mono le token) same _ mem
    exact Option.some.inj ((digits_padded _ n).symm.trans ((congrArg (Text.digits 0) piece).trans (digits_padded _ m)))
  intro n m same
  rcases Nat.le_total n m with le | le
  · exact wlog le same
  · exact (wlog le same.symm).symm

/-! ## The ids -/

theorem parse_ok_iff {template : Text} {parts : List Part} :
    Template.parse template = .ok parts ↔ ∃ tokens, Spells tokens template ∧ parts = partsOf ([], []) tokens := by
  rw [← parseLoop_ok_iff]
  unfold Template.parse
  cases parseLoop none [] [] template with
  | ok parts' => simp
  | error reason => simp

theorem checkedAdd_eq_some {a b last : UInt32} :
    checkedAdd a b = some last ↔ a.toNat + b.toNat < 2 ^ 32 ∧ last.toNat = a.toNat + b.toNat := by
  unfold checkedAdd
  by_cases fits : a.toNat + b.toNat < 2 ^ 32
  · rw [if_pos fits, Option.some.injEq, ← UInt32.toNat_inj, UInt32.toNat_add, Nat.mod_eq_of_lt fits]
    exact ⟨fun eq => ⟨fits, eq.symm⟩, fun h => h.2.symm⟩
  · rw [if_neg fits]
    exact iff_of_false (fun none => nomatch none) fun h => fits h.1

namespace FleetSpec

/-- The ids of a spec within its bounds. -/
theorem ids_of_bounds {spec : FleetSpec} (least : 1 ≤ spec.count.toNat) (most : spec.count.toNat ≤ maxCount)
    (fits : spec.firstIndex.toNat + (spec.count.toNat - 1) < 2 ^ 32) :
    spec.ids = match Template.parse spec.idTemplate with
      | .error error => .error error
      | .ok template =>
        if 1 < spec.count.toNat && !Template.hasPlaceholder template then
          .error (.noPlaceholder spec.idTemplate spec.count)
        else .ok ((List.range' spec.firstIndex.toNat spec.count.toNat).map (Template.expand template)) := by
  have before : (spec.count - 1).toNat = spec.count.toNat - 1 :=
    UInt32.toNat_sub_of_le spec.count 1 (UInt32.le_iff_toNat_le.mpr least)
  have added : checkedAdd spec.firstIndex (spec.count - 1) = some (spec.firstIndex + (spec.count - 1)) := by
    unfold checkedAdd
    rw [if_pos (by rwa [before])]
  obtain ⟨-, last⟩ := checkedAdd_eq_some.mp added
  have length : (spec.firstIndex + (spec.count - 1)).toNat + 1 - spec.firstIndex.toNat = spec.count.toNat := by
    rw [last, before]
    omega
  unfold ids
  rw [if_neg (not_not.mpr ⟨least, most⟩), added]
  dsimp only
  generalize (spec.firstIndex + (spec.count - 1)).toNat + 1 - spec.firstIndex.toNat = count at length
  subst length
  rfl

theorem bounds_of_ok {spec : FleetSpec} {ids : List Text} (ok : spec.ids = .ok ids) :
    1 ≤ spec.count.toNat ∧ spec.count.toNat ≤ maxCount ∧
      spec.firstIndex.toNat + (spec.count.toNat - 1) < 2 ^ 32 := by
  unfold FleetSpec.ids at ok
  split at ok
  · cases ok
  rename_i bounds
  obtain ⟨least, most⟩ := not_not.mp bounds
  split at ok
  · cases ok
  rename_i last added
  obtain ⟨fits, -⟩ := checkedAdd_eq_some.mp added
  rw [UInt32.toNat_sub_of_le spec.count 1 (UInt32.le_iff_toNat_le.mpr least)] at fits
  exact ⟨least, most, fits⟩

/-- The ids of the parts are what the tokens stand for. -/
theorem expand_tokens (tokens : List Token) :
    Template.expand (partsOf ([], []) tokens) = fun n => tokens.flatMap (Token.expand n) :=
  funext fun n => expand_partsOf n tokens [] []

theorem hasPlaceholder_tokens (tokens : List Token) :
    Template.hasPlaceholder (partsOf ([], []) tokens) = true ↔ ∃ width, .index width ∈ tokens :=
  (hasPlaceholder_partsOf tokens [] []).trans (or_iff_right (fun none => nomatch none))

/-- A spec has ids if and only if its bounds hold and its template is a row of tokens, with a placeholder unless
there is one station. The ids are the expansions of the tokens. -/
theorem ids_ok_iff (spec : FleetSpec) (ids : List Text) :
    spec.ids = .ok ids ↔
      1 ≤ spec.count.toNat ∧ spec.count.toNat ≤ maxCount ∧
      spec.firstIndex.toNat + (spec.count.toNat - 1) < 2 ^ 32 ∧
      ∃ tokens, Spells tokens spec.idTemplate ∧ (spec.count.toNat = 1 ∨ ∃ width, .index width ∈ tokens) ∧
        ids = (List.range' spec.firstIndex.toNat spec.count.toNat).map fun n => tokens.flatMap (Token.expand n) := by
  constructor
  · intro ok
    obtain ⟨least, most, fits⟩ := bounds_of_ok ok
    refine ⟨least, most, fits, ?_⟩
    rw [ids_of_bounds least most fits] at ok
    cases parsed : Template.parse spec.idTemplate with
    | error error =>
      rw [parsed] at ok
      cases ok
    | ok template =>
      obtain ⟨tokens, spells, rfl⟩ := parse_ok_iff.mp parsed
      rw [parsed] at ok
      dsimp only at ok
      split at ok
      · cases ok
      rename_i apart
      refine ⟨tokens, spells, ?_, ?_⟩
      · by_cases one : spec.count.toNat = 1
        · exact .inl one
        · have many : 1 < spec.count.toNat := by omega
          simp only [many, decide_true, Bool.true_and, Bool.not_eq_true', Bool.not_eq_false] at apart
          exact .inr ((hasPlaceholder_tokens tokens).mp apart)
      · rw [← expand_tokens]
        exact (Except.ok.inj ok).symm
  · rintro ⟨least, most, fits, tokens, spells, apart, rfl⟩
    rw [ids_of_bounds least most fits, parse_ok_iff.mpr ⟨tokens, spells, rfl⟩]
    dsimp only
    rw [if_neg, expand_tokens]
    rcases apart with one | placeholder
    · simp [one]
    · simp [(hasPlaceholder_tokens tokens).mpr placeholder]

/-- **Fleet ids.** A spec has ids exactly if 1 to 1000 stations are asked for, the last index is a `u32`, and the
template is in the grammar and has a placeholder unless there is one station. Then there is one id for each
station, and no two are alike. -/
theorem ids_distinct (spec : FleetSpec) :
    ((∃ ids, spec.ids = .ok ids) ↔
      1 ≤ spec.count.toNat ∧ spec.count.toNat ≤ maxCount ∧
      spec.firstIndex.toNat + (spec.count.toNat - 1) < 2 ^ 32 ∧
      ∃ tokens, Spells tokens spec.idTemplate ∧ (spec.count.toNat = 1 ∨ ∃ width, .index width ∈ tokens)) ∧
    ∀ ids, spec.ids = .ok ids → ids.length = spec.count.toNat ∧ ids.Nodup := by
  refine ⟨⟨?_, ?_⟩, fun ids ok => ?_⟩
  · rintro ⟨ids, ok⟩
    obtain ⟨least, most, fits, tokens, spells, apart, -⟩ := (ids_ok_iff spec ids).mp ok
    exact ⟨least, most, fits, tokens, spells, apart⟩
  · rintro ⟨least, most, fits, tokens, spells, apart⟩
    exact ⟨_, (ids_ok_iff spec _).mpr ⟨least, most, fits, tokens, spells, apart, rfl⟩⟩
  · obtain ⟨-, -, -, tokens, -, apart, rfl⟩ := (ids_ok_iff spec ids).mp ok
    refine ⟨by rw [List.length_map, List.length_range'], ?_⟩
    rcases apart with one | ⟨width, mem⟩
    · rw [one]
      exact List.nodup_singleton _
    · exact List.Nodup.map (flatMap_expand_injective mem) List.nodup_range'

/-- Two placeholders of different widths, where the number of digits changes. -/
example :
    (FleetSpec.ids { idTemplate := "CP{n}-{n:3}".toList, firstIndex := 9, count := 2, staggerMs := 0 }).toOption =
      some ["CP9-009".toList, "CP10-010".toList] := by decide +kernel

end FleetSpec

end KirbyOcpp
