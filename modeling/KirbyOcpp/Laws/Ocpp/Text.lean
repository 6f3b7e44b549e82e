import KirbyOcpp.Ocpp.Text

/-!
# Numbers and items of texts

A number is written in digits and read back as itself (`parseUnsigned_ofNat`), and a text is split at the
separators that it was joined with (`split_intercalate`).
-/

namespace KirbyOcpp.Text

/-! ## Digits -/

private theorem isAsciiDigit_of_isDigit {c : Char} (h : c.isDigit = true) : isAsciiDigit c = true := by
  simp only [Char.isDigit, Bool.and_eq_true, decide_eq_true_eq] at h
  simp only [isAsciiDigit, Bool.and_eq_true, decide_eq_true_eq]
  exact h

/-- A number is written in digits. -/
theorem ofNat_digits (n : Nat) : ∀ c ∈ ofNat n, isAsciiDigit c = true := fun _ mem =>
  isAsciiDigit_of_isDigit (Nat.isDigit_of_mem_toDigits (by omega) (by omega) mem)

/-- A number has a digit. -/
theorem ofNat_ne_nil (n : Nat) : ofNat n ≠ [] := Nat.toDigits_ne_nil

private theorem digits_eq {text : Text} (all : ∀ c ∈ text, isAsciiDigit c = true) (value : Nat) :
    digits value text = some (Nat.ofDigitChars 10 text value) := by
  induction text generalizing value with
  | nil => rfl
  | cons c rest ih =>
    unfold digits
    rw [if_pos (all c List.mem_cons_self), ih fun d mem => all d (List.mem_cons_of_mem _ mem)]
    rfl

/-- A number is read as it was written. -/
theorem digits_ofNat (n : Nat) : digits 0 (ofNat n) = some n := by
  rw [digits_eq (ofNat_digits n)]
  exact congrArg some Nat.ofDigitChars_ten_toDigits

/-- A digit is no sign. -/
theorem unsigned_of_digits {text : Text} (all : ∀ c ∈ text, isAsciiDigit c = true) : unsigned text = text := by
  unfold unsigned
  split
  · have sign : isAsciiDigit '+' = true := all '+' List.mem_cons_self
    exact absurd sign (by decide)
  · rfl

/-- A number within the bound is read as it was written. -/
theorem parseUnsigned_ofNat (max n : Nat) : parseUnsigned max (ofNat n) = if n ≤ max then some n else none := by
  unfold parseUnsigned
  have filled : (ofNat n).isEmpty = false := by simp [ofNat_ne_nil]
  rw [unsigned_of_digits (ofNat_digits n), filled, digits_ofNat, Option.filter_some]
  simp

/-! ## Separators -/

private theorem split_eq_splitOn (at' : Char) (text : Text) : split at' text = text.splitOn at' := by
  induction text with
  | nil => rfl
  | cons c rest ih =>
    rw [split, List.splitOn_cons_eq_if_modifyHead, ih]
    by_cases here : c = at'
    · simp [here]
    · rw [if_neg here, if_neg (by simpa using here)]
      cases parts : List.splitOn at' rest with
      | nil => exact absurd parts (List.splitOn_ne_nil at' rest)
      | cons item items => rfl

/-- A text has an item. -/
theorem split_ne_nil (at' : Char) (text : Text) : split at' text ≠ [] := by
  rw [split_eq_splitOn]
  exact List.splitOn_ne_nil at' text

/-- Items without the separator are found again. -/
theorem split_intercalate {at' : Char} {items : List Text} (apart : ∀ item ∈ items, at' ∉ item)
    (some : items ≠ []) : split at' ([at'].intercalate items) = items := by
  rw [split_eq_splitOn]
  exact List.splitOn_intercalate at' apart some

/-- No item has the separator. -/
theorem not_mem_split {at' : Char} {text item : Text} (mem : item ∈ split at' text) : at' ∉ item := by
  induction text generalizing item with
  | nil =>
    obtain rfl := List.mem_singleton.mp mem
    exact List.not_mem_nil
  | cons c rest ih =>
    unfold split at mem
    split at mem
    · rcases List.mem_cons.mp mem with rfl | later
      · exact List.not_mem_nil
      · exact ih later
    · rename_i other
      cases parts : split at' rest with
      | nil => exact absurd parts (split_ne_nil at' rest)
      | cons first items =>
        rw [parts] at mem ih
        rcases List.mem_cons.mp mem with rfl | later
        · intro inside
          rcases List.mem_cons.mp inside with eq | inside
          · exact other eq.symm
          · exact ih List.mem_cons_self inside
        · exact ih (List.mem_cons_of_mem _ later)

/-- The first separator splits. -/
theorem splitOnce_append {at' : Char} {start : Text} (apart : at' ∉ start) (rest : Text) :
    splitOnce at' (start ++ at' :: rest) = some (start, rest) := by
  induction start with
  | nil => simp [splitOnce]
  | cons c start ih =>
    rw [List.mem_cons, not_or] at apart
    rw [List.cons_append, splitOnce, if_neg fun eq => apart.1 eq.symm, ih apart.2]
    rfl

/-- Without a separator nothing is split. -/
theorem splitOnce_of_not_mem {at' : Char} {text : Text} (apart : at' ∉ text) : splitOnce at' text = none := by
  induction text with
  | nil => rfl
  | cons c rest ih =>
    rw [List.mem_cons, not_or] at apart
    rw [splitOnce, if_neg fun eq => apart.1 eq.symm, ih apart.2]
    rfl

/-- The last separator splits. -/
theorem rsplitOnce_append {at' : Char} {tail : Text} (apart : at' ∉ tail) (head : Text) :
    rsplitOnce at' (head ++ at' :: tail) = some (head, tail) := by
  have turned : (head ++ at' :: tail).reverse = tail.reverse ++ at' :: head.reverse := by simp
  rw [rsplitOnce, turned, splitOnce_append (by simpa using apart), Option.map_some, List.reverse_reverse,
    List.reverse_reverse]

/-- Without a separator nothing is split from behind. -/
theorem rsplitOnce_of_not_mem {at' : Char} {text : Text} (apart : at' ∉ text) : rsplitOnce at' text = none := by
  rw [rsplitOnce, splitOnce_of_not_mem (by simpa using apart), Option.map_none]

/-- What follows the last separator has none. -/
theorem eq_append_of_mem {at' : Char} {text : Text} (mem : at' ∈ text) :
    ∃ head tail, text = head ++ at' :: tail ∧ at' ∉ tail := by
  obtain ⟨front, back, turned, apart⟩ := List.eq_append_cons_of_mem (List.mem_reverse.mpr mem)
  refine ⟨back.reverse, front.reverse, ?_, by simpa using apart⟩
  have := congrArg List.reverse turned
  simpa using this

/-! ## White space -/

/-- A digit is no white space. -/
theorem not_white_of_digit {c : Char} (digit : isAsciiDigit c = true) : isWhitespace c = false := by
  simp only [isAsciiDigit, Bool.and_eq_true, decide_eq_true_eq, Char.le_def, UInt32.le_iff_toNat_le] at digit
  have low : 48 ≤ c.toNat := digit.1
  have high : c.toNat ≤ 57 := digit.2
  simp only [isWhitespace, Bool.or_eq_false_iff, Bool.and_eq_false_iff, decide_eq_false_iff_not, beq_eq_false_iff_ne]
  omega

/-- White space is trimmed up to the last solid character. -/
theorem trimEnd_append {c : Char} (solid : isWhitespace c = false) (front back : Text) :
    trimEnd (front ++ c :: back) = front ++ c :: trimEnd back := by
  have turned : (front ++ c :: back).reverse = back.reverse ++ c :: front.reverse := by simp
  have stop : (back.reverse ++ c :: front.reverse).dropWhile isWhitespace =
      back.reverse.dropWhile isWhitespace ++ c :: front.reverse := by
    induction back.reverse with
    | nil => rw [List.nil_append, List.dropWhile_cons_of_neg (by simp [solid]), List.dropWhile_nil, List.nil_append]
    | cons d rest ih =>
      cases white : isWhitespace d with
      | true =>
        rw [List.cons_append, List.dropWhile_cons_of_pos white, List.dropWhile_cons_of_pos white, ih]
      | false =>
        rw [List.cons_append, List.dropWhile_cons_of_neg (by simp [white]),
          List.dropWhile_cons_of_neg (by simp [white])]
        rfl
  rw [trimEnd, turned, stop, List.reverse_append, List.reverse_cons, List.reverse_reverse, trimEnd,
    List.append_assoc]
  rfl

/-- A text that starts with a character that is no white space is only trimmed at its end. -/
theorem trim_cons {c : Char} (solid : isWhitespace c = false) (rest : Text) :
    trim (c :: rest) = trimEnd (c :: rest) := by
  unfold trim
  rw [List.dropWhile_cons_of_neg (by simp [solid])]
  rfl

/-- A trimmed text keeps its end. -/
theorem trimEnd_of_trim {text : Text} (trimmed : trim text = text) : trimEnd text = text := by
  cases text with
  | nil => rfl
  | cons c rest =>
    cases white : isWhitespace c with
    | false => rw [← trim_cons white, trimmed]
    | true =>
      have shorter := congrArg List.length trimmed
      have dropped := (List.dropWhile_sublist isWhitespace (l := rest)).length_le
      have kept := (List.dropWhile_sublist isWhitespace
        (l := (rest.dropWhile isWhitespace).reverse)).length_le
      rw [trim, List.dropWhile_cons_of_pos white, List.length_reverse, List.length_cons] at shorter
      rw [List.length_reverse] at kept
      omega

/-- What is left was there. -/
theorem mem_of_mem_trim {c : Char} {text : Text} (mem : c ∈ trim text) : c ∈ text := by
  have kept := List.mem_reverse.mp mem
  have inner := (List.dropWhile_sublist _).mem kept
  exact (List.dropWhile_sublist _).mem (List.mem_reverse.mp inner)

/-- A text without white space stays. -/
theorem trim_of_none {text : Text} (none : ∀ c ∈ text, isWhitespace c = false) : trim text = text := by
  have still (text : Text) (none : ∀ c ∈ text, isWhitespace c = false) :
      text.dropWhile isWhitespace = text := by
    cases text with
    | nil => rfl
    | cons c rest =>
      rw [List.dropWhile_cons_of_neg]
      rw [none c List.mem_cons_self]
      exact Bool.false_ne_true
  unfold trim
  rw [still text none, still text.reverse fun c mem => none c (List.mem_reverse.mp mem), List.reverse_reverse]

/-- A trimmed text stays. -/
theorem trim_trim (text : Text) : trim (trim text) = trim text := by
  have isTrim (text : Text) : trim text = (text.dropWhile isWhitespace).rdropWhile isWhitespace := rfl
  -- what is dropped at the end leaves the front, which has no white space
  have front (text : Text) (start : text.dropWhile isWhitespace = text) :
      (text.rdropWhile isWhitespace).dropWhile isWhitespace = text.rdropWhile isWhitespace := by
    cases eq : text.rdropWhile isWhitespace with
    | nil => rfl
    | cons c rest =>
      obtain ⟨tail, rfl⟩ : (c :: rest) <+: text := eq ▸ List.rdropWhile_prefix isWhitespace text
      have head : isWhitespace c = false := by
        cases white : isWhitespace c with
        | false => rfl
        | true =>
          rw [List.cons_append, List.dropWhile_cons_of_pos white] at start
          have shorter := congrArg List.length start
          have := (List.dropWhile_sublist isWhitespace (l := rest ++ tail)).length_le
          rw [List.length_cons] at shorter
          omega
      rw [List.dropWhile_cons_of_neg]
      rw [head]
      exact Bool.false_ne_true
  rw [isTrim, isTrim, front _ (List.dropWhile_idempotent _ text), List.rdropWhile_idempotent]

end KirbyOcpp.Text
