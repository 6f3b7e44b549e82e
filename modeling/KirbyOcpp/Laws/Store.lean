import KirbyOcpp.Store

/-!
# State files of different charge points have different names

An escaped id can be read back (`unescape_escapeFrom`), so two ids with one name are one id unless a name was
shortened. A shortened name has a `~` before its hash, and a plain name never has one.
-/

namespace KirbyOcpp

/-- The escaped form of bytes of which the first stands at `index`. -/
def escapeFrom (index : Nat) : List UInt8 → Text
  | [] => []
  | byte :: rest => escapedPiece index byte ++ escapeFrom (index + 1) rest

/-- The escaped form of an id. -/
def escape (chargePointId : List UInt8) : Text := escapeFrom 0 chargePointId

/-- The characters of names: `[A-Za-z0-9_.%~-]`. -/
def isNameChar (c : Char) : Bool := c.isAlphanum || c == '_' || c == '.' || c == '%' || c == '~' || c == '-'

/-! ## Reading a name back -/

/-- The value of a digit of `{:X}`. -/
def upperHexValue (c : Char) : Nat := if c.toNat < 65 then c.toNat - 48 else c.toNat - 55

/-- The bytes that an escaped form stands for. -/
def unescape : Text → List UInt8
  | '%' :: high :: low :: rest => UInt8.ofNat (16 * upperHexValue high + upperHexValue low) :: unescape rest
  | c :: rest => UInt8.ofNat c.toNat :: unescape rest
  | [] => []

theorem upperHexValue_upperHex : ∀ digit < 16, upperHexValue (upperHex digit) = digit := by decide

theorem unescape_cons {c : Char} (plain : c ≠ '%') (rest : Text) :
    unescape (c :: rest) = UInt8.ofNat c.toNat :: unescape rest :=
  unescape.eq_2 c rest fun _ _ _ escaped _ => plain escaped

/-- Each kept byte is a character of its own, and none of them is a mark of the escaping. -/
theorem kept_char : ∀ n < 256, isKeptByte (UInt8.ofNat n) = true →
    (Char.ofNat n).toNat = n ∧ Char.ofNat n ≠ '%' ∧ Char.ofNat n ≠ '~' ∧ Char.ofNat n ≠ '.' ∧
      isNameChar (Char.ofNat n) = true := by
  decide +kernel

theorem unescape_piece (index : Nat) (byte : UInt8) (rest : Text) :
    unescape (escapedPiece index byte ++ rest) = byte :: unescape rest := by
  have small : byte.toNat < 256 := byte.toNat_lt
  unfold escapedPiece
  split
  · rename_i kept
    obtain ⟨value, plain, -⟩ := kept_char byte.toNat small (by rwa [UInt8.ofNat_toNat])
    rw [List.singleton_append, unescape_cons plain, value, UInt8.ofNat_toNat]
  split
  · rename_i dot
    rw [List.singleton_append, unescape_cons (by decide)]
    exact congrArg (· :: unescape rest) (UInt8.toNat_inj.mp dot.1.symm)
  · show UInt8.ofNat (16 * upperHexValue (upperHex (byte.toNat / 16)) + upperHexValue (upperHex (byte.toNat % 16))) ::
      unescape rest = byte :: unescape rest
    rw [upperHexValue_upperHex _ (by omega), upperHexValue_upperHex _ (by omega), Nat.div_add_mod, UInt8.ofNat_toNat]

/-- Reading an escaped form back gives the bytes. -/
theorem unescape_escapeFrom (index : Nat) (bytes : List UInt8) : unescape (escapeFrom index bytes) = bytes := by
  induction bytes generalizing index with
  | nil => rfl
  | cons byte rest ih => rw [escapeFrom, unescape_piece, ih]

theorem escape_injective : Function.Injective escape := fun a b same => by
  rw [← unescape_escapeFrom 0 a, ← unescape_escapeFrom 0 b]
  exact congrArg unescape same

/-! ## The loop -/

namespace NameLoop

theorem visit_fits {loop : NameLoop} {byte : UInt8} {index : Nat} (going : loop.truncated = false)
    (fits : loop.name.length + (escapedPiece index byte).length ≤ maxEscapedLen) :
    loop.visit (byte, index) = { loop with name := loop.name ++ escapedPiece index byte } := by
  unfold visit
  dsimp only
  rw [if_neg (by simpa [going] using fits)]

theorem visit_cut {loop : NameLoop} {byte : UInt8} {index : Nat} (going : loop.truncated = false)
    (long : maxEscapedLen < loop.name.length + (escapedPiece index byte).length) :
    loop.visit (byte, index) = { loop with kept := loop.name.length, truncated := true } := by
  unfold visit
  dsimp only
  rw [if_pos (by simp [long]), going]
  rfl

/-- After the cut nothing changes. -/
theorem foldl_cut {loop : NameLoop} (cut : loop.truncated = true) (bytes : List (UInt8 × Nat)) :
    bytes.foldl visit loop = loop := by
  induction bytes with
  | nil => rfl
  | cons entry rest ih =>
    have same : loop.visit entry = loop := by simp [visit, cut]
    rw [List.foldl_cons, same, ih]

/-- The loop appends the escaped form if all of it fits. -/
theorem foldl_fits (loop : NameLoop) (going : loop.truncated = false) (index : Nat) (bytes : List UInt8)
    (fits : loop.name.length + (escapeFrom index bytes).length ≤ maxEscapedLen) :
    (bytes.zipIdx index).foldl visit loop = { loop with name := loop.name ++ escapeFrom index bytes } := by
  induction bytes generalizing loop index with
  | nil => simp [escapeFrom]
  | cons byte rest ih =>
    rw [escapeFrom, List.length_append, ← Nat.add_assoc] at fits
    have fits' : (loop.name ++ escapedPiece index byte).length + (escapeFrom (index + 1) rest).length ≤
        maxEscapedLen := by rwa [List.length_append]
    rw [List.zipIdx_cons, List.foldl_cons, visit_fits going (Nat.le_of_add_right_le fits), escapeFrom,
      ← List.append_assoc]
    exact ih { loop with name := loop.name ++ escapedPiece index byte } going (index + 1) fits'

/-- The loop cuts a longer one between two bytes. -/
theorem foldl_long (loop : NameLoop) (going : loop.truncated = false) (short : loop.name.length ≤ maxEscapedLen)
    (index : Nat) (bytes : List UInt8) (long : maxEscapedLen < loop.name.length + (escapeFrom index bytes).length) :
    ∃ front, front <+: bytes ∧ (loop.name ++ escapeFrom index front).length ≤ maxEscapedLen ∧
      (bytes.zipIdx index).foldl visit loop =
        { name := loop.name ++ escapeFrom index front, kept := (loop.name ++ escapeFrom index front).length
          truncated := true } := by
  induction bytes generalizing loop index with
  | nil => exact absurd long (Nat.not_lt.mpr short)
  | cons byte rest ih =>
    rw [escapeFrom, List.length_append, ← Nat.add_assoc] at long
    rw [List.zipIdx_cons, List.foldl_cons]
    by_cases fits : loop.name.length + (escapedPiece index byte).length ≤ maxEscapedLen
    · rw [visit_fits going fits]
      obtain ⟨front, begins, bound, eq⟩ := ih { loop with name := loop.name ++ escapedPiece index byte } going
        (by rwa [List.length_append]) (index + 1) (by rwa [List.length_append])
      refine ⟨byte :: front, List.cons_prefix_cons.mpr ⟨rfl, begins⟩, ?_, ?_⟩
      · rwa [escapeFrom, ← List.append_assoc]
      · rw [escapeFrom, ← List.append_assoc]
        exact eq
    · rw [visit_cut going (Nat.not_le.mp fits)]
      refine ⟨[], List.nil_prefix, ?_, ?_⟩
      · simpa [escapeFrom] using short
      · rw [foldl_cut rfl]
        simp [escapeFrom]

end NameLoop

/-! ## The two forms of a name -/

theorem escapedPiece_ne_nil (index : Nat) (byte : UInt8) : escapedPiece index byte ≠ [] := by
  unfold escapedPiece
  split
  · exact List.cons_ne_nil _ _
  · split <;> exact List.cons_ne_nil _ _

theorem escape_ne_nil {id : List UInt8} (filled : id ≠ []) : escape id ≠ [] := by
  obtain ⟨byte, rest, rfl⟩ := List.exists_cons_of_ne_nil filled
  exact fun none => escapedPiece_ne_nil 0 byte (List.append_eq_nil_iff.mp none).1

/-- The name of an id that is not too long. -/
theorem fileName_of_short {id : List UInt8} (filled : id ≠ []) (short : (escape id).length ≤ maxEscapedLen) :
    fileName id = escape id ++ ".station.json".toList := by
  have loop : id.zipIdx.foldl NameLoop.visit {} = { name := escape id } :=
    NameLoop.foldl_fits {} rfl 0 id (by simpa [escape] using short)
  unfold fileName
  dsimp only
  rw [loop]
  simp [escape_ne_nil filled]

/-- The name of an id that is too long: an escaped beginning, `~` and the hash of the whole id. -/
theorem fileName_of_long {id : List UInt8} (long : maxEscapedLen < (escape id).length) :
    ∃ front, front <+: id ∧ (escape front).length ≤ maxEscapedLen ∧
      fileName id = escape front ++ '~' :: lowerHex16 (fnv1a64 id) ++ ".station.json".toList := by
  obtain ⟨front, begins, bound, loop⟩ := NameLoop.foldl_long {} rfl (Nat.zero_le _) 0 id
    (by simpa [escape] using long)
  refine ⟨front, begins, bound, ?_⟩
  unfold fileName
  dsimp only
  rw [loop]
  simp [escape]

/-! ## The characters of a name -/

theorem upperHex_char : ∀ digit < 16, isNameChar (upperHex digit) = true ∧ upperHex digit ≠ '~' := by decide

theorem lowerHex_char : ∀ digit < 16, isNameChar digit.digitChar = true := by decide

theorem mem_escapedPiece {index : Nat} {byte : UInt8} {c : Char} (mem : c ∈ escapedPiece index byte) :
    isNameChar c = true ∧ c ≠ '~' := by
  have small : byte.toNat < 256 := byte.toNat_lt
  unfold escapedPiece at mem
  split at mem
  · rename_i kept
    obtain ⟨-, -, plain, -, name⟩ := kept_char byte.toNat small (by rwa [UInt8.ofNat_toNat])
    obtain rfl := List.mem_singleton.mp mem
    exact ⟨name, plain⟩
  split at mem
  · obtain rfl := List.mem_singleton.mp mem
    decide
  · rcases List.mem_cons.mp mem with rfl | mem
    · decide
    rcases List.mem_cons.mp mem with rfl | mem
    · exact upperHex_char _ (by omega)
    · obtain rfl := List.mem_singleton.mp mem
      exact upperHex_char _ (by omega)

theorem mem_escapeFrom {index : Nat} {bytes : List UInt8} {c : Char} (mem : c ∈ escapeFrom index bytes) :
    isNameChar c = true ∧ c ≠ '~' := by
  induction bytes generalizing index with
  | nil => cases mem
  | cons byte rest ih =>
    rcases List.mem_append.mp mem with here | later
    · exact mem_escapedPiece here
    · exact ih later

theorem mem_lowerHex16 {n : UInt64} {c : Char} (mem : c ∈ lowerHex16 n) : isNameChar c = true := by
  unfold lowerHex16 at mem
  obtain ⟨i, -, rfl⟩ := List.mem_map.mp mem
  exact lowerHex_char _ (Nat.mod_lt _ (by decide))

theorem lowerHex16_length (n : UInt64) : (lowerHex16 n).length = 16 := by simp [lowerHex16]

/-- A leading dot is escaped. -/
theorem head_escape (id : List UInt8) : (escape id).head? ≠ some '.' := by
  cases id with
  | nil => exact fun dot => nomatch dot
  | cons byte rest =>
    have small : byte.toNat < 256 := byte.toNat_lt
    show (escapedPiece 0 byte ++ escapeFrom 1 rest).head? ≠ some '.'
    unfold escapedPiece
    split
    · rename_i kept
      obtain ⟨-, -, -, plain, -⟩ := kept_char byte.toNat small (by rwa [UInt8.ofNat_toNat])
      simpa using plain
    · simp

/-- The three forms of a name: of the empty id, of an id kept whole, and of one that is cut. -/
theorem fileName_cases (id : List UInt8) :
    (id = [] ∧ fileName id = "%00empty.station.json".toList) ∨
      (id ≠ [] ∧ (escape id).length ≤ maxEscapedLen ∧ fileName id = escape id ++ ".station.json".toList) ∨
      (maxEscapedLen < (escape id).length ∧ ∃ front, (escape front).length ≤ maxEscapedLen ∧
        fileName id = escape front ++ '~' :: lowerHex16 (fnv1a64 id) ++ ".station.json".toList) := by
  by_cases filled : id = []
  · subst filled
    exact .inl ⟨rfl, by decide⟩
  by_cases short : (escape id).length ≤ maxEscapedLen
  · exact .inr (.inl ⟨filled, short, fileName_of_short filled short⟩)
  · obtain ⟨front, -, bound, name⟩ := fileName_of_long (Nat.not_le.mp short)
    exact .inr (.inr ⟨Nat.not_le.mp short, front, bound, name⟩)

theorem suffix_chars : ∀ c ∈ ".station.json".toList, isNameChar c = true ∧ c ≠ '~' := by
  have all : (".station.json".toList.all fun c => isNameChar c && c != '~') = true := by decide
  intro c mem
  simpa using List.all_eq_true.mp all c mem

theorem fileName_chars (id : List UInt8) : ∀ c ∈ fileName id, isNameChar c = true := by
  intro c mem
  rcases fileName_cases id with ⟨-, name⟩ | ⟨-, -, name⟩ | ⟨-, front, -, name⟩
  · rw [name] at mem
    have all : ("%00empty.station.json".toList.all isNameChar) = true := by decide
    exact List.all_eq_true.mp all c mem
  · rw [name] at mem
    rcases List.mem_append.mp mem with mem | mem
    · exact (mem_escapeFrom mem).1
    · exact (suffix_chars c mem).1
  · rw [name] at mem
    rcases List.mem_append.mp mem with mem | mem
    · rcases List.mem_append.mp mem with mem | mem
      · exact (mem_escapeFrom mem).1
      rcases List.mem_cons.mp mem with rfl | mem
      · decide
      · exact mem_lowerHex16 mem
    · exact (suffix_chars c mem).1

/-- Only a shortened name has a `~`. -/
theorem tilde_mem_iff (id : List UInt8) : '~' ∈ fileName id ↔ maxEscapedLen < (escape id).length := by
  rcases fileName_cases id with ⟨rfl, name⟩ | ⟨-, short, name⟩ | ⟨long, front, -, name⟩
  · rw [name]
    decide
  · refine iff_of_false (fun mem => ?_) (Nat.not_lt.mpr short)
    rw [name] at mem
    rcases List.mem_append.mp mem with mem | mem
    · exact (mem_escapeFrom mem).2 rfl
    · exact (suffix_chars '~' mem).2 rfl
  · refine iff_of_true ?_ long
    rw [name]
    simp

theorem fileName_ne_nil (id : List UInt8) : fileName id ≠ [] := by
  intro none
  have mem : '.' ∈ fileName id := List.mem_append_right _ (by decide)
  rw [none] at mem
  cases mem

theorem fileName_length (id : List UInt8) : (fileName id).length ≤ 130 := by
  have suffix : ".station.json".toList.length = 13 := rfl
  rcases fileName_cases id with ⟨-, name⟩ | ⟨-, short, name⟩ | ⟨-, front, bound, name⟩
  · rw [name]
    decide
  · rw [name, List.length_append, suffix]
    unfold maxEscapedLen at short
    omega
  · rw [name, List.length_append, List.length_append, List.length_cons, lowerHex16_length, suffix]
    unfold maxEscapedLen at bound
    omega

theorem head_fileName (id : List UInt8) : (fileName id).head? ≠ some '.' := by
  rcases fileName_cases id with ⟨-, name⟩ | ⟨filled, -, name⟩ | ⟨-, front, -, name⟩
  · rw [name]
    decide
  · rw [name, List.head?_append_of_ne_nil _ (escape_ne_nil filled)]
    exact head_escape id
  · rw [name, List.append_assoc, List.head?_append]
    cases first : (escape front).head? with
    | none => simp
    | some c =>
      have plain := head_escape front
      rw [first] at plain
      exact plain

/-! ## The names -/

/-- Ids that are kept whole have names of their own. -/
theorem fileName_injOn {a b : List UInt8} (ha : a ≠ []) (hb : b ≠ []) (shortA : (escape a).length ≤ maxEscapedLen)
    (shortB : (escape b).length ≤ maxEscapedLen) (same : fileName a = fileName b) : a = b := by
  rw [fileName_of_short ha shortA, fileName_of_short hb shortB] at same
  exact escape_injective (List.append_cancel_right same)

/-- A shortened name is no unshortened one. -/
theorem fileName_ne_of_long {a b : List UInt8} (long : maxEscapedLen < (escape a).length)
    (short : (escape b).length ≤ maxEscapedLen) : fileName a ≠ fileName b := by
  intro same
  have tilde := (tilde_mem_iff a).mpr long
  rw [same] at tilde
  exact Nat.not_le.mpr ((tilde_mem_iff b).mp tilde) short

/-- The id is kept whole in the name of its file. -/
def KeptWhole (id : List UInt8) : Prop := id ≠ [] ∧ (escape id).length ≤ maxEscapedLen

/-- Such an id has a name of its own. -/
theorem KeptWhole.apart {id other : List UInt8} (kept : KeptWhole other) (named : id ≠ [])
    (same : fileName id = fileName other) : id = other := by
  by_cases short : (escape id).length ≤ maxEscapedLen
  · exact fileName_injOn named kept.1 short kept.2 same
  · exact absurd same (fileName_ne_of_long (Nat.not_le.mp short) kept.2)

/-- **State file names.** Ids whose escaped forms fit have names of their own, a shortened name is no
unshortened one, and every name is a safe one of at most 130 characters. -/
theorem fileName_safe :
    (∀ a b : List UInt8, a ≠ [] → b ≠ [] → (escape a).length ≤ maxEscapedLen → (escape b).length ≤ maxEscapedLen →
      fileName a = fileName b → a = b) ∧
    (∀ a b : List UInt8, maxEscapedLen < (escape a).length → (escape b).length ≤ maxEscapedLen →
      fileName a ≠ fileName b) ∧
    ∀ id : List UInt8, fileName id ≠ [] ∧ (∀ c ∈ fileName id, isNameChar c = true) ∧
      (fileName id).head? ≠ some '.' ∧ '/' ∉ fileName id ∧ '\\' ∉ fileName id ∧ (fileName id).length ≤ 130 := by
  refine ⟨fun a b ha hb shortA shortB => fileName_injOn ha hb shortA shortB,
    fun a b long short => fileName_ne_of_long long short, fun id => ?_⟩
  · have safe := fileName_chars id
    refine ⟨?_, safe, head_fileName id, fun mem => ?_, fun mem => ?_, fileName_length id⟩
    · exact fileName_ne_nil id
    · exact absurd (safe _ mem) (by decide)
    · exact absurd (safe _ mem) (by decide)

/-! ## The files -/

/-- Inside one directory a name leads to one path. -/
theorem joinPath_injective (dir : Text) {a b : Text} (plainA : a.head? ≠ some '/') (plainB : b.head? ≠ some '/')
    (same : joinPath dir a = joinPath dir b) : a = b := by
  unfold joinPath at same
  rw [if_neg plainA, if_neg plainB] at same
  split at same
  · exact List.append_cancel_left same
  · exact (List.cons.inj (List.append_cancel_left same)).2

/-- Stations whose ids fit do not share a state file. -/
theorem store_path_injOn (dir : Text) {a b : List UInt8} (ha : a ≠ []) (hb : b ≠ [])
    (shortA : (escape a).length ≤ maxEscapedLen) (shortB : (escape b).length ≤ maxEscapedLen)
    (same : (StationStore.new dir a).path = (StationStore.new dir b).path) : a = b := by
  have relative (id : List UInt8) : (fileName id).head? ≠ some '/' := fun slash =>
    absurd (fileName_chars id _ (List.mem_of_head? slash)) (by decide)
  exact fileName_injOn ha hb shortA shortB (joinPath_injective dir (relative a) (relative b) same)

end KirbyOcpp
