import Mathlib

/-!
# Texts

The operations of `str` that the station uses on texts it looks into. Such a text is the list of its
characters; a text that is only handed on stays a `String`.
-/

namespace KirbyOcpp

/-- A `str` as its characters. -/
abbrev Text := List Char

namespace Text

/-- `char::is_whitespace`: the property `White_Space` of Unicode. -/
def isWhitespace (c : Char) : Bool :=
  let n := c.toNat
  (9 ≤ n && n ≤ 13) || n == 0x20 || n == 0x85 || n == 0xA0 || n == 0x1680 ||
    (0x2000 ≤ n && n ≤ 0x200A) || n == 0x2028 || n == 0x2029 || n == 0x202F || n == 0x205F || n == 0x3000

/-- `str::trim`. -/
def trim (text : Text) : Text := ((text.dropWhile isWhitespace).reverse.dropWhile isWhitespace).reverse

/-- `str::trim_end`. -/
def trimEnd (text : Text) : Text := (text.reverse.dropWhile isWhitespace).reverse

/-- `str::len`: the number of bytes. -/
def len (text : Text) : Nat := (text.map Char.utf8Size).sum

/-- `char::to_ascii_lowercase`. -/
def asciiLower (c : Char) : Char :=
  if 'A' ≤ c ∧ c ≤ 'Z' then Char.ofNat (c.toNat + 32) else c

/-- `str::to_ascii_lowercase`. -/
def toAsciiLowercase (text : Text) : Text := text.map asciiLower

/-- `str::eq_ignore_ascii_case`. -/
def eqIgnoreAsciiCase (a b : Text) : Bool := a.toAsciiLowercase == b.toAsciiLowercase

/-- `str::starts_with`. -/
def startsWith (text start : Text) : Bool := start.isPrefixOf text

/-- `str::split` at every `at'`. -/
def split (at' : Char) : Text → List Text
  | [] => [[]]
  | c :: rest =>
    if c = at' then [] :: split at' rest
    else match split at' rest with
      | [] => [[c]]
      | item :: items => (c :: item) :: items

/-- `str::split_once`. -/
def splitOnce (at' : Char) : Text → Option (Text × Text)
  | [] => none
  | c :: rest =>
    if c = at' then some ([], rest)
    else (splitOnce at' rest).map fun parts => (c :: parts.1, parts.2)

/-- `str::rsplit_once`. -/
def rsplitOnce (at' : Char) (text : Text) : Option (Text × Text) :=
  (splitOnce at' text.reverse).map fun parts => (parts.2.reverse, parts.1.reverse)

/-! ## Numbers -/

/-- `u8::is_ascii_digit`, on the characters: no other character has such a byte. -/
def isAsciiDigit (c : Char) : Bool := decide ('0' ≤ c) && decide (c ≤ '9')

/-- The value of a row of digits; `none` at a character that is no digit. -/
def digits (value : Nat) : Text → Option Nat
  | [] => some value
  | c :: rest => if isAsciiDigit c then digits (10 * value + (c.toNat - 48)) rest else none

/-- A number without its sign `+`. -/
def unsigned : Text → Text
  | '+' :: rest => rest
  | text => text

/-- `str::parse` of an unsigned integer of at most `max`: digits, after a sign `+` or not. -/
def parseUnsigned (max : Nat) (text : Text) : Option Nat :=
  if (unsigned text).isEmpty then none
  else (digits 0 (unsigned text)).filter fun n => decide (n ≤ max)

/-- `str::parse` of a `u8`. -/
def parseU8 : Text → Option Nat := parseUnsigned 255

/-- `str::parse` of a `u32`. -/
def parseU32 : Text → Option Nat := parseUnsigned (2 ^ 32 - 1)

/-- `str::parse` of a `u64`. -/
def parseU64 : Text → Option Nat := parseUnsigned (2 ^ 64 - 1)

/-- `u32::to_string`. -/
def ofNat (n : Nat) : Text := Nat.toDigits 10 n

end Text

end KirbyOcpp
