import KirbyOcpp.Ocpp.Text

/-!
# State files: `store.rs`

The name of the state file of a charge point. A charge point id is the list of its bytes.
-/

namespace KirbyOcpp

/-- Longest escaped id kept verbatim. -/
def maxEscapedLen : Nat := 100

/-- FNV-1a, 64 bit. -/
def fnv1a64 (bytes : List UInt8) : UInt64 :=
  bytes.foldl (fun hash byte => (hash ^^^ byte.toUInt64) * 0x0000_0100_0000_01b3) 0xcbf2_9ce4_8422_2325

/-- A digit of `{:X}`. -/
def upperHex (digit : Nat) : Char := digit.digitChar.toUpper

/-- `{:016x}` of a `u64`. -/
def lowerHex16 (n : UInt64) : Text := (List.range 16).reverse.map fun i => (n.toNat / 16 ^ i % 16).digitChar

/-- `[A-Za-z0-9_-]`: the bytes that are kept wherever they stand. -/
def isKeptByte (byte : UInt8) : Bool :=
  let n := byte.toNat
  (65 ≤ n && n ≤ 90) || (97 ≤ n && n ≤ 122) || (48 ≤ n && n ≤ 57) || n == 95 || n == 45

/-- What stands in the name for the byte at `index`: itself, or `%XX`. A leading dot is escaped. -/
def escapedPiece (index : Nat) (byte : UInt8) : Text :=
  if isKeptByte byte then [Char.ofNat byte.toNat]
  else if byte.toNat = 46 ∧ 0 < index then ['.']
  else ['%', upperHex (byte.toNat / 16), upperHex (byte.toNat % 16)]

/-- The locals of the loop in `file_name`. -/
structure NameLoop where
  name : Text := []
  kept : Nat := 0
  truncated : Bool := false

/-- One turn of the loop. All characters of a name are ASCII, so its length counts them. -/
def NameLoop.visit (loop : NameLoop) (entry : UInt8 × Nat) : NameLoop :=
  let (byte, index) := entry
  let piece := escapedPiece index byte
  if loop.truncated || maxEscapedLen < loop.name.length + piece.length then
    if !loop.truncated then { loop with kept := loop.name.length, truncated := true } else loop
  else { loop with name := loop.name ++ piece }

/-- File name for a charge point id. -/
def fileName (chargePointId : List UInt8) : Text :=
  let loop := chargePointId.zipIdx.foldl NameLoop.visit {}
  let name :=
    if loop.truncated then loop.name.take loop.kept ++ '~' :: lowerHex16 (fnv1a64 chargePointId) else loop.name
  let name := if name.isEmpty then name ++ "%00empty".toList else name
  name ++ ".station.json".toList

/-- `Path::join` on Unix: a separator goes between the two, and an absolute `name` replaces `dir`. -/
def joinPath (dir name : Text) : Text :=
  if name.head? = some '/' then name
  else if dir = [] ∨ dir.getLast? = some '/' then dir ++ name
  else dir ++ '/' :: name

/-- Handle to the state file of one charge point. -/
structure StationStore where
  path : Text
  chargePointId : List UInt8

/-- The store for `chargePointId` inside `dir`. -/
def StationStore.new (dir : Text) (chargePointId : List UInt8) : StationStore where
  path := joinPath dir (fileName chargePointId)
  chargePointId := chargePointId

end KirbyOcpp
