import KirbyOcpp.Ocpp.Text

/-!
# Fleets: `fleet.rs`

How a fleet names its stations: the bounds of a spec, the template and its expansion. Starting the stations
and merging their events is not modelled.
-/

namespace KirbyOcpp

/-- Most stations one fleet may hold. -/
def maxCount : Nat := 1000
/-- Widest zero padding accepted in a placeholder. -/
def maxWidth : Nat := 9

/-- A fleet whose stations cannot be named. -/
inductive FleetError where
  | countOutOfRange (count : UInt32)
  | noPlaceholder (template : Text) (count : UInt32)
  | badTemplate (template reason : Text)
  | indexOverflow (firstIndex count : UInt32)
deriving DecidableEq

/-- The text of the error. -/
def FleetError.text : FleetError → Text
  | countOutOfRange count =>
    "count must be between 1 and ".toList ++ Text.ofNat maxCount ++ ", got ".toList ++ Text.ofNat count.toNat
  | noPlaceholder template count =>
    "the charge point id `".toList ++ template ++ "` has no `\x7bn\x7d` placeholder, so ".toList ++
      Text.ofNat count.toNat ++ " stations would share one id; use e.g. `CP-\x7bn:03\x7d`".toList
  | badTemplate template reason => "charge point id template `".toList ++ template ++ "`: ".toList ++ reason
  | indexOverflow firstIndex count =>
    "station index ".toList ++ Text.ofNat firstIndex.toNat ++ " + ".toList ++ Text.ofNat count.toNat ++
      " stations overflows".toList

/-- How many stations to start and how to name them. -/
structure FleetSpec where
  idTemplate : Text
  /-- Index substituted into the first station's id. -/
  firstIndex : UInt32
  count : UInt32
  /-- Delay between starting two stations. -/
  staggerMs : UInt64

/-! ## Templates -/

inductive Part where
  | literal (text : Text)
  | index (width : Nat)
deriving DecidableEq

def unmatchedBrace : Text := "unmatched `\x7d` (write `\x7d\x7d` for a literal brace)".toList

def unclosedBrace : Text := "unclosed `\x7b`".toList

def notPlaceholder (inner : Text) : Text :=
  "`\x7b".toList ++ inner ++ "\x7d` is not a placeholder; use `\x7bn\x7d` or `\x7bn:WIDTH\x7d` with WIDTH up to ".toList ++
    Text.ofNat maxWidth

def unknownPlaceholder (inner : Text) : Text :=
  "unknown placeholder `\x7b".toList ++ inner ++ "\x7d`; only `\x7bn\x7d` and `\x7bn:WIDTH\x7d` exist".toList

/-- The width after `n` in a placeholder. -/
def parseWidth : Text → Option Nat
  | ':' :: w =>
    if !w.isEmpty && w.all Text.isAsciiDigit then (Text.parseU64 w).filter fun w => decide (w ≤ maxWidth) else none
  | _ => none

/-- The width of a placeholder, or the reason why it is none. -/
def placeholderWidth (inner : Text) : Except Text Nat :=
  match inner with
  | 'n' :: spec =>
    if spec.isEmpty then .ok 0
    else match parseWidth spec with
      | some width => .ok width
      | none => .error (notPlaceholder inner)
  | _ => .error (unknownPlaceholder inner)

/-- A literal is a part unless it is empty. -/
def flushLiteral (parts : List Part) (literal : Text) : List Part :=
  if literal.isEmpty then parts else parts ++ [.literal literal]

/-- The loops of `Template::parse`. `inner` is what the inner loop has read since a lone opening brace. -/
def parseLoop : Option Text → List Part → Text → Text → Except Text (List Part)
  | none, parts, literal, [] => .ok (flushLiteral parts literal)
  | none, parts, literal, '{' :: '{' :: rest => parseLoop none parts (literal ++ ['{']) rest
  | none, parts, literal, '}' :: '}' :: rest => parseLoop none parts (literal ++ ['}']) rest
  | none, _, _, '}' :: _ => .error unmatchedBrace
  | none, parts, literal, '{' :: rest => parseLoop (some []) parts literal rest
  | none, parts, literal, c :: rest => parseLoop none parts (literal ++ [c]) rest
  | some _, _, _, [] => .error unclosedBrace
  | some inner, parts, literal, '}' :: rest =>
    match placeholderWidth inner with
    | .ok width => parseLoop none (flushLiteral parts literal ++ [.index width]) [] rest
    | .error reason => .error reason
  | some inner, parts, literal, c :: rest => parseLoop (some (inner ++ [c])) parts literal rest

namespace Template

def parse (template : Text) : Except FleetError (List Part) :=
  match parseLoop none [] [] template with
  | .ok parts => .ok parts
  | .error reason => .error (.badTemplate template reason)

def hasPlaceholder (template : List Part) : Bool :=
  template.any fun
    | .index _ => true
    | .literal _ => false

/-- `{index:0width$}`. -/
def padded (width index : Nat) : Text :=
  let digits := Text.ofNat index
  List.replicate (width - digits.length) '0' ++ digits

def expandPart (index : Nat) : Part → Text
  | .literal text => text
  | .index width => padded width index

def expand (template : List Part) (index : Nat) : Text := template.flatMap (expandPart index)

end Template

/-! ## The ids -/

/-- `u32::checked_add`. -/
def checkedAdd (a b : UInt32) : Option UInt32 := if a.toNat + b.toNat < 2 ^ 32 then some (a + b) else none

namespace FleetSpec

/-- Checks the bounds and the template and returns the expanded ids in order. -/
def ids (spec : FleetSpec) : Except FleetError (List Text) :=
  if ¬(1 ≤ spec.count.toNat ∧ spec.count.toNat ≤ maxCount) then .error (.countOutOfRange spec.count)
  else match checkedAdd spec.firstIndex (spec.count - 1) with
    | none => .error (.indexOverflow spec.firstIndex spec.count)
    | some last =>
      match Template.parse spec.idTemplate with
      | .error error => .error error
      | .ok template =>
        if 1 < spec.count.toNat && !Template.hasPlaceholder template then
          .error (.noPlaceholder spec.idTemplate spec.count)
        else
          .ok ((List.range' spec.firstIndex.toNat (last.toNat + 1 - spec.firstIndex.toNat)).map
            (Template.expand template))

end FleetSpec

end KirbyOcpp
