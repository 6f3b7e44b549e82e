import KirbyOcpp.Ocpp.Frame

/-!
# The frame codec

The decoder takes exactly the arrays of the OCPP-J grammar (`Json.IsFrame`) and the encoder writes them back. A
value that is refused is answered if it was a CALL whose id could be read.
-/

namespace KirbyOcpp.Ws

/-! ## Error codes -/

namespace ErrorCode

/-- A code of the standard is not spelled as another one. -/
def IsCanonical (code : ErrorCode) : Prop := ∀ text, code = other text → text ∉ standard.map asStr

theorem fromWire_asStr {code : ErrorCode} (canonical : code.IsCanonical) : fromWire code.asStr = code := by
  cases code with
  | other text =>
    have unknown : (standard.find? fun known => known.asStr == text) = none := by
      refine List.find?_eq_none.mpr fun known mem same => canonical text rfl ?_
      exact List.mem_map.mpr ⟨known, mem, by simpa using same⟩
    change (standard.find? fun known => known.asStr == text).getD (other text) = other text
    rw [unknown]
    rfl
  | _ => decide

/-- The code keeps the text that was received. -/
theorem asStr_fromWire (code : String) : (fromWire code).asStr = code := by
  unfold fromWire
  cases found : standard.find? fun known => known.asStr == code with
  | none => rfl
  | some known => simpa using List.find?_some found

end ErrorCode

/-! ## Decoding -/

/-- The arrays of the OCPP-J grammar. -/
inductive Json.IsFrame : Json → Prop
  | call (id action : String) (fields : List (String × Json)) :
      IsFrame (.array [.integer 2, .string id, .string action, .object fields])
  | callResult (id : String) (fields : List (String × Json)) :
      IsFrame (.array [.integer 3, .string id, .object fields])
  | callError (id code description : String) (fields : List (String × Json)) :
      IsFrame (.array [.integer 4, .string id, .string code, .string description, .object fields])

/-- The value begins as a CALL with the message id `id` does. -/
def Json.StartsCall (value : Json) (id : MessageId) : Prop :=
  ∃ rest, value = .array (.integer 2 :: .string id :: rest)

namespace Frame

variable {fail : FrameErrorKind → FrameError} {item : Option Json} {field : String}

/-- The payload is an object, and the error code is spelled as the standard does. -/
def Encodable : Frame → Prop
  | call _ _ payload | callResult _ payload => ∃ fields, payload = .object fields
  | callError _ code _ details => code.IsCanonical ∧ ∃ fields, details = .object fields

theorem takeString_ok {text : String} (taken : takeString fail item field = .ok text) : item = some (.string text) := by
  unfold takeString at taken
  split at taken
  · rw [Except.ok.inj taken]
  · cases taken

theorem takeObject_ok {value : Json} (taken : takeObject fail item field = .ok value) :
    ∃ fields, item = some (.object fields) ∧ value = .object fields := by
  unfold takeObject at taken
  split at taken
  · exact ⟨_, rfl, (Except.ok.inj taken).symm⟩
  · cases taken

/-- What a failure says of the frame. -/
theorem takeString_error {error : FrameError} (refused : takeString fail item field = .error error) :
    ∃ kind, error = fail kind := by
  unfold takeString at refused
  split at refused
  · cases refused
  · exact ⟨_, (Except.error.inj refused).symm⟩

theorem takeObject_error {error : FrameError} (refused : takeObject fail item field = .error error) :
    ∃ kind, error = fail kind := by
  unfold takeObject at refused
  split at refused
  · cases refused
  · exact ⟨_, (Except.error.inj refused).symm⟩

theorem asU64_eq {head : Json} {n : Nat} (small : head.asU64 = some n) : head = .integer n := by
  unfold Json.asU64 at small
  split at small
  · rename_i value
    split at small
    · rename_i bounds
      obtain rfl := Option.some.inj small
      rw [Int.toNat_of_nonneg bounds.1]
    · cases small
  · cases small

theorem bind_ok {E A B : Type} {x : Except E A} {f : A → Except E B} {b : B} (h : (x >>= f) = .ok b) :
    ∃ a, x = .ok a ∧ f a = .ok b := by
  cases x with
  | error error => cases h
  | ok a => exact ⟨a, rfl, h⟩

theorem bind_error {E A B : Type} {x : Except E A} {f : A → Except E B} {e : E} (h : (x >>= f) = .error e) :
    x = .error e ∨ ∃ a, x = .ok a ∧ f a = .error e := by
  cases x with
  | error error => exact .inl (congrArg _ (Except.error.inj h))
  | ok a => exact .inr ⟨a, rfl, h⟩

/-- The elements behind the message type. -/
theorem elements (head : Json) {tail items : List Json} (length : (head :: tail).length = items.length + 1)
    (each : ∀ i, ∀ item, items[i]? = some item → (head :: tail)[i + 1]? = some item) : tail = items := by
  refine List.ext_getElem? fun i => ?_
  by_cases inside : i < items.length
  · have same := each i items[i] (List.getElem?_eq_getElem inside)
    rw [List.getElem?_cons_succ] at same
    rw [same, List.getElem?_eq_getElem inside]
  · rw [List.length_cons] at length
    rw [List.getElem?_eq_none (by omega), List.getElem?_eq_none (by omega)]

/-- What is decoded is a frame of the grammar, and it is written back as it was. -/
theorem tryFrom_ok {value : Json} {frame : Frame} (decoded : tryFrom value = .ok frame) :
    value.IsFrame ∧ frame.toValue = value := by
  unfold tryFrom at decoded
  split at decoded
  · cases decoded
  · rename_i head tail
    dsimp only at decoded
    split at decoded
    · rename_i kind
      obtain rfl := asU64_eq kind
      split at decoded
      · cases decoded
      · rename_i four
        obtain ⟨id, isId, decoded⟩ := bind_ok decoded
        obtain ⟨action, isAction, decoded⟩ := bind_ok decoded
        obtain ⟨payload, isPayload, decoded⟩ := bind_ok decoded
        obtain rfl := Except.ok.inj decoded
        obtain ⟨fields, isObject, rfl⟩ := takeObject_ok isPayload
        obtain rfl : tail = [.string id, .string action, .object fields] := by
          refine elements (.integer 2) (by simpa using four) fun i item => ?_
          match i with
          | 0 => rintro ⟨⟩; exact takeString_ok isId
          | 1 => rintro ⟨⟩; exact takeString_ok isAction
          | 2 => rintro ⟨⟩; exact isObject
          | _ + 3 => exact nofun
        exact ⟨.call id action fields, rfl⟩
    · rename_i kind
      obtain rfl := asU64_eq kind
      split at decoded
      · cases decoded
      · rename_i three
        obtain ⟨id, isId, decoded⟩ := bind_ok decoded
        obtain ⟨payload, isPayload, decoded⟩ := bind_ok decoded
        obtain rfl := Except.ok.inj decoded
        obtain ⟨fields, isObject, rfl⟩ := takeObject_ok isPayload
        obtain rfl : tail = [.string id, .object fields] := by
          refine elements (.integer 3) (by simpa using three) fun i item => ?_
          match i with
          | 0 => rintro ⟨⟩; exact takeString_ok isId
          | 1 => rintro ⟨⟩; exact isObject
          | _ + 2 => exact nofun
        exact ⟨.callResult id fields, rfl⟩
    · rename_i kind
      obtain rfl := asU64_eq kind
      split at decoded
      · cases decoded
      · rename_i five
        obtain ⟨id, isId, decoded⟩ := bind_ok decoded
        obtain ⟨code, isCode, decoded⟩ := bind_ok decoded
        obtain ⟨description, isDescription, decoded⟩ := bind_ok decoded
        obtain ⟨details, isDetails, decoded⟩ := bind_ok decoded
        obtain rfl := Except.ok.inj decoded
        obtain ⟨fields, isObject, rfl⟩ := takeObject_ok isDetails
        obtain rfl : tail = [.string id, .string code, .string description, .object fields] := by
          refine elements (.integer 4) (by simpa using five) fun i item => ?_
          match i with
          | 0 => rintro ⟨⟩; exact takeString_ok isId
          | 1 => rintro ⟨⟩; exact takeString_ok isCode
          | 2 => rintro ⟨⟩; exact takeString_ok isDescription
          | 3 => rintro ⟨⟩; exact isObject
          | _ + 4 => exact nofun
        refine ⟨.callError id code description fields, ?_⟩
        change Json.array [.integer 4, .string id, .string (ErrorCode.fromWire code).asStr, .string description,
          .object fields] = _
        rw [ErrorCode.asStr_fromWire]
        rfl
    · cases decoded
  · cases decoded

/-- A frame of the grammar is decoded. -/
theorem tryFrom_isFrame {value : Json} (grammar : value.IsFrame) : ∃ frame, tryFrom value = .ok frame := by
  cases grammar with
  | call id action fields => exact ⟨_, rfl⟩
  | callResult id fields => exact ⟨_, rfl⟩
  | callError id code description fields => exact ⟨_, rfl⟩

theorem tryFrom_toValue {frame : Frame} (encodable : frame.Encodable) : tryFrom frame.toValue = .ok frame := by
  cases frame with
  | call id action payload =>
    obtain ⟨fields, rfl⟩ := encodable
    rfl
  | callResult id payload =>
    obtain ⟨fields, rfl⟩ := encodable
    rfl
  | callError id code description details =>
    obtain ⟨canonical, fields, rfl⟩ := encodable
    change Except.ok (callError id (ErrorCode.fromWire code.asStr) description (.object fields)) = _
    rw [ErrorCode.fromWire_asStr canonical]

/-! ## Refusals -/

/-- A refused value keeps its message type and its id, where they could be read. -/
theorem tryFrom_error {value : Json} {error : FrameError} (refused : tryFrom value = .error error) (id : MessageId) :
    error.brokenCall = some id ↔ value.StartsCall id := by
  have readable {tail : List Json} : (tail.head?).bind Json.asStr = some id ↔ ∃ rest, tail = .string id :: rest := by
    cases tail with
    | nil => simp
    | cons first rest =>
      cases first <;> simp [Json.asStr]
  unfold tryFrom at refused
  split at refused
  · obtain rfl := Except.error.inj refused
    simp [FrameError.brokenCall, Json.StartsCall]
  · rename_i head tail
    dsimp only at refused
    split at refused
    · rename_i kind
      obtain rfl := asU64_eq kind
      -- whatever failed, the type and the id are those of the array
      have kept : error.messageType = some 2 ∧ error.messageId = (tail.head?).bind Json.asStr := by
        split at refused
        · obtain rfl := Except.error.inj refused
          exact ⟨rfl, rfl⟩
        · rcases bind_error refused with failed | ⟨_, _, refused⟩
          · obtain ⟨kind, rfl⟩ := takeString_error failed
            exact ⟨rfl, rfl⟩
          rcases bind_error refused with failed | ⟨_, _, refused⟩
          · obtain ⟨kind, rfl⟩ := takeString_error failed
            exact ⟨rfl, rfl⟩
          rcases bind_error refused with failed | ⟨_, _, refused⟩
          · obtain ⟨kind, rfl⟩ := takeObject_error failed
            exact ⟨rfl, rfl⟩
          · cases refused
      unfold FrameError.brokenCall
      rw [if_pos kept.1, kept.2, readable]
      simp [Json.StartsCall]
    · rename_i kind
      obtain rfl := asU64_eq kind
      have kept : error.messageType = some 3 := by
        split at refused
        · obtain rfl := Except.error.inj refused
          rfl
        · rcases bind_error refused with failed | ⟨_, _, refused⟩
          · obtain ⟨kind, rfl⟩ := takeString_error failed
            rfl
          rcases bind_error refused with failed | ⟨_, _, refused⟩
          · obtain ⟨kind, rfl⟩ := takeObject_error failed
            rfl
          · cases refused
      simp [FrameError.brokenCall, kept, Json.StartsCall]
    · rename_i kind
      obtain rfl := asU64_eq kind
      have kept : error.messageType = some 4 := by
        split at refused
        · obtain rfl := Except.error.inj refused
          rfl
        · rcases bind_error refused with failed | ⟨_, _, refused⟩
          · obtain ⟨kind, rfl⟩ := takeString_error failed
            rfl
          rcases bind_error refused with failed | ⟨_, _, refused⟩
          · obtain ⟨kind, rfl⟩ := takeString_error failed
            rfl
          rcases bind_error refused with failed | ⟨_, _, refused⟩
          · obtain ⟨kind, rfl⟩ := takeString_error failed
            rfl
          rcases bind_error refused with failed | ⟨_, _, refused⟩
          · obtain ⟨kind, rfl⟩ := takeObject_error failed
            rfl
          · cases refused
      simp [FrameError.brokenCall, kept, Json.StartsCall]
    · rename_i other _ _
      obtain rfl := Except.error.inj refused
      have noCall : head ≠ .integer 2 := by
        rintro rfl
        exact other rfl
      simp [FrameError.brokenCall, Json.StartsCall, noCall]
  · rename_i other
    obtain rfl := Except.error.inj refused
    have noCall : ¬value.StartsCall id := by
      rintro ⟨rest, rfl⟩
      exact other _ _ rfl
    simp [FrameError.brokenCall, noCall]

/-- **The codec.** A value is decoded if and only if it is a frame of the grammar, and then it is what the frame
is written as; an encodable frame is decoded from what it is written as; and a value that is refused is answered,
by a `FormationViolation` with its id, if and only if it was a CALL whose id could be read. -/
theorem frame_codec (render : Json → String) :
    (∀ value, (∃ frame, tryFrom value = .ok frame) ↔ value.IsFrame) ∧
    (∀ value frame, tryFrom value = .ok frame → frame.toValue = value) ∧
    (∀ frame, frame.Encodable → tryFrom frame.toValue = .ok frame) ∧
    ∀ value error, tryFrom value = .error error →
      ((error.reply render).isSome ↔ ∃ id, value.StartsCall id) ∧
      ∀ id, value.StartsCall id →
        error.reply render = some (.error id .formationViolation (error.kind.display render)) := by
  refine ⟨fun value => ⟨?_, tryFrom_isFrame⟩, fun value frame decoded => (tryFrom_ok decoded).2,
    fun frame encodable => tryFrom_toValue encodable, fun value error refused => ⟨?_, fun id starts => ?_⟩⟩
  · rintro ⟨frame, decoded⟩
    exact (tryFrom_ok decoded).1
  · unfold FrameError.reply
    rw [Option.isSome_map, Option.isSome_iff_exists]
    exact exists_congr fun id => tryFrom_error refused id
  · unfold FrameError.reply
    rw [(tryFrom_error refused id).mpr starts]
    rfl

end Frame

end KirbyOcpp.Ws
