import Mathlib.Algebra.Order.Field.Power
import Mathlib.Algebra.Order.Field.Rat
import ScriptBridge.Bridge.Gate
import ScriptBridge.Proofs.Data.Printed
import ScriptBridge.Proofs.Messages.Forwarded

/-!
# Which bodies are requests

A body is a request if it is an object with a text for its opcode and an acceptable target. Numbers
have three representations here, and a script sends every id as a double, so what is acceptable is
said by the exact value of a number (`Json.number?`): it is to be whole and to fit a signed word.
That is what `Message.request?` checks (`Message.request?_eq_ok_iff`).

In the other direction, the printed body of a request gives that request when it is read and
understood, in whatever order its fields are and whatever other fields it has
(`Request.SpelledBy.decode_run`).
-/

namespace ScriptBridge

/-! ## The exact value of a number -/

namespace Binary64

/-- The number that a double is, if it is one. -/
def number? : Binary64 → Option ℚ
  | .finite negative significand exponent =>
    some ((if negative then -1 else 1) * (significand * 2 ^ exponent))
  | _ => none

/-- The natural number that a magnitude is, if it is one. -/
def wholeMagnitude? (significand : Nat) (exponent : Int) : Option Nat :=
  if 0 ≤ exponent then some (significand * twoTo exponent.toNat)
  else if significand % twoTo (-exponent).toNat = 0 then
    some (significand / twoTo (-exponent).toNat)
  else none

theorem wholeMagnitude?_eq_some_iff {significand m : Nat} {exponent : Int} :
    wholeMagnitude? significand exponent = some m ↔ (significand * 2 ^ exponent : ℚ) = m := by
  obtain ⟨k, rfl | rfl⟩ := Int.eq_nat_or_neg exponent
  · have hvalue : wholeMagnitude? significand k = some (significand * 2 ^ k) := by
      rw [wholeMagnitude?, if_pos (Int.natCast_nonneg k), Int.toNat_natCast]
      rfl
    rw [hvalue, Option.some.injEq, zpow_natCast]
    norm_cast
  · by_cases hk : k = 0
    · subst hk
      simp [wholeMagnitude?, twoTo]
    · have hvalue : wholeMagnitude? significand (-k) =
          if significand % 2 ^ k = 0 then some (significand / 2 ^ k) else none := by
        rw [wholeMagnitude?, if_neg (by omega), neg_neg, Int.toNat_natCast]
        rfl
      have hexact : (significand * 2 ^ (-(k : Int)) : ℚ) = m ↔ significand = m * 2 ^ k := by
        rw [zpow_neg, zpow_natCast, mul_inv_eq_iff_eq_mul₀ (pow_ne_zero k two_ne_zero)]
        norm_cast
      rw [hvalue, hexact]
      by_cases hdvd : significand % 2 ^ k = 0
      · rw [if_pos hdvd, Option.some.injEq,
          Nat.div_eq_iff_eq_mul_left (Nat.two_pow_pos k) (Nat.dvd_of_mod_eq_zero hdvd)]
      · rw [if_neg hdvd]
        refine iff_of_false (Option.some_ne_none m).symm fun h ↦ hdvd ?_
        rw [h, Nat.mul_mod_left]

theorem whole?_finite (negative : Bool) (significand : Nat) (exponent : Int) :
    (finite negative significand exponent).whole? =
      (wholeMagnitude? significand exponent).map
        fun m : Nat ↦ if negative then -(m : Int) else m := by
  change Option.map _ ((wholeMagnitude? significand exponent).bind _) = _
  cases wholeMagnitude? significand exponent <;> rfl

/-- **Whole doubles are those whose exact value is whole.** -/
theorem whole?_eq_some_iff {b : Binary64} {n : Int} :
    b.whole? = some n ↔ b.number? = some (n : ℚ) := by
  cases b with
  | nan => exact iff_of_false (Option.some_ne_none n).symm (Option.some_ne_none _).symm
  | infinite => exact iff_of_false (Option.some_ne_none n).symm (Option.some_ne_none _).symm
  | finite negative significand exponent =>
    have hmagnitude : (0 : ℚ) ≤ significand * 2 ^ exponent :=
      mul_nonneg (Nat.cast_nonneg significand) (zpow_nonneg zero_le_two exponent)
    rw [whole?_finite, number?, Option.some.injEq, Option.map_eq_some_iff]
    generalize hsize : (significand * 2 ^ exponent : ℚ) = size at hmagnitude
    simp only [wholeMagnitude?_eq_some_iff, hsize]
    constructor
    · rintro ⟨m, rfl, rfl⟩
      cases negative <;> simp
    -- a magnitude is not negative, so it is a natural number if it is whole
    · intro hn
      cases negative with
      | false =>
        rw [if_neg Bool.false_ne_true, one_mul] at hn
        subst hn
        obtain ⟨m, rfl⟩ := Int.eq_ofNat_of_zero_le (Int.cast_nonneg_iff.mp hmagnitude)
        exact ⟨m, rfl, rfl⟩
      | true =>
        rw [if_pos rfl, neg_one_mul, neg_eq_iff_eq_neg, ← Int.cast_neg] at hn
        subst hn
        obtain ⟨m, hm⟩ := Int.eq_ofNat_of_zero_le (Int.cast_nonneg_iff.mp hmagnitude)
        exact ⟨m, by rw [hm]; rfl, by rw [if_pos rfl]; omega⟩

end Binary64

/-- The number that data are, if they are one. -/
def Json.number? : Json → Option ℚ
  | .int n => some n
  | .float f => (Binary64.ofFloat f).number?
  | _ => none

/-! ## What a body asks -/

/-- What a field says about the target. A missing one means the principal. -/
inductive Request.Targets : Option Json → Int → Prop where
  | missing : Targets none 0
  | null : Targets (some .null) 0
  | number {json : Json} {target : Int} (hvalue : json.number? = some (target : ℚ))
    (hleast : -2 ^ 63 ≤ target) (hgreatest : target < 2 ^ 63) : Targets (some json) target

/-- What a message asks, if it is a request. -/
inductive Message.Asks : Message → Request → Prop where
  | body {name opcode : String} {fields : List (String × Json)} {target : Int}
    (hopcode : Entries.find? opcodeKey fields = some (.string opcode))
    (htarget : Request.Targets (Entries.find? targetKey fields) target) :
    Asks ⟨name, some (.object fields)⟩
      { channel := name, target, opcode, operand := Entries.find? operandKey fields }

theorem fitsWord_iff {n : Int} : fitsWord n = true ↔ -2 ^ 63 ≤ n ∧ n < 2 ^ 63 := by
  rw [fitsWord_iff_between, leastWord, greatestWord]
  omega

namespace Request

theorem targets_some_iff {json : Json} {target : Int} (hnull : json ≠ .null) :
    Targets (some json) target ↔ json.number? = some (target : ℚ) ∧ fitsWord target = true := by
  rw [fitsWord_iff]
  constructor
  · intro h
    cases h with
    | null => exact absurd rfl hnull
    | number hvalue hleast hgreatest => exact ⟨hvalue, hleast, hgreatest⟩
  · rintro ⟨hvalue, hleast, hgreatest⟩
    exact .number hvalue hleast hgreatest

theorem ite_fitsWord_eq_ok_iff {n target : Int} {malformation : Malformation} :
    (if fitsWord n then .ok n else .error malformation : Except Malformation Int) = .ok target ↔
      n = target ∧ fitsWord target = true := by
  by_cases hfits : fitsWord n = true
  · rw [if_pos hfits, Except.ok.injEq]
    constructor
    · rintro rfl
      exact ⟨rfl, hfits⟩
    · exact And.left
  · rw [if_neg hfits]
    refine iff_of_false nofun ?_
    rintro ⟨rfl, h⟩
    exact hfits h

theorem target?_eq_ok_iff {field : Option Json} {target : Int} :
    target? field = .ok target ↔ Targets field target := by
  match field with
  | none =>
    constructor
    · rintro ⟨⟩
      exact .missing
    · rintro ⟨⟩
      rfl
  | some .null =>
    constructor
    · rintro ⟨⟩
      exact .null
    · rintro (_ | _ | hvalue)
      · rfl
      · exact absurd hvalue.symm (Option.some_ne_none _)
  | some (.int n) =>
    rw [targets_some_iff Json.noConfusion, target?, ite_fitsWord_eq_ok_iff, Json.number?,
      Option.some.injEq, Int.cast_inj]
  | some (.float f) =>
    rw [targets_some_iff Json.noConfusion, Json.number?, ← Binary64.whole?_eq_some_iff, target?]
    cases (Binary64.ofFloat f).whole? with
    | none => simp
    | some n =>
      rw [Option.some.injEq]
      exact ite_fitsWord_eq_ok_iff
  | some (.bool _) | some (.string _) | some (.array _) | some (.object _) =>
    rw [targets_some_iff Json.noConfusion]
    exact iff_of_false nofun fun h ↦ Option.some_ne_none _ h.1.symm

end Request

theorem Json.string?_eq_some_iff {json : Json} {text : String} :
    json.string? = some text ↔ json = .string text := by
  cases json <;> simp [string?]

/-- Where there is an opcode, the target decides. -/
theorem Message.request?_keyed {name opcode : String} {fields : List (String × Json)}
    (hopcode : (Entries.find? opcodeKey fields).bind Json.string? = some opcode) :
    (Message.mk name (some (.object fields))).request? =
      (Request.target? (Entries.find? targetKey fields)).map fun target ↦
        { channel := name, target, opcode, operand := Entries.find? operandKey fields } := by
  simp only [request?, Json.fields?, hopcode]
  rfl

/-- **A message is understood as what it asks.** -/
theorem Message.request?_eq_ok_iff {message : Message} {request : Request} :
    message.request? = .ok request ↔ message.Asks request := by
  constructor
  · intro h
    match message with
    | ⟨_, none⟩ => cases h
    | ⟨_, some (.null)⟩ | ⟨_, some (.bool _)⟩ | ⟨_, some (.int _)⟩ | ⟨_, some (.float _)⟩
    | ⟨_, some (.string _)⟩ | ⟨_, some (.array _)⟩ => cases h
    | ⟨name, some (.object fields)⟩ =>
      cases hopcode : (Entries.find? opcodeKey fields).bind Json.string? with
      | none =>
        simp only [request?, Json.fields?, hopcode] at h
        cases h
      | some opcode =>
        obtain ⟨json, hjson, htext⟩ := Option.bind_eq_some_iff.mp hopcode
        obtain rfl := Json.string?_eq_some_iff.mp htext
        rw [request?_keyed hopcode] at h
        cases htarget : Request.target? (Entries.find? targetKey fields) with
        | error => simp [htarget, Except.map] at h
        | ok target =>
          rw [htarget] at h
          cases h
          exact .body hjson (Request.target?_eq_ok_iff.mp htarget)
  · rintro ⟨hopcode, htarget⟩
    rw [request?_keyed (by rw [hopcode]; rfl), Request.target?_eq_ok_iff.mpr htarget]
    rfl

/-! ## Requests that are spelled out -/

/-- The fields of a body that spells a request out, in any order and with any others. -/
structure Request.SpelledBy (request : Request) (fields : List (String × Json)) : Prop where
  /-- No field is there twice. -/
  keys : (fields.map Prod.fst).Nodup
  values : ∀ field ∈ fields, field.2.Integral 126
  word : fitsWord request.target = true
  opcode : (opcodeKey, .string request.opcode) ∈ fields
  target : (targetKey, .int request.target) ∈ fields
  operand : ∀ json, (operandKey, json) ∈ fields ↔ request.operand = some json

namespace Request.SpelledBy

variable {request : Request} {fields : List (String × Json)} (h : request.SpelledBy fields)
include h

/-- Such a body asks what it spells out. -/
theorem asks : (Message.mk request.channel (some (Json.ofFields fields))).Asks request := by
  have hopcode : Entries.find? opcodeKey (Entries.ofList fields) = some (.string request.opcode) :=
    (Entries.find?_ofList_eq_some_iff h.keys _ _).mpr h.opcode
  have htarget : Entries.find? targetKey (Entries.ofList fields) = some (.int request.target) :=
    (Entries.find?_ofList_eq_some_iff h.keys _ _).mpr h.target
  have hoperand : Entries.find? operandKey (Entries.ofList fields) = request.operand := by
    refine Option.ext fun json ↦ ?_
    rw [Entries.find?_ofList_eq_some_iff h.keys, h.operand]
  obtain ⟨hleast, hgreatest⟩ := fitsWord_iff.mp h.word
  obtain ⟨channel, target, opcode, operand⟩ := request
  obtain rfl : Entries.find? operandKey (Entries.ofList fields) = operand := hoperand
  refine .body hopcode ?_
  rw [htarget]
  exact .number rfl hleast hgreatest

/-- **What is spelled out comes through the gate.** -/
theorem decode_run {σ : Type} (frame : Frame) (bridge : Bridge σ) :
    ∃ message, Gate.decode request.channel (some (Json.object fields).print) frame bridge =
      some (message, bridge) ∧ message.Asks request := by
  have hread : Json.parse? (Json.object fields).print = some (Json.ofFields fields) :=
    Json.parse?_print_fields h.values
  refine ⟨_, ?_, h.asks⟩
  rw [Gate.decode_run, Gate.messageOf, Gate.told, Option.bind_some, hread]
  exact congrArg (fun bridge ↦ some (_, bridge)) (Bridge.logged_nil bridge)

end Request.SpelledBy

/-- **Decoding is exact.** The printed body of a request is decoded to that request, and nothing is
said about it. A message is understood just if it asks something, and it is malformed otherwise. -/
theorem decoding_exact {σ : Type} :
    (∀ (request : Request) (fields : List (String × Json)), request.SpelledBy fields →
      ∀ (frame : Frame) (bridge : Bridge σ), ∃ message,
        Gate.decode request.channel (some (Json.object fields).print) frame bridge =
          some (message, bridge) ∧ message.request? = .ok request) ∧
    (∀ (message : Message) (request : Request),
      message.request? = .ok request ↔ message.Asks request) ∧
    ∀ message : Message, (¬ ∃ request, message.Asks request) →
      ∃ reason, message.request?.mapError Malformation.error = .error (.malformedMessage reason) := by
  refine ⟨fun request fields hspelled frame bridge ↦ ?_, fun message request ↦ ?_,
    fun message hnone ↦ ?_⟩
  · obtain ⟨message, hrun, hasks⟩ := hspelled.decode_run frame bridge
    exact ⟨message, hrun, Message.request?_eq_ok_iff.mpr hasks⟩
  · exact Message.request?_eq_ok_iff
  · cases hrequest : message.request? with
    | ok request => exact absurd ⟨request, Message.request?_eq_ok_iff.mp hrequest⟩ hnone
    | error malformation => exact ⟨malformation.reason, rfl⟩

/-- The fields of a creation with a null operand, the greatest word among what else there is. -/
def creationFields : List (String × Json) :=
  [("more", .array [.int 0xFFFFFFFFFFFFFFFF]), (operandKey, .null), (opcodeKey, .string "+"),
    (targetKey, .int (-0x8000000000000000))]

theorem creation_decoded : ∃ message,
    Gate.decode "c" (some (Json.object creationFields).print) {}
      ({ native := 0, context := none } : Bridge Nat) =
        some (message, { native := 0, context := none }) ∧
    message.request? = .ok ⟨"c", -0x8000000000000000, "+", some .null⟩ := by
  refine decoding_exact.1 ⟨"c", -0x8000000000000000, "+", some .null⟩ creationFields ?_ _ _
  constructor
  case keys => decide
  case values =>
    simp only [creationFields, List.forall_mem_cons]
    refine ⟨.array ?_, .null, .string _, .int ⟨by decide, by decide⟩, nofun⟩
    rw [List.forall_mem_singleton]
    exact .int ⟨by decide, by decide⟩
  case word => decide
  case opcode => simp [creationFields]
  case target => simp [creationFields]
  case operand => simp [creationFields, opcodeKey, targetKey, operandKey, eq_comm]

end ScriptBridge
