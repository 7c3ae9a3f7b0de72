import ScriptBridge.Proofs.Data.Doubles
import ScriptBridge.Proofs.Messages.Decoded

/-!
# Whole numbers, read in two ways

A whole number is wanted in two places. A message has one for its target, and native code asks
values for theirs, which is also how an argument is recognised as a callback. The two places read
numbers by rules of their own, and what data text has for a number may come to them as a word or as
a double.

Both rules are about the exact value of a number (`Json.number?`). A target is that value if it is
whole and a signed word, and there is none otherwise; a value is read as the signed word *nearest*
to it if it is whole. So the readers agree on a number unless it is whole and no signed word
(`Json.IsNumber.readAlike_iff`), and 2 ^ 63 is the first number on which they do not
(`not_always_readAlike`).
-/

namespace ScriptBridge

/-! ## Nearest words -/

theorem toInt_nearestWord (n : Int) :
    (nearestWord n).toInt = max leastWord (min greatestWord n) := by
  refine Int64.toInt_ofInt_of_le ?_ ?_
  · exact Int.le_max_left _ _
  · refine Int.max_lt.mpr ⟨by decide, ?_⟩
    exact Int.lt_of_le_of_lt (Int.min_le_left _ _) (by decide)

theorem fitsWord_toInt_nearestWord (n : Int) : fitsWord (nearestWord n).toInt = true := by
  rw [fitsWord_iff, toInt_nearestWord, leastWord, greatestWord]
  omega

/-- A word is nearest to itself. -/
theorem toInt_nearestWord_of_fitsWord {n : Int} (h : fitsWord n = true) :
    (nearestWord n).toInt = n := by
  obtain ⟨hleast, hgreatest⟩ := fitsWord_iff.mp h
  rw [toInt_nearestWord, leastWord, greatestWord]
  omega

/-- The greatest word is the nearest one to all that is beyond it. -/
theorem toInt_nearestWord_of_le {n : Int} (h : 2 ^ 63 ≤ n) :
    (nearestWord n).toInt = greatestWord := by
  rw [toInt_nearestWord, leastWord, greatestWord]
  omega

/-! ## Values -/

/-- The numbers of data texts: the signed and the unsigned words, and doubles. -/
inductive Json.IsNumber : Json → Prop where
  | int {n : Int} (h : Json.NumberText.IsWord n) : IsNumber (.int n)
  | float (f : Float) : IsNumber (.float f)

/-- The double of an unsigned word that is no signed one is whole, and no signed word either. -/
theorem Binary64.whole?_toFloat {word : UInt64} (hword : 2 ^ 63 ≤ word.toNat) :
    ∃ n : Int, (ofFloat word.toFloat).whole? = some n ∧ 2 ^ 63 ≤ n := by
  obtain ⟨m, e, hparts, hm, he⟩ := ofFloat_toFloat hword
  have hwhole : wholeMagnitude? m e = some (m * 2 ^ e.toNat) := if_pos (by omega)
  refine ⟨(m * 2 ^ e.toNat : Nat), ?_, ?_⟩
  · rw [hparts, whole?_finite, hwhole]
    rfl
  · have hle : 2 ^ 52 * 2 ^ 11 ≤ m * 2 ^ e.toNat :=
      Nat.mul_le_mul hm (Nat.pow_le_pow_right Nat.two_pos (by omega))
    omega

theorem Value.word?_ofJson_int {n : Int} (h : Json.NumberText.IsWord n) :
    (ofJson (.int n)).word?.map Int64.toInt = some (nearestWord n).toInt := by
  obtain ⟨hleast, hgreatest⟩ := h
  rw [leastWord] at hleast
  rw [Json.NumberText.greatestUnsigned] at hgreatest
  by_cases hfits : fitsWord n = true
  · obtain ⟨hle, hlt⟩ := fitsWord_iff.mp hfits
    rw [toInt_nearestWord_of_fitsWord hfits, ofJson, if_pos hfits, word?, Option.map_some,
      Int64.toInt_ofInt_of_le hle hlt]
  -- what is beyond the signed words has been rounded, to something that is beyond them as well
  · have hbeyond : 2 ^ 63 ≤ n := by
      rw [fitsWord_iff] at hfits
      omega
    have hword : 2 ^ 63 ≤ n.toNat.toUInt64.toNat := by
      rw [Nat.toUInt64_eq, UInt64.toNat_ofNat']
      omega
    obtain ⟨k, hk, hle⟩ := Binary64.whole?_toFloat hword
    rw [ofJson, if_neg hfits, word?, hk, Option.map_some, Option.map_some,
      toInt_nearestWord_of_le hle, toInt_nearestWord_of_le hbeyond]

/-- **A value is read as the word nearest to it**, if it is a whole number. -/
theorem Json.IsNumber.word?_ofJson {number : Json} (h : number.IsNumber) {i : Int} :
    (Value.ofJson number).word?.map Int64.toInt = some i ↔
      ∃ n : Int, number.number? = some (n : ℚ) ∧ (nearestWord n).toInt = i := by
  cases h with
  | int hword =>
    rw [Value.word?_ofJson_int hword, Option.some.injEq]
    simp only [number?, Option.some.injEq, Int.cast_inj, exists_eq_left']
  | float f =>
    rw [Value.ofJson, Value.word?, Option.map_map]
    simp only [number?, ← Binary64.whole?_eq_some_iff, Option.map_eq_some_iff, Function.comp_apply]

/-! ## Both readers -/

/-- A message with an opcode whose target is written so. -/
inductive Message.AddressedTo (target : Json) : Message → Prop where
  | body {name opcode : String} {fields : List (String × Json)}
    (hopcode : Entries.find? opcodeKey fields = some (.string opcode))
    (htarget : Entries.find? targetKey fields = some target) :
    AddressedTo target ⟨name, some (.object fields)⟩

namespace Json

/-- Messages addressed to a number are understood as being for the integer that the number is read
as when it is a value. -/
def ReadAlike (number : Json) : Prop :=
  ∀ message : Message, message.AddressedTo number → ∀ i : Int,
    (∃ request, message.request? = .ok request ∧ request.target = i) ↔
      (Value.ofJson number).word?.map Int64.toInt = some i

/-- The number is a signed word if it is whole. -/
def FitsIfWhole (number : Json) : Prop :=
  ∀ n : Int, number.number? = some (n : ℚ) → fitsWord n = true

/-- An argument that marks a number as that of a function. -/
def marker (number : Json) : Json := .object [(ChannelId.callbackKey, number)]

variable {number : Json} (h : number.IsNumber)

/-- Some message is addressed to any number. -/
theorem addressedTo_self (number : Json) :
    (Message.mk "" (some (.object [(opcodeKey, .string ""), (targetKey, number)]))).AddressedTo
      number :=
  .body (by rfl) (by rfl)

include h

theorem IsNumber.ne_null : number ≠ .null := by
  cases h <;> exact Json.noConfusion

/-- **A target is the exact value of a number**, if that is whole and a signed word. -/
theorem IsNumber.request?_iff {message : Message} (hmessage : message.AddressedTo number)
    {i : Int} : (∃ request, message.request? = .ok request ∧ request.target = i) ↔
      number.number? = some (i : ℚ) ∧ fitsWord i = true := by
  obtain ⟨hopcode, htarget⟩ := hmessage
  rw [← Request.targets_some_iff h.ne_null]
  simp only [Message.request?_eq_ok_iff]
  constructor
  · rintro ⟨_, ⟨hopcode', htargets⟩, rfl⟩
    rwa [htarget] at htargets
  · intro htargets
    exact ⟨_, .body hopcode (htarget ▸ htargets), rfl⟩

/-- A number that is a signed word if it is whole is read as itself. -/
theorem IsNumber.word?_of_fits (hfits : number.FitsIfWhole) {i : Int} :
    (Value.ofJson number).word?.map Int64.toInt = some i ↔ number.number? = some (i : ℚ) := by
  rw [h.word?_ofJson]
  constructor
  · rintro ⟨n, hn, rfl⟩
    rwa [toInt_nearestWord_of_fitsWord (hfits n hn)]
  · intro hi
    exact ⟨i, hi, toInt_nearestWord_of_fitsWord (hfits i hi)⟩

/-- The readers part where a number is whole and no signed word. -/
theorem IsNumber.readAlike_iff_fits : number.ReadAlike ↔ number.FitsIfWhole := by
  constructor
  · intro halike n hn
    have hread : (Value.ofJson number).word?.map Int64.toInt = some (nearestWord n).toInt :=
      h.word?_ofJson.mpr ⟨n, hn, rfl⟩
    obtain ⟨hnearest, -⟩ := (h.request?_iff (addressedTo_self number)).mp
      ((halike _ (addressedTo_self number) _).mpr hread)
    have hsame : (nearestWord n).toInt = n :=
      Int.cast_injective (Option.some.inj (hnearest.symm.trans hn))
    exact hsame ▸ fitsWord_toInt_nearestWord n
  · intro hfits message hmessage i
    rw [h.request?_iff hmessage, h.word?_of_fits hfits]
    exact and_iff_left_of_imp (hfits i)

/-- A marked number is that of a callback if it is a natural number. -/
theorem IsNumber.callback?_marker (hfits : number.FitsIfWhole) (c : ChannelId)
    (function : Callback) :
    ChannelId.callback? c (Value.ofJson number.marker) = some function ↔
      number.number? = some (function.id : ℚ) ∧ function.channel = c := by
  rw [← Int.cast_natCast, ← h.word?_of_fits hfits, ChannelId.callback?_eq_some_iff,
    Option.map_eq_some_iff]
  constructor
  · rintro ⟨_, n, ⟨⟩, hn, hnonneg, rfl⟩
    have hnonneg' : 0 ≤ n.toInt := Int64.le_iff_toInt_le.mp hnonneg
    exact ⟨⟨n, hn, (Int.toNat_of_nonneg hnonneg').symm⟩, rfl⟩
  · rintro ⟨⟨n, hn, hid⟩, rfl⟩
    have hnonneg : 0 ≤ n := Int64.le_iff_toInt_le.mpr (hid ▸ Int.natCast_nonneg _)
    have hnat : n.toNatClampNeg = function.id := by
      rw [← Int64.toNat_toInt, hid, Int.toNat_natCast]
    exact ⟨_, n, rfl, hn, hnonneg, by rw [hnat]⟩

/-- **The readers agree** on a number just if it is a signed word or not whole. Then none of them
reads it as another integer, and what a marked argument becomes is the callback of that number, if
anything. -/
theorem IsNumber.readAlike_iff :
    (number.ReadAlike ↔ number.FitsIfWhole) ∧
      (number.FitsIfWhole → ∀ c : ChannelId,
        (∀ i, (Value.ofJson number).word?.map Int64.toInt = some i →
          number.number? = some (i : ℚ)) ∧
        (∀ id : Nat, number.number? = some (id : ℚ) →
          ChannelId.attach c [Value.ofJson number.marker] = [.callback ⟨id, c⟩]) ∧
        ((∀ id : Nat, number.number? ≠ some (id : ℚ)) →
          ChannelId.attach c [Value.ofJson number.marker] = [Value.ofJson number.marker])) := by
  refine ⟨h.readAlike_iff_fits, fun hfits c ↦ ⟨fun i ↦ (h.word?_of_fits hfits).mp, ?_, ?_⟩⟩
  · intro id hid
    have hcallback : ChannelId.callback? c (Value.ofJson number.marker) = some ⟨id, c⟩ :=
      (h.callback?_marker hfits c ⟨id, c⟩).mpr ⟨hid, rfl⟩
    simp only [ChannelId.attach, List.map_cons, List.map_nil, hcallback]
  · intro hno
    have hcallback : ChannelId.callback? c (Value.ofJson number.marker) = none := by
      refine Option.eq_none_iff_forall_ne_some.mpr fun function hfunction ↦ ?_
      exact hno _ ((h.callback?_marker hfits c function).mp hfunction).1
    simp only [ChannelId.attach, List.map_cons, List.map_nil, hcallback]

end Json

open Json

theorem whole?_four : (Binary64.ofFloat 4).whole? = some 4 := by decide +kernel

theorem four_readAlike : Json.ReadAlike (.float 4) ∧
    ChannelId.attach 0 [Value.ofJson (Json.marker (.float 4))] = [.callback ⟨4, 0⟩] := by
  have hfour : (Json.float 4).number? = some (4 : ℚ) := Binary64.whole?_eq_some_iff.mp whole?_four
  have hfits : (Json.float 4).FitsIfWhole := by
    intro n hn
    have hsame : (n : ℚ) = ((4 : Int) : ℚ) := Option.some.inj (hn.symm.trans hfour)
    rw [Int.cast_injective hsame]
    rfl
  obtain ⟨halike, hcallbacks⟩ := IsNumber.readAlike_iff (.float 4)
  exact ⟨halike.mpr hfits, (hcallbacks hfits 0).2.1 4 hfour⟩

/-- The first number beyond the signed words. -/
def beyondWords : Json := .int 0x8000000000000000

theorem isNumber_beyondWords : beyondWords.IsNumber := .int ⟨by decide, by decide⟩

/-- As a value it is the greatest word. -/
theorem word?_beyondWords : (Value.ofJson beyondWords).word? = some Int64.maxValue := by
  decide +kernel

/-- **A whole number that is no signed word** is refused as a target, but as a value it is read as
another number, and so a marked argument becomes the callback of another function. -/
theorem not_always_readAlike :
    ¬ (∀ number : Json, number.IsNumber → number.ReadAlike) ∧
      ¬ ∀ (number : Json) (c : ChannelId) (id : Nat), number.IsNumber →
        ChannelId.attach c [Value.ofJson number.marker] = [.callback ⟨id, c⟩] →
        number.number? = some (id : ℚ) := by
  constructor
  · intro halike
    have hfits : beyondWords.FitsIfWhole :=
      isNumber_beyondWords.readAlike_iff_fits.mp (halike _ isNumber_beyondWords)
    exact absurd (hfits 0x8000000000000000 rfl) (by decide)
  · intro hexact
    have hcallback : ChannelId.callback? 0 (Value.ofJson beyondWords.marker) =
        some ⟨0x7FFFFFFFFFFFFFFF, 0⟩ :=
      ChannelId.callback?_eq_some_iff.mpr ⟨_, _, rfl, word?_beyondWords, by decide, rfl⟩
    have hattach : ChannelId.attach 0 [Value.ofJson beyondWords.marker] =
        [.callback ⟨0x7FFFFFFFFFFFFFFF, 0⟩] := by
      simp only [ChannelId.attach, List.map_cons, List.map_nil, hcallback]
    have hvalue : ((0x8000000000000000 : Int) : ℚ) = ((0x7FFFFFFFFFFFFFFF : Nat) : ℚ) :=
      Option.some.inj (hexact beyondWords 0 _ isNumber_beyondWords hattach)
    norm_num at hvalue

end ScriptBridge
