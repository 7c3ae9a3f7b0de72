import ScriptBridge.Proofs.Data.Encodings
import ScriptBridge.Proofs.Expressions.Identity

/-!
# Occurrences of objects in a value

One native object may occur in a value many times, so an occurrence is a *way*: the steps that lead
from the value to it, by the index of an item or the key of a field. A literal refers to the
occurrences that the engine lets it see. Whether it sees one is a statement about the way alone:
nothing on it, its end included, is claimed (`Value.Mentions`).

`Value.mentions` lists these occurrences as the recursion of the literal comes by them, and two
facts say all about the list: what is in it (`Value.mem_mentions_iff`) and in which order
(`Value.mentions_ordered`). Ways are compared step by step, items by index and fields by the octets
of their keys; a strict order also says that no occurrence is listed twice.

`Value.writtenAs` is the literal when the text for every way is known beforehand. It has no resolver
and no state, so that a literal that equals it has each answer at the occurrence it was given for.
-/

namespace ScriptBridge

namespace Value

/-! ## Ways -/

/-- A step from a value to one of its parts. -/
inductive Step where
  | item (index : Nat)
  | field (key : String)
  deriving DecidableEq, Repr

/-- Items come by index, fields by the octets of their keys. -/
inductive Step.Before : Step → Step → Prop where
  | item {i j : Nat} (h : i < j) : Before (.item i) (.item j)
  | field {k l : String} (h : Utf8.encode k < Utf8.encode l) : Before (.field k) (.field l)

/-- The steps from a value to something in it. -/
abbrev Way := List Step

/-- The part of a value at a step. -/
def part? : Step → Value → Option Value
  | .item index, .array items => items[index]?
  | .field key, .object fields => Entries.find? key fields
  | _, _ => none

/-- What is found at the end of a way. -/
def at? : Way → Value → Option Value
  | [], value => some value
  | step :: way, value => (value.part? step).bind (at? way)

/-- All objects in the value keep their fields in the order of the keys, as `Value.ofFields` puts
them. -/
def Keyed (value : Value) : Prop :=
  ∀ way fields, value.at? way = some (.object fields) → Entries.Ordered fields

/-- An engine claims nothing on the way, its end included. -/
def Unclaimed (engine : EngineLiterals) (value : Value) (way : Way) : Prop :=
  ∀ before node, before <+: way → value.at? before = some node → engine node = none

/-- The object occurs at the way, and the engine claims neither this occurrence nor anything it
lies in. -/
structure Mentions (engine : EngineLiterals) (value : Value) (way : Way) (object : ObjectRef) :
    Prop where
  stands : value.at? way = some (.native object)
  unclaimed : value.Unclaimed engine way

/-- The parts of a value with the steps to them. -/
def parts : Value → List (Step × Value)
  | .array items => items.zipIdx.map fun (item, index) ↦ (.item index, item)
  | .object fields => fields.map fun (key, value) ↦ (.field key, value)
  | _ => []

variable {engine : EngineLiterals} {value part : Value} {step : Step} {way : Way}
  {object : ObjectRef} {items : List Value} {fields : List (String × Value)}

theorem at?_cons_of_part? (h : value.part? step = some part) (way : Way) :
    value.at? (step :: way) = part.at? way := by
  rw [at?, h, Option.bind_some]

theorem Keyed.of_part? (h : value.Keyed) (hpart : value.part? step = some part) : part.Keyed :=
  fun way fields hfields ↦ h (step :: way) fields ((at?_cons_of_part? hpart way).trans hfields)

theorem Keyed.fields_ordered (h : value.Keyed) :
    ∀ fields, value = .object fields → Entries.Ordered fields :=
  fun fields hvalue ↦ h [] fields (congrArg some hvalue)

theorem mem_parts_iff (h : ∀ fields, value = .object fields → Entries.Ordered fields) :
    (step, part) ∈ value.parts ↔ value.part? step = some part := by
  cases value with
  | array items =>
    simp only [parts, List.mem_map, Prod.exists, Prod.mk.injEq, List.mk_mem_zipIdx_iff_getElem?]
    cases step with
    | item index =>
      simp only [Step.item.injEq, part?]
      refine ⟨?_, fun hitem ↦ ⟨part, index, hitem, rfl, rfl⟩⟩
      rintro ⟨item, i, hitem, rfl, rfl⟩
      exact hitem
    | field key => simp [part?]
  | object fields =>
    simp only [parts, List.mem_map, Prod.exists, Prod.mk.injEq]
    cases step with
    | item index => simp [part?]
    | field key =>
      simp only [Step.field.injEq, part?, Entries.find?_eq_some_iff (h fields rfl)]
      refine ⟨?_, fun hfield ↦ ⟨key, part, hfield, rfl, rfl⟩⟩
      rintro ⟨k, v, hfield, rfl, rfl⟩
      exact hfield
  | _ => simp [parts, part?]

theorem Keyed.mem_parts_iff (h : value.Keyed) :
    (step, part) ∈ value.parts ↔ value.part? step = some part :=
  Value.mem_parts_iff h.fields_ordered

/-- A value is keyed if its parts are, and its own fields are in order. -/
theorem keyed_of_parts (h : ∀ fields, value = .object fields → Entries.Ordered fields)
    (hparts : ∀ step part, (step, part) ∈ value.parts → part.Keyed) : value.Keyed := by
  intro way fields hfields
  cases way with
  | nil => exact h fields (Option.some.inj hfields)
  | cons step way =>
    obtain ⟨part, hpart, hrest⟩ := Option.bind_eq_some_iff.mp hfields
    exact hparts step part ((mem_parts_iff h).mpr hpart) way fields hrest

theorem keyed_array (h : ∀ item ∈ items, item.Keyed) : (array items).Keyed := by
  refine keyed_of_parts nofun fun step part hpart ↦ ?_
  obtain ⟨⟨item, index⟩, hitem, heq⟩ := List.mem_map.mp hpart
  cases heq
  exact h part (List.mem_of_getElem? (List.mk_mem_zipIdx_iff_getElem?.mp hitem))

theorem keyed_object (hordered : Entries.Ordered fields) (h : ∀ field ∈ fields, field.2.Keyed) :
    (Value.object fields).Keyed := by
  refine keyed_of_parts ?_ fun step part hpart ↦ ?_
  · rintro _ ⟨⟩
    exact hordered
  · obtain ⟨field, hfield, heq⟩ := List.mem_map.mp hpart
    cases heq
    exact h field hfield

theorem Keyed.parts_ordered (h : value.Keyed) :
    value.parts.Pairwise fun a b ↦ Step.Before a.1 b.1 := by
  cases value with
  | array items =>
    refine List.pairwise_map.mpr ?_
    have hindices : (items.zipIdx.map Prod.snd).Pairwise (· < ·) := by
      rw [List.zipIdx_map_snd]
      exact List.pairwise_lt_range'
    exact (List.pairwise_map.mp hindices).imp Step.Before.item
  | object fields =>
    refine List.pairwise_map.mpr ((h [] fields rfl).imp ?_)
    exact fun hlt ↦ .field (Utf8.encode_lt_encode hlt)
  | _ => exact List.Pairwise.nil

/-- **Induction on the parts of a value.** -/
theorem partsInduction {motive : Value → Prop}
    (h : ∀ value, (∀ step part, (step, part) ∈ value.parts → motive part) → motive value)
    (value : Value) : motive value := by
  refine h value fun step part hpart ↦ ?_
  have hsmaller : sizeOf part < sizeOf value := by
    cases value with
    | array items =>
      obtain ⟨⟨item, index⟩, hitem, heq⟩ := List.mem_map.mp hpart
      cases heq
      have hmem : part ∈ items := List.mem_of_getElem? (List.mk_mem_zipIdx_iff_getElem?.mp hitem)
      have := List.sizeOf_lt_of_mem hmem
      simp only [array.sizeOf_spec]
      omega
    | object fields =>
      obtain ⟨⟨key, field⟩, hfield, heq⟩ := List.mem_map.mp hpart
      cases heq
      have := List.sizeOf_lt_of_mem hfield
      simp only [object.sizeOf_spec, Prod.mk.sizeOf_spec] at this ⊢
      omega
    | _ => cases hpart
  exact partsInduction h part
termination_by sizeOf value

/-! ## The occurrences that a literal refers to -/

/-- An occurrence in a part, seen from the whole. -/
def within (step : Step) (mention : Way × ObjectRef) : Way × ObjectRef :=
  (step :: mention.1, mention.2)

variable (engine) in
mutual

/-- The occurrences of objects that the literal of a value refers to, in order. -/
def mentions : Value → List (Way × ObjectRef)
  | .array items =>
    match engine (.array items) with
    | some _ => []
    | none => itemMentions 0 items
  | .object fields =>
    match engine (.object fields) with
    | some _ => []
    | none => fieldMentions fields
  | .native ref =>
    match engine (.native ref) with
    | some _ => []
    | none => [([], ref)]
  | _ => []

/-- The occurrences in items, the first of which has the index. -/
def itemMentions : Nat → List Value → List (Way × ObjectRef)
  | _, [] => []
  | index, item :: items =>
    (mentions item).map (within (.item index)) ++ itemMentions (index + 1) items

/-- The occurrences in fields. -/
def fieldMentions : List (String × Value) → List (Way × ObjectRef)
  | [] => []
  | (key, value) :: fields => (mentions value).map (within (.field key)) ++ fieldMentions fields

end

theorem itemMentions_eq (index : Nat) (items : List Value) :
    itemMentions engine index items = (items.zipIdx index).flatMap fun (item, i) ↦
      (mentions engine item).map (within (.item i)) := by
  induction items generalizing index with
  | nil => rfl
  | cons item items ih => rw [itemMentions, ih, List.zipIdx_cons, List.flatMap_cons]

theorem fieldMentions_eq (fields : List (String × Value)) :
    fieldMentions engine fields = fields.flatMap fun (key, value) ↦
      (mentions engine value).map (within (.field key)) := by
  induction fields with
  | nil => rfl
  | cons field fields ih => rw [fieldMentions, ih, List.flatMap_cons]

theorem mentions_of_claimed {text : String} (h : engine value = some text) :
    value.mentions engine = [] := by
  cases value <;> simp [mentions, h]

/-- Nothing is part of an object. -/
theorem mentions_native (h : engine (.native object) = none) :
    (native object).mentions engine = [([], object)] := by
  simp [mentions, h]

/-- What is no object itself mentions what its parts mention. -/
theorem mentions_of_unclaimed (h : engine value = none) (hnative : ∀ ref, value ≠ .native ref) :
    value.mentions engine = value.parts.flatMap fun (step, part) ↦
      (part.mentions engine).map (within step) := by
  cases value with
  | array items => simp [mentions, h, parts, itemMentions_eq, List.flatMap_map]
  | object fields => simp [mentions, h, parts, fieldMentions_eq, List.flatMap_map]
  | native ref => exact absurd rfl (hnative ref)
  | _ => rfl

mutual

theorem mentions_objects : ∀ value : Value,
    (value.mentions engine).map Prod.snd = value.referred engine
  | .array items => by
    simp only [mentions, referred]
    cases engine (.array items) with
    | some text => rfl
    | none => exact itemMentions_objects 0 items
  | .object fields => by
    simp only [mentions, referred]
    cases engine (.object fields) with
    | some text => rfl
    | none => exact fieldMentions_objects fields
  | .native ref => by
    simp only [mentions, referred]
    cases engine (.native ref) with
    | some text => rfl
    | none => rfl
  | .undefined | .null | .bool _ | .int _ | .float _ | .string _ | .date _ | .bytes _
  | .callback _ | .described _ => rfl

theorem itemMentions_objects : ∀ (index : Nat) (items : List Value),
    (itemMentions engine index items).map Prod.snd = itemsReferred engine items
  | _, [] => rfl
  | index, item :: items => by
    rw [itemMentions, itemsReferred, List.map_append, List.map_map, itemMentions_objects,
      ← mentions_objects item]
    rfl

theorem fieldMentions_objects : ∀ fields : List (String × Value),
    (fieldMentions engine fields).map Prod.snd = fieldsReferred engine fields
  | [] => rfl
  | (key, value) :: fields => by
    rw [fieldMentions, fieldsReferred, List.map_append, List.map_map, fieldMentions_objects,
      ← mentions_objects value]
    rfl

end

/-! ### What is listed -/

theorem unclaimed_nil_iff : value.Unclaimed engine [] ↔ engine value = none := by
  refine ⟨fun h ↦ h [] value (List.prefix_refl []) rfl, ?_⟩
  intro h before node hbefore hnode
  obtain rfl := List.prefix_nil.mp hbefore
  exact Option.some.inj hnode ▸ h

theorem unclaimed_cons_iff (h : value.part? step = some part) :
    value.Unclaimed engine (step :: way) ↔ engine value = none ∧ part.Unclaimed engine way := by
  refine ⟨fun hway ↦ ⟨hway [] value List.nil_prefix rfl, ?_⟩, ?_⟩
  · intro before node hbefore hnode
    exact hway (step :: before) node (List.cons_prefix_cons.mpr ⟨rfl, hbefore⟩)
      ((at?_cons_of_part? h before).trans hnode)
  · rintro ⟨hvalue, hpart⟩ before node hbefore hnode
    cases before with
    | nil => exact Option.some.inj hnode ▸ hvalue
    | cons first before =>
      obtain ⟨rfl, hrest⟩ := List.cons_prefix_cons.mp hbefore
      exact hpart before node hrest ((at?_cons_of_part? h before).symm.trans hnode)

theorem mentions_nil_iff :
    value.Mentions engine [] object ↔ value = .native object ∧ engine value = none :=
  ⟨fun h ↦ ⟨Option.some.inj h.stands, unclaimed_nil_iff.mp h.unclaimed⟩,
    fun h ↦ ⟨congrArg some h.1, unclaimed_nil_iff.mpr h.2⟩⟩

theorem mentions_cons_iff :
    value.Mentions engine (step :: way) object ↔
      engine value = none ∧ ∃ part, value.part? step = some part ∧
        part.Mentions engine way object := by
  constructor
  · intro h
    obtain ⟨part, hpart, hstands⟩ := Option.bind_eq_some_iff.mp h.stands
    obtain ⟨hvalue, hunclaimed⟩ := (unclaimed_cons_iff hpart).mp h.unclaimed
    exact ⟨hvalue, part, hpart, hstands, hunclaimed⟩
  · rintro ⟨hvalue, part, hpart, hstands, hunclaimed⟩
    exact ⟨(at?_cons_of_part? hpart way).trans hstands,
      (unclaimed_cons_iff hpart).mpr ⟨hvalue, hunclaimed⟩⟩

/-- **A literal refers to the occurrences that the engine lets it see**, and to no other ones. -/
theorem mem_mentions_iff (h : value.Keyed) :
    (way, object) ∈ value.mentions engine ↔ value.Mentions engine way object := by
  induction value using partsInduction generalizing way with
  | h value ih =>
    cases hclaimed : engine value with
    | some text =>
      have hnone : ¬ value.Mentions engine way object := fun hmentions ↦ by
        have hfree := hmentions.unclaimed [] value List.nil_prefix rfl
        rw [hclaimed] at hfree
        cases hfree
      simp [mentions_of_claimed hclaimed, hnone]
    | none =>
      by_cases hnative : ∃ ref, value = .native ref
      · obtain ⟨ref, rfl⟩ := hnative
        rw [mentions_native hclaimed, List.mem_singleton, Prod.mk.injEq]
        cases way with
        | nil =>
          rw [mentions_nil_iff]
          simp [hclaimed, eq_comm]
        | cons step way =>
          rw [mentions_cons_iff]
          simp [part?]
      · rw [mentions_of_unclaimed hclaimed fun ref href ↦ hnative ⟨ref, href⟩]
        simp only [List.mem_flatMap, Prod.exists, List.mem_map, within, Prod.mk.injEq]
        cases way with
        | nil =>
          rw [mentions_nil_iff]
          refine ⟨?_, fun hvalue ↦ absurd ⟨object, hvalue.1⟩ hnative⟩
          rintro ⟨_, _, _, _, _, _, hway, _⟩
          cases hway
        | cons step way =>
          rw [mentions_cons_iff]
          constructor
          · rintro ⟨first, part, hpart, rest, other, hrest, hway, rfl⟩
            obtain ⟨rfl, rfl⟩ := List.cons.inj hway
            have hpart' := h.mem_parts_iff.mp hpart
            exact ⟨hclaimed, part, hpart', (ih _ part hpart (h.of_part? hpart')).mp hrest⟩
          · rintro ⟨-, part, hpart, hmentions⟩
            have hpart' := h.mem_parts_iff.mpr hpart
            exact ⟨step, part, hpart', way, object,
              (ih _ part hpart' (h.of_part? hpart)).mpr hmentions, rfl, rfl⟩

/-! ### In which order -/

/-- One way comes before the other where they part. -/
def Way.Before : Way → Way → Prop := List.Lex Step.Before

theorem Way.Before.irrefl (way : Way) : ¬ Way.Before way way := by
  induction way with
  | nil => exact nofun
  | cons step way ih =>
    intro h
    cases h with
    | rel hstep =>
      cases hstep with
      | item hlt => exact Nat.lt_irrefl _ hlt
      | field hlt => exact List.lt_irrefl _ hlt
    | cons hway => exact ih hway

/-- **A literal goes from left to right**: the occurrences are listed in the order of their ways. -/
theorem mentions_ordered (h : value.Keyed) :
    (value.mentions engine).Pairwise fun a b ↦ Way.Before a.1 b.1 := by
  induction value using partsInduction with
  | h value ih =>
    cases hclaimed : engine value with
    | some text =>
      rw [mentions_of_claimed hclaimed]
      exact List.Pairwise.nil
    | none =>
      by_cases hnative : ∃ ref, value = .native ref
      · obtain ⟨ref, rfl⟩ := hnative
        rw [mentions_native hclaimed]
        exact List.pairwise_singleton _ _
      · rw [mentions_of_unclaimed hclaimed fun ref href ↦ hnative ⟨ref, href⟩]
        refine List.pairwise_flatMap.mpr ⟨?_, h.parts_ordered.imp ?_⟩
        · rintro ⟨step, part⟩ hpart
          refine List.pairwise_map.mpr ((ih step part hpart ?_).imp .cons)
          exact h.of_part? (h.mem_parts_iff.mp hpart)
        · rintro ⟨step, part⟩ ⟨step', part'⟩ hstep a ha b hb
          obtain ⟨a, -, rfl⟩ := List.mem_map.mp ha
          obtain ⟨b, -, rfl⟩ := List.mem_map.mp hb
          exact .rel hstep

theorem mentions_ways_nodup (h : value.Keyed) :
    ((value.mentions engine).map Prod.fst).Nodup := by
  refine List.pairwise_map.mpr ((mentions_ordered h).imp ?_)
  rintro a b hbefore heq
  exact Way.Before.irrefl b.1 (heq ▸ hbefore)

/-! ## Literals whose answers are known -/

variable (engine) in
mutual

/-- The literal of a value in which each occurrence of an object is referred to by the text for its
way. -/
def writtenAs (told : Way → String) : Value → String
  | .array items =>
    match engine (.array items) with
    | some text => text
    | none => "[" ++ ", ".intercalate (itemsWrittenAs told 0 items) ++ "]"
  | .object fields =>
    match engine (.object fields) with
    | some text => text
    | none => "\x7b" ++ ", ".intercalate (fieldsWrittenAs told fields) ++ "\x7d"
  | .native ref =>
    match engine (.native ref) with
    | some text => text
    | none => told []
  | value =>
    match engine value with
    | some text => text
    | none => value.leafLiteral

/-- The literals of items, the first of which has the index. -/
def itemsWrittenAs (told : Way → String) : Nat → List Value → List String
  | _, [] => []
  | index, item :: items =>
    writtenAs (fun way ↦ told (.item index :: way)) item :: itemsWrittenAs told (index + 1) items

/-- The literals of fields. -/
def fieldsWrittenAs (told : Way → String) : List (String × Value) → List String
  | [] => []
  | (key, value) :: fields =>
    (quote key ++ ": " ++ writtenAs (fun way ↦ told (.field key :: way)) value) ::
      fieldsWrittenAs told fields

end

/-- The texts for occurrences. -/
def textsOf (told : Way → String) (mentions : List (Way × ObjectRef)) : List String :=
  mentions.map fun mention ↦ told mention.1

theorem textsOf_within (told : Way → String) (step : Step) (mentions : List (Way × ObjectRef)) :
    textsOf told (mentions.map (within step)) = textsOf (fun way ↦ told (step :: way)) mentions :=
  List.map_map

/-- What holds no others takes no text. -/
private theorem plain_texts (claimed : Option String) (text : String) (texts : List String) :
    (match claimed with
      | some text => pure text
      | none => pure text : StateM (List String) String) texts =
        ((match claimed with
          | some text => text
          | none => text), texts) := by
  cases claimed <;> rfl

mutual

/-- **Answers come to where they were asked for.** When the texts for the occurrences are dictated
in order, each is written at its own way. -/
theorem literalWith_texts : ∀ (value : Value) (told : Way → String) (rest : List String),
    literalWith engine dictated value (textsOf told (value.mentions engine) ++ rest) =
      (value.writtenAs engine told, rest)
  | .array items, told, rest => by
    simp only [literalWith, mentions, writtenAs]
    cases engine (.array items) with
    | some text => rfl
    | none =>
      simp only [bind, StateT.bind, itemLiterals_texts items told 0 rest]
      rfl
  | .object fields, told, rest => by
    simp only [literalWith, mentions, writtenAs]
    cases engine (.object fields) with
    | some text => rfl
    | none =>
      simp only [bind, StateT.bind, fieldLiterals_texts fields told rest]
      rfl
  | .native ref, told, rest => by
    simp only [literalWith, mentions, writtenAs]
    cases engine (.native ref) with
    | some text => rfl
    | none => rfl
  | .undefined, told, rest | .null, told, rest | .bool _, told, rest | .int _, told, rest
  | .float _, told, rest | .string _, told, rest | .date _, told, rest | .bytes _, told, rest
  | .callback _, told, rest | .described _, told, rest => by
    simp only [literalWith, mentions, writtenAs]
    exact plain_texts _ _ rest

theorem itemLiterals_texts :
    ∀ (items : List Value) (told : Way → String) (index : Nat) (rest : List String),
      itemLiterals engine dictated items
          (textsOf told (itemMentions engine index items) ++ rest) =
        (itemsWrittenAs engine told index items, rest)
  | [], _, _, _ => rfl
  | item :: items, told, index, rest => by
    rw [itemMentions, textsOf, List.map_append, List.append_assoc, ← textsOf, ← textsOf,
      textsOf_within, itemLiterals]
    simp only [bind, StateT.bind, literalWith_texts item, itemLiterals_texts items]
    rfl

theorem fieldLiterals_texts :
    ∀ (fields : List (String × Value)) (told : Way → String) (rest : List String),
      fieldLiterals engine dictated fields
          (textsOf told (fieldMentions engine fields) ++ rest) =
        (fieldsWrittenAs engine told fields, rest)
  | [], _, _ => rfl
  | (key, value) :: fields, told, rest => by
    rw [fieldMentions, textsOf, List.map_append, List.append_assoc, ← textsOf, ← textsOf,
      textsOf_within, fieldLiterals]
    simp only [bind, StateT.bind, literalWith_texts value, fieldLiterals_texts fields]
    rfl

end

/-- Texts for the occurrences, in order, are texts for their ways, as no way is listed twice. -/
theorem exists_textsOf (h : value.Keyed) {texts : List String}
    (hlength : texts.length = (value.mentions engine).length) :
    ∃ told, textsOf told (value.mentions engine) = texts := by
  let ways := (value.mentions engine).map Prod.fst
  have hways : ways.Nodup := mentions_ways_nodup h
  refine ⟨fun way ↦ texts.getD (ways.idxOf way) "", ?_⟩
  refine List.ext_getElem (by simp [textsOf, hlength]) fun k hk hk' ↦ ?_
  have hk'' : k < ways.length := by simpa [ways, hlength] using hk'
  have hindex : ways.idxOf (value.mentions engine)[k].1 = k := by
    have hwayk : (value.mentions engine)[k].1 = ways[k] := by simp [ways]
    rw [hwayk, hways.idxOf_getElem k hk'']
  simp only [textsOf, List.getElem_map, hindex]
  simp [hk']

end Value

end ScriptBridge
