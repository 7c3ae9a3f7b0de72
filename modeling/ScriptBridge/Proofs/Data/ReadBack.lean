import ScriptBridge.Proofs.Data.Written
import ScriptBridge.Value.Literal

/-!
# Values that are read back from their literals

A value of plain data is written as a literal of the script language that is data text as well, and
reading that text gives the value back. Values that data texts do not have are written as strings
that describe them, and come back as these strings; from then on they stay what they are.

The literal is not the compact form in which data are printed elsewhere, it has blanks behind its
commas and colons. That is why it is related to the grammar of data texts (`Json.Written`) and not
to the printer. All of it is one induction over the value: its literal stands for data, and what
the data stand for is the value with its descriptions spelled out (`Value.BuiltFrom.standsFor`).
-/

namespace ScriptBridge

/-! ## Entries that are in order already -/

namespace Entries

variable {α β : Type} [LT α] [DecidableLT α] [KeyOrder α]

/-- A key beyond all others comes last. -/
theorem insert_of_lt {key : α} {value : β} {entries : List (α × β)}
    (h : ∀ e ∈ entries, e.1 < key) : insert key value entries = entries ++ [(key, value)] := by
  induction entries with
  | nil => rfl
  | cons head rest ih =>
    have hhead : head.1 < key := h head List.mem_cons_self
    rw [insert, if_neg (KeyOrder.not_lt_of_gt hhead), if_pos hhead,
      ih fun e he ↦ h e (List.mem_cons_of_mem head he), List.cons_append]

theorem foldl_insert_of_ordered (before entries : List (α × β)) (h : Ordered (before ++ entries)) :
    entries.foldl (fun acc entry ↦ insert entry.1 entry.2 acc) before = before ++ entries := by
  induction entries generalizing before with
  | nil => rw [List.append_nil, List.foldl_nil]
  | cons entry entries ih =>
    have hbefore : ∀ e ∈ before, e.1 < entry.1 :=
      fun e he ↦ (List.pairwise_append.mp h).2.2 e he entry List.mem_cons_self
    have hsplit : before ++ [entry] ++ entries = before ++ entry :: entries := by
      rw [List.append_assoc, List.singleton_append]
    rw [List.foldl_cons, insert_of_lt hbefore, ih (before ++ [entry]) (by rwa [hsplit]), hsplit]

/-- Entries in order are left as they are. -/
theorem ofList_of_ordered {entries : List (α × β)} (h : Ordered entries) :
    ofList entries = entries := foldl_insert_of_ordered [] entries h

end Entries

namespace Value

/-! ## Plain data -/

/-- The leaves that data texts have. -/
def IsPlain : Value → Prop
  | .null | .bool _ | .int _ | .string _ => True
  | _ => False

/-- The leaves that are written as a string. -/
def IsText : Value → Prop
  | .date _ | .bytes _ | .described _ => True
  | _ => False

/-- The leaves that data texts have a word for, if need be a description. -/
def IsSpellable (value : Value) : Prop := value.IsPlain ∨ value.IsText

/-- Arrays and objects of limited depth over leaves of some kind. Fields are in the order of their
keys, each of them once. -/
inductive BuiltFrom (leaf : Value → Prop) : Nat → Value → Prop where
  | leaf {depth : Nat} {value : Value} (h : leaf value) : BuiltFrom leaf depth value
  | array {depth : Nat} {items : List Value} (h : ∀ item ∈ items, BuiltFrom leaf depth item) :
    BuiltFrom leaf (depth + 1) (.array items)
  | object {depth : Nat} {fields : List (String × Value)} (hordered : Entries.Ordered fields)
    (h : ∀ field ∈ fields, BuiltFrom leaf depth field.2) :
    BuiltFrom leaf (depth + 1) (.object fields)

mutual

/-- The value with a string in each place where its literal has one. -/
def spelled : Value → Value
  | .date t => .string t.printMillis
  | .bytes octets => .string (Utf8.decodeLossy octets)
  | .described text => .string text
  | .array items => .array (itemsSpelled items)
  | .object fields => .object (fieldsSpelled fields)
  | value => value

/-- The items, each spelled. -/
def itemsSpelled : List Value → List Value
  | [] => []
  | item :: items => spelled item :: itemsSpelled items

/-- The fields, each spelled. -/
def fieldsSpelled : List (String × Value) → List (String × Value)
  | [] => []
  | (key, value) :: fields => (key, spelled value) :: fieldsSpelled fields

end

theorem itemsSpelled_eq_map (items : List Value) : itemsSpelled items = items.map spelled := by
  induction items with
  | nil => rfl
  | cons item items ih => rw [itemsSpelled, ih, List.map_cons]

theorem fieldsSpelled_eq_map (fields : List (String × Value)) :
    fieldsSpelled fields = fields.map fun field ↦ (field.1, spelled field.2) := by
  induction fields with
  | nil => rfl
  | cons field fields ih => rw [fieldsSpelled, ih, List.map_cons]

/-! ## Literals -/

/-- What is written for native objects, which plain data have none of. -/
def unreferred : Resolver Unit := fun ref ↦ pure (unresolved ref)

theorem itemLiterals_plain (items : List Value) :
    (itemLiterals .plain unreferred items ()).1 = items.map literal := by
  induction items with
  | nil => rfl
  | cons item items ih =>
    rw [List.map_cons, ← ih]
    rfl

/-- The literal of a field. -/
def fieldLiteral (field : String × Value) : String := quote field.1 ++ ": " ++ field.2.literal

theorem fieldLiterals_plain (fields : List (String × Value)) :
    (fieldLiterals .plain unreferred fields ()).1 = fields.map fieldLiteral := by
  induction fields with
  | nil => rfl
  | cons field fields ih =>
    rw [List.map_cons, ← ih]
    rfl

theorem literal_array (items : List Value) :
    (Value.array items).literal = "[" ++ ", ".intercalate (items.map literal) ++ "]" := by
  rw [← itemLiterals_plain]
  rfl

theorem literal_object (fields : List (String × Value)) :
    (Value.object fields).literal =
      "\x7b" ++ ", ".intercalate (fields.map fieldLiteral) ++ "\x7d" := by
  rw [← fieldLiterals_plain]
  rfl

/-! ## What literals stand for -/

open Json (Written)

/-- The literal of a value is data text, and stands for the value spelled out. -/
def StandsFor (depth : Nat) (value : Value) : Prop :=
  ∃ json, Written depth (.value json) value.literal.toList ∧ ofJson json = value.spelled

theorem standsFor_string {depth : Nat} {value : Value} {text : String}
    (hliteral : value.literal = quote text) (hspelled : value.spelled = .string text) :
    StandsFor depth value := by
  refine ⟨.string text, ?_, ?_⟩
  · rw [hliteral]
    exact .string text
  · rw [hspelled, ofJson]

theorem standsFor_int (depth : Nat) (n : Int64) : StandsFor depth (.int n) := by
  have hleast : leastWord ≤ n.toInt := Int64.le_toInt n
  have hgreatest : n.toInt ≤ greatestWord := Int.le_of_lt_add_one (Int64.toInt_lt n)
  have hword : Json.NumberText.IsWord n.toInt := by
    refine ⟨hleast, ?_⟩
    unfold greatestWord at hgreatest
    unfold Json.NumberText.greatestUnsigned
    omega
  have hfits : fitsWord n.toInt = true := by
    rw [fitsWord, decide_eq_true hleast, decide_eq_true hgreatest, Bool.and_self]
  exact ⟨.int n.toInt, .int hword, by rw [ofJson, if_pos hfits, Int64.ofInt_toInt]; rfl⟩

/-- A leaf is read back as it is spelled. -/
theorem standsFor_leaf {depth : Nat} {value : Value} (h : value.IsSpellable) :
    StandsFor depth value := by
  cases value with
  | null => exact ⟨.null, .null, by rw [ofJson]; rfl⟩
  | bool b =>
    refine ⟨.bool b, ?_, by rw [ofJson]; rfl⟩
    cases b with
    | true => exact .true
    | false => exact .false
  | int n => exact standsFor_int depth n
  | string text | date | bytes | described => exact standsFor_string rfl rfl
  | undefined | float | array | object | native | callback => exact (h.elim id id).elim

/-- The literals of items, separated and closed, stand for these items. -/
theorem written_items {depth : Nat} {items : List Value} (hne : items ≠ [])
    (h : ∀ item ∈ items, StandsFor depth item) :
    ∃ jsons, Written depth (.items jsons)
        ((", ".intercalate (items.map literal)).toList ++ [']']) ∧
      ofJsons jsons = itemsSpelled items := by
  induction items with
  | nil => exact absurd rfl hne
  | cons item items ih =>
    obtain ⟨json, hjson, hvalue⟩ := h item List.mem_cons_self
    cases items with
    | nil =>
      refine ⟨[json], ?_, by rw [ofJsons, ofJsons, hvalue]; rfl⟩
      exact .lastItem hjson
    | cons next more =>
      obtain ⟨jsons, hjsons, hvalues⟩ :=
        ih (List.cons_ne_nil next more) fun item hitem ↦ h item (List.mem_cons_of_mem _ hitem)
      refine ⟨json :: jsons, ?_, by rw [ofJsons, hvalue, hvalues]; rfl⟩
      have htext : (", ".intercalate ((item :: next :: more).map literal)).toList ++ [']'] =
          item.literal.toList ++
            ',' :: ' ' :: ((", ".intercalate ((next :: more).map literal)).toList ++ [']']) := by
        simp only [List.map_cons, String.intercalate_cons_cons, String.toList_append,
          List.append_assoc]
        rfl
      rw [htext]
      exact .item hjson (.blank rfl hjsons)

/-- The literals of fields, separated and closed, stand for these fields. -/
theorem written_fields {depth : Nat} {fields : List (String × Value)} (hne : fields ≠ [])
    (h : ∀ field ∈ fields, StandsFor depth field.2) :
    ∃ jsons, Written depth (.fields jsons)
        ((", ".intercalate (fields.map fieldLiteral)).toList ++ ['\x7d']) ∧
      jsons.map Prod.fst = fields.map Prod.fst ∧ ofJsonFields jsons = fieldsSpelled fields := by
  induction fields with
  | nil => exact absurd rfl hne
  | cons field fields ih =>
    obtain ⟨key, value⟩ := field
    obtain ⟨json, hjson, hvalue⟩ := h (key, value) List.mem_cons_self
    cases fields with
    | nil =>
      refine ⟨[(key, json)], ?_, rfl, by rw [ofJsonFields, ofJsonFields, hvalue]; rfl⟩
      have htext : (", ".intercalate ([(key, value)].map fieldLiteral)).toList ++ ['\x7d'] =
          (quote key).toList ++ ':' :: (' ' :: value.literal.toList ++ ['\x7d']) := by
        simp only [List.map_cons, List.map_nil, String.intercalate_singleton, fieldLiteral,
          String.toList_append, List.append_assoc]
        rfl
      rw [htext]
      exact .lastField key (.blank rfl hjson)
    | cons next more =>
      obtain ⟨jsons, hjsons, hkeys, hvalues⟩ :=
        ih (List.cons_ne_nil next more) fun field hfield ↦ h field (List.mem_cons_of_mem _ hfield)
      refine ⟨(key, json) :: jsons, ?_, by rw [List.map_cons, hkeys]; rfl,
        by rw [ofJsonFields, hvalue, hvalues]; rfl⟩
      have htext :
          (", ".intercalate (((key, value) :: next :: more).map fieldLiteral)).toList ++ ['\x7d'] =
          (quote key).toList ++ ':' :: (' ' :: value.literal.toList ++
            ',' :: ' ' ::
              ((", ".intercalate ((next :: more).map fieldLiteral)).toList ++ ['\x7d'])) := by
        simp only [List.map_cons, String.intercalate_cons_cons, fieldLiteral, String.toList_append,
          List.append_assoc, List.cons_append]
        rfl
      rw [htext]
      exact .field key (.blank rfl hjson) (.blank rfl hjsons)

/-- Order is a matter of the keys. -/
theorem ordered_iff_keys {β : Type} (entries : List (String × β)) :
    Entries.Ordered entries ↔ (entries.map Prod.fst).Pairwise (· < ·) := List.pairwise_map.symm

/-- **The literal of a built value stands for the value spelled out.** -/
theorem BuiltFrom.standsFor {depth : Nat} {value : Value}
    (h : value.BuiltFrom IsSpellable depth) :
    StandsFor depth value := by
  induction h with
  | leaf h => exact standsFor_leaf h
  | @array depth items _ ih =>
    cases items with
    | nil => exact ⟨.array [], .noItems, by rw [ofJson, ofJsons]; rfl⟩
    | cons item items =>
      obtain ⟨jsons, hjsons, hvalues⟩ := written_items (List.cons_ne_nil item items) ih
      refine ⟨.array jsons, ?_, by rw [ofJson, hvalues]; rfl⟩
      have htext : (Value.array (item :: items)).literal.toList =
          '[' :: ((", ".intercalate ((item :: items).map literal)).toList ++ [']']) := by
        rw [literal_array, String.toList_append, String.toList_append]
        rfl
      rw [htext]
      exact .array hjsons
  | @object depth fields hordered _ ih =>
    cases fields with
    | nil => exact ⟨.object [], .noFields, by rw [ofJson, ofJsonFields]; rfl⟩
    | cons field fields =>
      obtain ⟨jsons, hjsons, hkeys, hvalues⟩ := written_fields (List.cons_ne_nil field fields) ih
      have hsorted : Entries.Ordered jsons := by
        rw [ordered_iff_keys, hkeys, ← ordered_iff_keys]
        exact hordered
      have hkept : Json.ofFields jsons = .object jsons :=
        congrArg Json.object (Entries.ofList_of_ordered hsorted)
      refine ⟨Json.ofFields jsons, ?_, by rw [hkept, ofJson, hvalues]; rfl⟩
      have htext : (Value.object (field :: fields)).literal.toList =
          '\x7b' ::
            ((", ".intercalate ((field :: fields).map fieldLiteral)).toList ++ ['\x7d']) := by
        rw [literal_object, String.toList_append, String.toList_append]
        rfl
      rw [htext]
      exact .object hjsons

/-! ## Spelled values -/

/-- Spelling a value out does not change how it is written. -/
theorem BuiltFrom.literal_spelled {depth : Nat} {value : Value}
    (h : value.BuiltFrom IsSpellable depth) :
    value.spelled.literal = value.literal := by
  induction h with
  | @leaf depth value h =>
    cases value with
    | null | bool | int | string | date | bytes | described => rfl
    | undefined | float | array | object | native | callback => exact (h.elim id id).elim
  | @array depth items _ ih =>
    have hitems : (items.map spelled).map literal = items.map literal := by
      rw [List.map_map]
      exact List.map_congr_left ih
    rw [spelled, itemsSpelled_eq_map, literal_array, literal_array, hitems]
  | @object depth fields _ _ ih =>
    have hfields : (fields.map fun field ↦ (field.1, spelled field.2)).map fieldLiteral =
        fields.map fieldLiteral := by
      rw [List.map_map]
      refine List.map_congr_left fun field hfield ↦ ?_
      change quote field.1 ++ ": " ++ field.2.spelled.literal = fieldLiteral field
      rw [ih field hfield, fieldLiteral]
    rw [spelled, fieldsSpelled_eq_map, literal_object, literal_object, hfields]

/-- Plain data are spelled out as they are. -/
theorem BuiltFrom.spelled_eq {depth : Nat} {value : Value} (h : value.BuiltFrom IsPlain depth) :
    value.spelled = value := by
  induction h with
  | @leaf depth value h =>
    cases value with
    | null | bool | int | string => rfl
    | undefined | float | date | bytes | array | object | native | callback | described =>
      exact h.elim
  | @array depth items _ ih =>
    rw [spelled, itemsSpelled_eq_map, List.map_congr_left ih, List.map_id']
  | @object depth fields _ _ ih =>
    have hfields : ∀ field ∈ fields, (field.1, spelled field.2) = field :=
      fun field hfield ↦ by rw [ih field hfield]
    rw [spelled, fieldsSpelled_eq_map, List.map_congr_left hfields, List.map_id']

theorem BuiltFrom.mono {leaf leaf' : Value → Prop} (hle : ∀ value, leaf value → leaf' value)
    {depth : Nat} {value : Value} (h : value.BuiltFrom leaf depth) :
    value.BuiltFrom leaf' depth := by
  induction h with
  | leaf h => exact .leaf (hle _ h)
  | array _ ih => exact .array ih
  | object hordered _ ih => exact .object hordered ih

/-- A value that is spelled out is plain data. -/
theorem BuiltFrom.spelled {depth : Nat} {value : Value} (h : value.BuiltFrom IsSpellable depth) :
    value.spelled.BuiltFrom IsPlain depth := by
  induction h with
  | @leaf depth value h =>
    refine .leaf ?_
    cases value with
    | null | bool | int | string | date | bytes | described => trivial
    | undefined | float | array | object | native | callback => exact (h.elim id id).elim
  | @array depth items _ ih =>
    rw [Value.spelled, itemsSpelled_eq_map]
    exact .array (List.forall_mem_map.mpr ih)
  | @object depth fields hordered _ ih =>
    rw [Value.spelled, fieldsSpelled_eq_map]
    refine .object ?_ (List.forall_mem_map.mpr ih)
    rw [ordered_iff_keys, List.map_map]
    exact (ordered_iff_keys fields).mp hordered

/-! ## Reading back -/

/-- **A value is read back from its literal**, nested as deep as the reader goes, with strings for
what data texts have no words for. What is read is written as before, and plain data are read as
they were. -/
theorem reads_back {value : Value}
    (h : value.BuiltFrom IsSpellable Json.depthLimit) :
    ∃ json, Json.parse? value.literal = some json ∧ ofJson json = value.spelled ∧
      (ofJson json).literal = value.literal ∧
      (value.BuiltFrom IsPlain Json.depthLimit → ofJson json = value) := by
  obtain ⟨json, hwritten, hvalue⟩ := h.standsFor
  refine ⟨json, hwritten.parseWithin?, hvalue, ?_, fun hplain ↦ ?_⟩
  · rw [hvalue]
    exact h.literal_spelled
  · rw [hvalue]
    exact hplain.spelled_eq

/-- Data with all that needs care in a literal, and with values that only strings can describe. -/
def sample : Value :=
  .object [("", .array [.int Int64.minValue, .array [], .object [("\t", .null)], .bool false]),
    ("at", .date ⟨1000000000, 123456789⟩), ("octets", .bytes [0x41, 0xFF]),
    ("quote \" and \\", .string "\x01 \u2028 é"), ("what", .described "[native Clock]")]

/-- The sample as it is read back. -/
def sampleRead : Value :=
  .object [("", .array [.int Int64.minValue, .array [], .object [("\t", .null)], .bool false]),
    ("at", .string "2001-09-09T01:46:40.123Z"), ("octets", .string "A\uFFFD"),
    ("quote \" and \\", .string "\x01 \u2028 é"), ("what", .string "[native Clock]")]

theorem builtFrom_sample : sample.BuiltFrom IsSpellable Json.depthLimit := by
  refine .object ((ordered_iff_keys _).mpr (by decide)) ?_
  simp only [List.forall_mem_cons]
  refine ⟨.array ?_, .leaf (.inr trivial), .leaf (.inr trivial), .leaf (.inl trivial),
    .leaf (.inr trivial), List.forall_mem_nil _⟩
  simp only [List.forall_mem_cons]
  exact ⟨.leaf (.inl trivial), .array (List.forall_mem_nil _),
    .object ((ordered_iff_keys _).mpr (by decide))
      (List.forall_mem_singleton.mpr (.leaf (.inl trivial))),
    .leaf (.inl trivial), List.forall_mem_nil _⟩

theorem spelled_sample : sample.spelled = sampleRead := by rfl

/-- The sample is read back, and what was read is plain data and is read back as it is. -/
theorem reads_back_sample :
    sample.BuiltFrom IsSpellable Json.depthLimit ∧
      sampleRead.BuiltFrom IsPlain Json.depthLimit ∧
      (∃ json, Json.parse? sample.literal = some json ∧ ofJson json = sampleRead ∧
        (ofJson json).literal = sample.literal) ∧
      ∃ json, Json.parse? sampleRead.literal = some json ∧ ofJson json = sampleRead := by
  have hplain : sampleRead.BuiltFrom IsPlain Json.depthLimit := by
    rw [← spelled_sample]
    exact builtFrom_sample.spelled
  obtain ⟨json, hparse, hvalue, hliteral, -⟩ := reads_back builtFrom_sample
  obtain ⟨again, hagain, -, -, hsame⟩ := reads_back (hplain.mono fun _ ↦ .inl)
  rw [spelled_sample] at hvalue
  exact ⟨builtFrom_sample, hplain, ⟨json, hparse, hvalue, hliteral⟩, again, hagain, hsame hplain⟩

end Value

end ScriptBridge
