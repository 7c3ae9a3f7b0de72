import ScriptBridge.Proofs.Settings.Records

/-!
# Settings as they are given

What settings an object gives: for each key the value that stands there, and the default where the
key does not. Settings are read so, in whatever order the keys stand and whatever else does, and
what settings print as is one such object. A key of theirs that stands twice is not put up with.
-/

namespace ScriptBridge

open Json Settings
open Json.NumberText (greatestUnsigned)
open Json.Reader (dropBlanks dropBlanks_blank_append)

/-! ## The values of settings -/

/-- A text between its marks, however its characters are spelled. -/
inductive WritesText : List Char → String → Prop where
  | mk {lead body : List Char} {s : String} (hlead : Blank lead)
    (hbody : Quoted.Spells body s.toList) : WritesText (lead ++ '"' :: (body ++ ['"'])) s

inductive WritesFlag : List Char → Bool → Prop where
  | mk {lead : List Char} {flag : Bool} (hlead : Blank lead) :
    WritesFlag (lead ++ (if flag then "true" else "false").toList) flag

/-- A limit is null or a number that fits a word. -/
inductive WritesLimit : List Char → Option Nat → Prop where
  | mk {lead : List Char} {limit : Option Nat} (hlead : Blank lead)
    (hlimit : ∀ n ∈ limit, n ≤ greatestUnsigned) :
    WritesLimit (lead ++ (printLimit limit).toList) limit

/-- The object gives these limits, and they are without limit where it does not say. -/
structure EngineLimits.GivenBy (limits : EngineLimits) (object : ObjectText) : Prop where
  memory : Gives object settingKeys.memory WritesLimit none limits.memory
  stack : Gives object settingKeys.stack WritesLimit none limits.stack

inductive WritesLimits : List Char → EngineLimits → Prop where
  | mk {lead : List Char} {object : ObjectText} {limits : EngineLimits} (hlead : Blank lead)
    (h : limits.GivenBy object) : WritesLimits (lead ++ object.text) limits

/-- The object gives these settings, and the defaults where it does not say. -/
structure Settings.GivenBy (settings : Settings) (object : ObjectText) : Prop where
  logLevel : Gives object settingKeys.logLevel WritesText "info" settings.logLevel
  urlPrefix : Gives object settingKeys.urlPrefix WritesText defaultUrlPrefix settings.urlPrefix
  traceMessages : Gives object settingKeys.traceMessages WritesFlag false settings.traceMessages
  engine : Gives object settingKeys.engine WritesLimits {} settings.engine

/-! ## Values are read -/

variable {text : List Char}

theorem WritesText.text? {s : String} (h : WritesText text s) : text? text = some (s, []) := by
  obtain ⟨hlead, hbody⟩ := h
  rw [← text?_dropBlanks, dropBlanks_blank_append hlead, text?_dropBlanks]
  change (Quoted.decode? (_ ++ ['"'])).map _ = _
  rw [hbody.decode?_append, Option.map_some]
  simp only [String.ofList_toList]

theorem WritesFlag.flag? {flag : Bool} (h : WritesFlag text flag) :
    flag? text = some (flag, []) := by
  obtain ⟨hlead⟩ := h
  rw [← flag?_dropBlanks, dropBlanks_blank_append hlead, flag?_dropBlanks]
  cases flag <;> rfl

theorem limit?_toString {n : Nat} (hn : n ≤ greatestUnsigned) :
    limit? (toString n).toList = some (some n, []) := by
  have hscan := NumberText.scan?_toString n NumberText.ends_nil
  obtain ⟨c, digits, hdigits, hc⟩ := NumberText.head_toString n
  rw [List.append_nil, hdigits] at hscan
  change limit? (toString (n : Int)).toList = _
  rw [hdigits, limit?_numeric hc, hscan]
  have hplain : plainNatural? (NumberText.ofInt n) = some n := by
    have hwhole : NumberText.ofDigits (NumberText.ofInt n).whole = n :=
      NumberText.ofDigits_digitValues n
    have hsign : ¬ ((NumberText.ofInt n).negative ∨ (NumberText.ofInt n).fraction.isSome ∨
        (NumberText.ofInt n).exponent.isSome) := by
      simp [NumberText.ofInt]
    simp only [plainNatural?, hwhole, if_neg hsign, if_pos hn]
  simp only [Option.bind_eq_bind, Option.bind_some, hplain, Option.pure_def]

theorem WritesLimit.limit? {limit : Option Nat} (h : WritesLimit text limit) :
    limit? text = some (limit, []) := by
  obtain ⟨hlead, hlimit⟩ := h
  rw [← limit?_dropBlanks, dropBlanks_blank_append hlead, limit?_dropBlanks]
  cases limit with
  | none => rfl
  | some n => exact limit?_toString (hlimit n rfl)

/-! ## The parts of a record -/

section

variable {α β γ : Type} {key : String} {read? : List Char → Option (β × List Char)} {part : α → β}

/-- The part is what is read and put into the record. -/
theorem bears_here {set : α → β × List Char → α × List Char}
    (h : ∀ record read, part (set record read).1 = read.1) :
    Bears key read? part (key, fun record text ↦ (read? text).map (set record)) := by
  refine .here fun record text ↦ ?_
  rw [Option.map_map]
  exact congrArg ((read? text).map ·) (funext (h record))

/-- Putting something else into the record does not change the part. -/
theorem bears_elsewhere {other : String} (hkey : other ≠ key)
    {readOther? : List Char → Option (γ × List Char)} {set : α → γ × List Char → α × List Char}
    (h : ∀ record read, part (set record read).1 = part record) :
    Bears key read? part (other, fun record text ↦ (readOther? text).map (set record)) := by
  refine .elsewhere hkey fun record text read hread ↦ ?_
  obtain ⟨read, -, rfl⟩ := Option.map_eq_some_iff.mp hread
  exact h record read

end

theorem exact_engineFields :
    ∀ field ∈ engineFields, ∀ limits, Exact (field.2 limits) := by
  simp only [engineFields, List.forall_mem_cons]
  exact ⟨fun limits ↦ exact_limit?.map fun memory ↦ { limits with memory },
    fun limits ↦ exact_limit?.map fun stack ↦ { limits with stack }, List.forall_mem_nil _⟩

theorem exact_fields : ∀ field ∈ fields, ∀ settings, Exact (field.2 settings) := by
  simp only [fields, List.forall_mem_cons]
  exact ⟨fun settings ↦ exact_text?.map fun logLevel ↦ { settings with logLevel },
    fun settings ↦ exact_text?.map fun urlPrefix ↦ { settings with urlPrefix },
    fun settings ↦ exact_flag?.map fun traceMessages ↦ { settings with traceMessages },
    fun settings ↦ (exact_record? exact_engineFields {}).map
      fun engine ↦ { settings with engine }, List.forall_mem_nil _⟩

theorem governs_memory :
    Governs engineFields settingKeys.memory limit? EngineLimits.memory := by
  refine ⟨by decide, ?_⟩
  simp only [engineFields, List.forall_mem_cons]
  exact ⟨bears_here fun _ _ ↦ rfl,
    bears_elsewhere (by decide) fun _ _ ↦ rfl, List.forall_mem_nil _⟩

theorem governs_stack :
    Governs engineFields settingKeys.stack limit? EngineLimits.stack := by
  refine ⟨by decide, ?_⟩
  simp only [engineFields, List.forall_mem_cons]
  exact ⟨bears_elsewhere (by decide) fun _ _ ↦ rfl,
    bears_here fun _ _ ↦ rfl, List.forall_mem_nil _⟩

theorem governs_logLevel : Governs fields settingKeys.logLevel text? Settings.logLevel := by
  refine ⟨by decide, ?_⟩
  simp only [fields, List.forall_mem_cons]
  exact ⟨bears_here fun _ _ ↦ rfl,
    bears_elsewhere (by decide) fun _ _ ↦ rfl,
    bears_elsewhere (by decide) fun _ _ ↦ rfl,
    bears_elsewhere (by decide) fun _ _ ↦ rfl, List.forall_mem_nil _⟩

theorem governs_urlPrefix : Governs fields settingKeys.urlPrefix text? Settings.urlPrefix := by
  refine ⟨by decide, ?_⟩
  simp only [fields, List.forall_mem_cons]
  exact ⟨bears_elsewhere (by decide) fun _ _ ↦ rfl,
    bears_here fun _ _ ↦ rfl,
    bears_elsewhere (by decide) fun _ _ ↦ rfl,
    bears_elsewhere (by decide) fun _ _ ↦ rfl, List.forall_mem_nil _⟩

theorem governs_traceMessages :
    Governs fields settingKeys.traceMessages flag? Settings.traceMessages := by
  refine ⟨by decide, ?_⟩
  simp only [fields, List.forall_mem_cons]
  exact ⟨bears_elsewhere (by decide) fun _ _ ↦ rfl,
    bears_elsewhere (by decide) fun _ _ ↦ rfl,
    bears_here fun _ _ ↦ rfl,
    bears_elsewhere (by decide) fun _ _ ↦ rfl, List.forall_mem_nil _⟩

theorem governs_engine :
    Governs fields settingKeys.engine (record? engineFields {}) Settings.engine := by
  refine ⟨by decide, ?_⟩
  simp only [fields, List.forall_mem_cons]
  exact ⟨bears_elsewhere (by decide) fun _ _ ↦ rfl,
    bears_elsewhere (by decide) fun _ _ ↦ rfl,
    bears_elsewhere (by decide) fun _ _ ↦ rfl,
    bears_here fun _ _ ↦ rfl, List.forall_mem_nil _⟩

/-! ## Records are read -/

theorem EngineLimits.GivenBy.given? {limits : EngineLimits} {object : ObjectText}
    (h : limits.GivenBy object) : given? engineFields {} object = some limits := by
  have hreads : ∀ text limit, WritesLimit text limit →
      ∃ rest, Settings.limit? text = some (limit, rest) := fun _ _ hwrites ↦ ⟨_, hwrites.limit?⟩
  have hkeys : engineFields.map Prod.fst = [settingKeys.memory, settingKeys.stack] := rfl
  have hreadable : ∀ key ∈ engineFields.map Prod.fst,
      Readable engineFields object.members key := by
    simp only [hkeys, List.forall_mem_cons]
    exact ⟨governs_memory.readable h.memory hreads, governs_stack.readable h.stack hreads,
      List.forall_mem_nil _⟩
  obtain ⟨read, hread⟩ := given?_isSome hreadable {}
  have hmemory := governs_memory.part_eq h.memory hreads rfl hread
  have hstack := governs_stack.part_eq h.stack hreads rfl hread
  obtain ⟨memory, stack⟩ := read
  obtain rfl : memory = limits.memory := hmemory
  obtain rfl : stack = limits.stack := hstack
  exact hread

theorem WritesLimits.record? {limits : EngineLimits} (h : WritesLimits text limits) :
    record? engineFields {} text = some (limits, []) := by
  obtain ⟨hlead, h⟩ := h
  rename_i lead object
  have hobject := record?_object exact_engineFields {} object []
  rw [List.append_nil, h.given?, Option.map_some] at hobject
  rw [← record?_dropBlanks, dropBlanks_blank_append hlead, record?_dropBlanks, hobject]

theorem Settings.GivenBy.given? {settings : Settings} {object : ObjectText}
    (h : settings.GivenBy object) : given? fields {} object = some settings := by
  have htexts : ∀ text s, WritesText text s → ∃ rest, Settings.text? text = some (s, rest) :=
    fun _ _ hwrites ↦ ⟨_, hwrites.text?⟩
  have hflags : ∀ text flag, WritesFlag text flag →
      ∃ rest, Settings.flag? text = some (flag, rest) := fun _ _ hwrites ↦ ⟨_, hwrites.flag?⟩
  have hlimits : ∀ text limits, WritesLimits text limits →
      ∃ rest, Settings.record? engineFields {} text = some (limits, rest) :=
    fun _ _ hwrites ↦ ⟨_, hwrites.record?⟩
  have hkeys : fields.map Prod.fst = [settingKeys.logLevel, settingKeys.urlPrefix,
    settingKeys.traceMessages, settingKeys.engine] := rfl
  have hreadable : ∀ key ∈ fields.map Prod.fst, Readable fields object.members key := by
    simp only [hkeys, List.forall_mem_cons]
    exact ⟨governs_logLevel.readable h.logLevel htexts,
      governs_urlPrefix.readable h.urlPrefix htexts,
      governs_traceMessages.readable h.traceMessages hflags,
      governs_engine.readable h.engine hlimits, List.forall_mem_nil _⟩
  obtain ⟨read, hread⟩ := given?_isSome hreadable {}
  have hlogLevel := governs_logLevel.part_eq h.logLevel htexts rfl hread
  have hurlPrefix := governs_urlPrefix.part_eq h.urlPrefix htexts rfl hread
  have htraceMessages := governs_traceMessages.part_eq h.traceMessages hflags rfl hread
  have hengine := governs_engine.part_eq h.engine hlimits rfl hread
  obtain ⟨logLevel, urlPrefix, traceMessages, engine⟩ := read
  obtain rfl : logLevel = settings.logLevel := hlogLevel
  obtain rfl : urlPrefix = settings.urlPrefix := hurlPrefix
  obtain rfl : traceMessages = settings.traceMessages := htraceMessages
  obtain rfl : engine = settings.engine := hengine
  exact hread

/-- A whole text of settings, with blanks around the object. -/
theorem parse?_object (object : ObjectText) {lead trail : List Char} (hlead : Blank lead)
    (htrail : Blank trail) :
    Settings.parse? (String.ofList (lead ++ (object.text ++ trail))) = given? fields {} object := by
  have htail : dropBlanks trail = [] := by
    rw [← List.append_nil trail, dropBlanks_blank_append htrail]
    rfl
  rw [Settings.parse?, String.toList_ofList, ← record?_dropBlanks, dropBlanks_blank_append hlead,
    record?_dropBlanks, record?_object exact_fields]
  cases given? fields {} object with
  | none => rfl
  | some settings =>
    simp only [Option.map_some, Option.bind_eq_bind, Option.bind_some, htail, Option.pure_def]

theorem Settings.GivenBy.parse? {settings : Settings} {object : ObjectText}
    (h : settings.GivenBy object) {lead trail : List Char} (hlead : Blank lead)
    (htrail : Blank trail) :
    Settings.parse? (String.ofList (lead ++ (object.text ++ trail))) = some settings := by
  rw [parse?_object object hlead htrail, h.given?]

end ScriptBridge
