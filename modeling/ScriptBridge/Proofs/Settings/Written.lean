import ScriptBridge.Proofs.Settings.Given

/-!
# Settings as they are written

What settings print as is an object that gives them, so they come back. Any other object that holds
what settings may be gives settings too, and one with a key of theirs twice does not.
-/

namespace ScriptBridge

open Json Settings
open Json.NumberText (greatestUnsigned)
open Json.Reader (dropBlanks_blank_append)

section

variable {β : Type} {object : ObjectText} {key : String} {Writes : List Char → β → Prop}
  {default value : β}

/-- Where no key stands twice, an object gives what is written for each key. -/
theorem gives_of_nodup (hkeys : object.keys.Nodup) {member : MemberText}
    (hmember : member ∈ object.members) (hkey : member.key = key)
    (hwrites : Writes member.value value) : Gives object key Writes default value where
  once := List.nodup_iff_count_le_one.mp hkeys key
  here other hother hother' := by
    rw [List.inj_on_of_nodup_map hkeys hother hmember (hother'.trans hkey.symm)]
    exact hwrites
  omitted hnone := absurd (hkey ▸ List.mem_map_of_mem hmember) hnone

theorem gives_of_plain (hkeys : object.keys.Nodup) {text : List Char} {isText : IsText text}
    (hmember : .plain key text isText ∈ object.members) (hwrites : Writes text value) :
    Gives object key Writes default value :=
  gives_of_nodup hkeys hmember rfl hwrites

theorem gives_of_not_mem (hkey : key ∉ object.keys) : Gives object key Writes default default where
  once := (List.count_eq_zero_of_not_mem hkey).trans_le (Nat.zero_le 1)
  here _ hmember hmemberKey := absurd (hmemberKey ▸ List.mem_map_of_mem hmember) hkey
  omitted _ := rfl

end

/-! ## What settings print as -/

theorem isText_quote (s : String) : IsText (quote s).toList := by
  rw [quote, String.toList_ofList]
  exact .string (Quoted.spells_encode s.toList).isBody

theorem isText_flag (flag : Bool) : IsText (if flag then "true" else "false").toList := by
  cases flag
  · exact .false
  · exact .true

theorem isText_printLimit (limit : Option Nat) : IsText (printLimit limit).toList := by
  cases limit with
  | none => exact .null
  | some n =>
    have hdigits : (printLimit (some n)).toList = Nat.toDigits 10 n := by
      rw [printLimit, Nat.toString_eq_repr, Nat.repr_eq_ofList_toDigits, String.toList_ofList]
    rw [hdigits, ← List.append_nil (Nat.toDigits 10 n)]
    exact .number (NumberText.isNumeral_toDigits n) NumberText.ends_nil

/-- The object that limits print as. -/
def EngineLimits.object (limits : EngineLimits) : ObjectText where
  members := [.plain settingKeys.memory _ (isText_printLimit limits.memory),
    .plain settingKeys.stack _ (isText_printLimit limits.stack)]
  blank_inside := Blank.nil

theorem text_plain (key : String) (value : List Char) (isText : IsText value) :
    (MemberText.plain key value isText).text = (quote key).toList ++ ':' :: value := by
  simp only [MemberText.plain, MemberText.text, quote, String.toList_ofList, List.nil_append,
    List.append_nil, List.cons_append, List.append_assoc]

theorem toList_marks : "\x7b".toList = ['\x7b'] ∧ "\x7d".toList = ['\x7d'] ∧
    ",".toList = [','] ∧ ":".toList = [':'] := ⟨rfl, rfl, rfl, rfl⟩

theorem EngineLimits.text_object (limits : EngineLimits) :
    limits.object.text = limits.print.toList := by
  rw [← List.append_nil limits.object.text, ObjectText.text_append_of_cons _ rfl]
  simp only [MemberText.texts, text_plain, print, String.toList_append, toList_marks,
    List.cons_append, List.append_assoc, List.nil_append, List.append_nil]

/-- The object that settings print as. -/
def Settings.object (settings : Settings) : ObjectText where
  members := [.plain settingKeys.logLevel _ (isText_quote settings.logLevel),
    .plain settingKeys.urlPrefix _ (isText_quote settings.urlPrefix),
    .plain settingKeys.traceMessages _ (isText_flag settings.traceMessages),
    .plain settingKeys.engine _ settings.engine.object.isText]
  blank_inside := Blank.nil

theorem Settings.text_object (settings : Settings) :
    settings.object.text = settings.print.toList := by
  rw [← List.append_nil settings.object.text, ObjectText.text_append_of_cons _ rfl]
  -- by `delta`, since the defining equation takes too long to be made
  delta print
  simp only [MemberText.texts, text_plain, settings.engine.text_object, String.toList_append,
    toList_marks, List.cons_append, List.append_assoc, List.nil_append, List.append_nil]

/-- Limits that fit their words. -/
def EngineLimits.Fit (limits : EngineLimits) : Prop :=
  (∀ n ∈ limits.memory, n ≤ greatestUnsigned) ∧ ∀ n ∈ limits.stack, n ≤ greatestUnsigned

theorem EngineLimits.givenBy_object {limits : EngineLimits} (h : limits.Fit) :
    limits.GivenBy limits.object := by
  have hkeys : limits.object.keys.Nodup := by
    change [settingKeys.memory, settingKeys.stack].Nodup
    decide
  exact ⟨gives_of_plain hkeys (.head _) (.mk Blank.nil h.1),
    gives_of_plain hkeys (.tail _ (.head _)) (.mk Blank.nil h.2)⟩

theorem WritesText.quote (s : String) : WritesText (quote s).toList s := by
  rw [ScriptBridge.quote, String.toList_ofList]
  exact .mk Blank.nil (Quoted.spells_encode s.toList)

theorem Settings.givenBy_object {settings : Settings} (h : settings.engine.Fit) :
    settings.GivenBy settings.object := by
  have hkeys : settings.object.keys.Nodup := by
    change [settingKeys.logLevel, settingKeys.urlPrefix, settingKeys.traceMessages,
      settingKeys.engine].Nodup
    decide
  have hlogLevel := WritesText.quote settings.logLevel
  have hurlPrefix := WritesText.quote settings.urlPrefix
  have htraceMessages := @WritesFlag.mk [] settings.traceMessages Blank.nil
  have hengine := WritesLimits.mk Blank.nil (EngineLimits.givenBy_object h)
  exact ⟨gives_of_plain hkeys (.head _) hlogLevel,
    gives_of_plain hkeys (.tail _ (.head _)) hurlPrefix,
    gives_of_plain hkeys (.tail _ (.tail _ (.head _))) htraceMessages,
    gives_of_plain hkeys (.tail _ (.tail _ (.tail _ (.head _)))) hengine⟩

/-! ## Objects that give settings -/

/-- The key stands at most once, and what stands for it is a value of its kind. -/
structure Admits (object : ObjectText) (key : String) (IsValue : List Char → Prop) : Prop where
  once : object.keys.count key ≤ 1
  here : ∀ member ∈ object.members, member.key = key → IsValue member.value

/-- An object of limits, among whatever else. -/
structure IsLimitsObject (object : ObjectText) : Prop where
  memory : Admits object settingKeys.memory fun text ↦ ∃ limit, WritesLimit text limit
  stack : Admits object settingKeys.stack fun text ↦ ∃ limit, WritesLimit text limit

/-- An object of settings, among whatever else. -/
structure IsSettingsObject (object : ObjectText) : Prop where
  logLevel : Admits object settingKeys.logLevel fun text ↦ ∃ s, WritesText text s
  urlPrefix : Admits object settingKeys.urlPrefix fun text ↦ ∃ s, WritesText text s
  traceMessages : Admits object settingKeys.traceMessages fun text ↦ ∃ flag, WritesFlag text flag
  engine : Admits object settingKeys.engine fun text ↦ ∃ (lead : List Char) (inner : ObjectText),
    Blank lead ∧ text = lead ++ inner.text ∧ IsLimitsObject inner

/-- A key that stands at most once stands in one member. -/
theorem eq_of_count_le_one {members : List MemberText} {key : String}
    (hcount : (members.map (·.key)).count key ≤ 1) {member member' : MemberText}
    (hmember : member ∈ members) (hkey : member.key = key) (hmember' : member' ∈ members)
    (hkey' : member'.key = key) : member' = member := by
  -- whatever stands on either side of the one member, it has other keys
  have hnone : ∀ others : List MemberText, (others.map (·.key)).count key = 0 →
      member' ∉ others := by
    intro others hzero hother
    have hmem := List.mem_map_of_mem (f := MemberText.key) hother
    rw [hkey'] at hmem
    exact List.count_eq_zero.mp hzero hmem
  obtain ⟨before, after, rfl⟩ := List.append_of_mem hmember
  rw [List.map_append, List.map_cons, List.count_append, hkey, List.count_cons_self] at hcount
  rcases List.mem_append.mp hmember' with hbefore | hafter
  · exact absurd hbefore (hnone before (by omega))
  · rcases List.mem_cons.mp hafter with rfl | hafter
    · rfl
    · exact absurd hafter (hnone after (by omega))

theorem Admits.exists_gives {β : Type} {object : ObjectText} {key : String}
    {IsValue : List Char → Prop} {Writes : List Char → β → Prop} (h : Admits object key IsValue)
    (hvalue : ∀ text, IsValue text → ∃ value, Writes text value) (default : β) :
    ∃ value, Gives object key Writes default value := by
  by_cases hkey : key ∈ object.keys
  · obtain ⟨member, hmember, hmemberKey⟩ := List.mem_map.mp hkey
    obtain ⟨value, hwrites⟩ := hvalue _ (h.here member hmember hmemberKey)
    refine ⟨value, h.once, fun other hother hotherKey ↦ ?_, fun hnone ↦ absurd hkey hnone⟩
    rwa [eq_of_count_le_one h.once hmember hmemberKey hother hotherKey]
  · exact ⟨default, gives_of_not_mem hkey⟩

theorem Settings.Gives.admits {β : Type} {object : ObjectText} {key : String}
    {Writes : List Char → β → Prop} {default value : β}
    (h : Gives object key Writes default value) :
    Admits object key fun text ↦ ∃ value, Writes text value where
  once := h.once
  here member hmember hkey := ⟨value, h.here member hmember hkey⟩

/-- The objects that give limits. -/
theorem isLimitsObject_iff {object : ObjectText} :
    IsLimitsObject object ↔ ∃ limits : EngineLimits, limits.GivenBy object := by
  constructor
  · intro h
    obtain ⟨memory, hmemory⟩ := h.memory.exists_gives (fun _ hvalue ↦ hvalue) none
    obtain ⟨stack, hstack⟩ := h.stack.exists_gives (fun _ hvalue ↦ hvalue) none
    exact ⟨⟨memory, stack⟩, hmemory, hstack⟩
  · rintro ⟨limits, h⟩
    exact ⟨h.memory.admits, h.stack.admits⟩

theorem exists_writesLimits_iff {text : List Char} :
    (∃ limits, WritesLimits text limits) ↔ ∃ (lead : List Char) (inner : ObjectText),
      Blank lead ∧ text = lead ++ inner.text ∧ IsLimitsObject inner := by
  constructor
  · rintro ⟨limits, hlead, h⟩
    exact ⟨_, _, hlead, rfl, isLimitsObject_iff.mpr ⟨limits, h⟩⟩
  · rintro ⟨lead, inner, hlead, rfl, h⟩
    obtain ⟨limits, h⟩ := isLimitsObject_iff.mp h
    exact ⟨limits, .mk hlead h⟩

/-- The objects that give settings. -/
theorem isSettingsObject_iff {object : ObjectText} :
    IsSettingsObject object ↔ ∃ settings : Settings, settings.GivenBy object := by
  constructor
  · intro h
    obtain ⟨logLevel, hlogLevel⟩ := h.logLevel.exists_gives (fun _ hvalue ↦ hvalue) "info"
    obtain ⟨urlPrefix, hurlPrefix⟩ :=
      h.urlPrefix.exists_gives (fun _ hvalue ↦ hvalue) defaultUrlPrefix
    obtain ⟨traceMessages, htraceMessages⟩ :=
      h.traceMessages.exists_gives (fun _ hvalue ↦ hvalue) false
    obtain ⟨engine, hengine⟩ :=
      h.engine.exists_gives (fun _ hvalue ↦ exists_writesLimits_iff.mpr hvalue) {}
    exact ⟨⟨logLevel, urlPrefix, traceMessages, engine⟩, hlogLevel, hurlPrefix, htraceMessages,
      hengine⟩
  · rintro ⟨settings, h⟩
    exact ⟨h.logLevel.admits, h.urlPrefix.admits, h.traceMessages.admits, h.engine.once,
      fun member hmember hkey ↦ exists_writesLimits_iff.mp ⟨_, h.engine.here member hmember hkey⟩⟩

/-- A key of settings stands twice, or a key of limits does in an object of theirs. -/
inductive Twice (object : ObjectText) : Prop where
  | setting {key : String} (hkey : key ∈ [settingKeys.logLevel, settingKeys.urlPrefix,
      settingKeys.traceMessages, settingKeys.engine]) (hcount : 1 < object.keys.count key)
  | limit {member : MemberText} {lead : List Char} {inner : ObjectText} {key : String}
    (hmember : member ∈ object.members) (hengine : member.key = settingKeys.engine)
    (hlead : Blank lead) (hvalue : member.value = lead ++ inner.text)
    (hkey : key ∈ [settingKeys.memory, settingKeys.stack]) (hcount : 1 < inner.keys.count key)

theorem Twice.given? {object : ObjectText} (h : Twice object) :
    Settings.given? fields {} object = none := by
  cases h with
  | setting hkey hcount =>
    have hkeys : fields.map Prod.fst = [settingKeys.logLevel, settingKeys.urlPrefix,
      settingKeys.traceMessages, settingKeys.engine] := rfl
    exact given?_eq_none_of_count (hkeys ▸ hkey) hcount {}
  | @limit member lead inner key hmember hengine hlead hvalue hkey hcount =>
    have hinner : record? engineFields {} member.value = none := by
      have hkeys : engineFields.map Prod.fst = [settingKeys.memory, settingKeys.stack] := rfl
      have hobject := record?_object exact_engineFields {} inner []
      have hnone := given?_eq_none_of_count (hkeys ▸ hkey) hcount {}
      rw [hnone, List.append_nil, Option.map_none] at hobject
      rw [hvalue, ← record?_dropBlanks, dropBlanks_blank_append hlead, record?_dropBlanks, hobject]
    -- no field of the key reads what no record of limits can be read from
    refine given?_eq_none_of_mem hmember (hengine ▸ governs_engine.known) ?_ {}
    intro field hfield hkey settings
    cases governs_engine.bears field hfield with
    | @here field hpart =>
      have hnone := hpart settings member.value
      rw [hinner, Option.map_none, Option.map_eq_none_iff] at hnone
      exact hnone
    | elsewhere hne => exact absurd (hkey.trans hengine) hne

/-- **Settings are what is written for them.** They come back from what they print as. An object
gives exactly what stands in it, with the defaults for what does not, wherever it stands and
whatever else does; and it gives nothing at all if a key of theirs stands twice. -/
theorem settings_as_written :
    (∀ settings : Settings, settings.engine.Fit →
      Settings.parse? settings.print = some settings) ∧
    ∀ (object : ObjectText) (lead trail : List Char), Blank lead → Blank trail →
      let text := String.ofList (lead ++ (object.text ++ trail))
      (IsSettingsObject object →
        ∃ settings : Settings, settings.GivenBy object ∧ Settings.parse? text = some settings) ∧
      (∀ settings : Settings, settings.GivenBy object → Settings.parse? text = some settings) ∧
      (Twice object → Settings.parse? text = none) := by
  refine ⟨fun settings hfit ↦ ?_, fun object lead trail hlead htrail ↦ ⟨fun h ↦ ?_, ?_, ?_⟩⟩
  · have hprint := (Settings.givenBy_object hfit).parse? Blank.nil Blank.nil
    rwa [List.nil_append, List.append_nil, settings.text_object, String.ofList_toList] at hprint
  · obtain ⟨settings, hsettings⟩ := isSettingsObject_iff.mp h
    exact ⟨settings, hsettings, hsettings.parse? hlead htrail⟩
  · exact fun settings hsettings ↦ hsettings.parse? hlead htrail
  · intro h
    rw [parse?_object object hlead htrail, h.given?]

namespace Sample

/-- One limit, and something unknown that is not even text. -/
def limits : ObjectText where
  members := [.plain "x" ('"' :: ("\\ud800".toList ++ ['"']))
      (.string (.code (n := 0xD800) (by decide) .nil)),
    .plain settingKeys.stack _ (isText_printLimit (some 65536))]
  blank_inside := Blank.nil

theorem spells_key : Quoted.Spells ('\\' :: 'u' :: '0' :: '0' :: '6' :: 'c' ::
    Quoted.encode "og_level".toList) settingKeys.logLevel.toList :=
  .code (n := 0x6C) (by decide) (by decide) (by decide) (Quoted.spells_encode _)

theorem spells_level : Quoted.Spells ['a', '\\', 'u', '0', '0', 'e', '9'] "aé".toList :=
  .plain (by decide) (by decide) (by decide)
    (.code (n := 0xE9) (by decide) (by decide) (by decide) .nil)

/-- The level with escapes in it, on a line of its own. -/
def level : MemberText where
  key := settingKeys.logLevel
  spelled := _
  spells := spells_key
  value := '"' :: (['a', '\\', 'u', '0', '0', 'e', '9'] ++ ['"'])
  isText := .string spells_level.isBody
  before := ['\n']
  blank_before := .single rfl
  blank_between := Blank.nil
  blank_after := Blank.nil

/-- The limits stand twice, but once where they are not looked for. -/
def object : ObjectText where
  members := [.plain "later" ('[' :: (limits.text ++ [']']))
      (.array (.lastItem (limits.begins _) rfl)),
    .plain settingKeys.engine (' ' :: limits.text) (.blank rfl limits.isText), level]
  blank_inside := Blank.nil

/-- What the object gives: two settings are not there. -/
def settings : Settings where
  logLevel := "aé"
  engine := { stack := some 65536 }

/-- One key of the limits, twice. -/
def bounds : ObjectText where
  members := [.plain settingKeys.stack _ (isText_printLimit (some 65536)),
    .plain settingKeys.stack _ (isText_printLimit none)]
  blank_inside := Blank.nil

/-- A key of the settings twice. -/
def levels : ObjectText where
  members := [level, level]
  blank_inside := Blank.nil

/-- A key of the limits twice. -/
def engines : ObjectText where
  members := [.plain settingKeys.engine _ bounds.isText]
  blank_inside := Blank.nil

theorem limits_givenBy : settings.engine.GivenBy limits := by
  have hlimit : WritesLimit (printLimit (some 65536)).toList (some 65536) := by
    refine @WritesLimit.mk [] (some 65536) Blank.nil ?_
    rintro n ⟨⟩
    decide
  have hkeys : limits.keys.Nodup := by
    change ["x", settingKeys.stack].Nodup
    decide
  exact ⟨gives_of_not_mem (by decide),
    gives_of_nodup hkeys (.tail _ (.head _)) rfl hlimit⟩

theorem givenBy : settings.GivenBy object := by
  have hengine : WritesLimits (' ' :: limits.text) settings.engine :=
    @WritesLimits.mk [' '] limits settings.engine (.single rfl) limits_givenBy
  have hlevel : WritesText level.value settings.logLevel := .mk Blank.nil spells_level
  have hkeys : object.keys.Nodup := by
    change ["later", settingKeys.engine, settingKeys.logLevel].Nodup
    decide
  exact ⟨gives_of_nodup hkeys (.tail _ (.tail _ (.head _))) rfl hlevel,
    gives_of_not_mem (by decide), gives_of_not_mem (by decide),
    gives_of_nodup hkeys (.tail _ (.head _)) rfl hengine⟩

end Sample

/-- Settings come back from their text; others are read off an object with blanks, escapes and
unknown keys in it, and none are where a key stands twice. -/
theorem settings_as_written_sample :
    Settings.parse? Sample.settings.print = some Sample.settings ∧
    IsSettingsObject Sample.object ∧
    Settings.parse? (String.ofList ([] ++ (Sample.object.text ++ ['\n']))) =
      some Sample.settings ∧
    Settings.parse? (String.ofList ([] ++ (Sample.levels.text ++ []))) = none ∧
    Settings.parse? (String.ofList ([] ++ (Sample.engines.text ++ []))) = none := by
  obtain ⟨hprint, hobjects⟩ := settings_as_written
  obtain ⟨htyped, hgiven, -⟩ := hobjects Sample.object [] ['\n'] Blank.nil (.single rfl)
  obtain ⟨-, -, hlevels⟩ := hobjects Sample.levels [] [] Blank.nil Blank.nil
  obtain ⟨-, -, hengines⟩ := hobjects Sample.engines [] [] Blank.nil Blank.nil
  have hfit : Sample.settings.engine.Fit := by
    refine ⟨by rintro n ⟨⟩, ?_⟩
    rintro n ⟨⟩
    decide
  have hobject : IsSettingsObject Sample.object :=
    isSettingsObject_iff.mpr ⟨Sample.settings, Sample.givenBy⟩
  obtain ⟨settings, hsettings, hread⟩ := htyped hobject
  have hsame : settings = Sample.settings :=
    Option.some.inj (hread.symm.trans (hgiven _ Sample.givenBy))
  refine ⟨hprint _ hfit, hobject, hsame ▸ hread, hlevels ?_, hengines ?_⟩
  · exact @Twice.setting _ settingKeys.logLevel (by decide) (by decide)
  · exact @Twice.limit _ _ [] Sample.bounds settingKeys.stack (.head _) rfl Blank.nil rfl
      (by decide) (by decide)

end ScriptBridge
