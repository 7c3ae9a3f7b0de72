import ScriptBridge.Proofs.Stubs.Lines
import ScriptBridge.Proofs.Stubs.Opcodes
import ScriptBridge.Proofs.Stubs.Readers

/-!
# What can be read off a stub

A stub that nobody amends is the text of a script, and names of any kind are put into it. They are
quoted, so that a name can end neither a line nor the place where it stands. Whoever has the text
can therefore tell what it installs, and `Stub.read?` does: the text is cut at the ends of its
lines, the lines up to the one that closes the function are read as members, and the closing one as
what the members are installed on. `Stub.legible` says that this gives what the stub was made of.

Only literals are put into the text as they are. A literal that has a line break in it would be
taken for several lines, and is excluded.
-/

namespace ScriptBridge

open Json

namespace Stub

/-! ## Reading -/

/-- The lines of a text behind the first one. -/
def linesBehind (text : String) : List (List Char) := (text.toList.splitOn '\n').tail

/-- Whether a line closes the function. -/
def isClosing (line : List Char) : Bool := "\x7d)(".toList.isPrefixOf line

/-- The lines inside the function. -/
def localLines (text : String) : List (List Char) :=
  (linesBehind text).takeWhile fun line ↦ !isClosing line

/-- What the text of a stub installs. -/
def read? (text : String) : Option Contents := do
  let lines ← (localLines text).mapM Reader.line.all?
  let closing ← ((linesBehind text).drop lines.length).head?
  let (channel, target, base) ← Reader.closing.all? closing
  return { lines, channel, target, base }

/-! ## What is there to be read -/

/-- What the line of a member says. -/
def announced (stub : Stub) (entry : String × Member) : Line :=
  match entry.2 with
  | .property writable => .property entry.1 ((stub.values.get? entry.1).getD "undefined") writable
  | member => .method entry.1 (entry.1 ++ member.tag)

/-- What the stub says of its base. -/
def announcedBase (stub : Stub) : Base :=
  match stub.defaultMember? with
  | some (.initializer arity) => .initializer (Member.initializer arity).tag
  | some member => .function member.tag
  | none => .nothing

/-- What the stub installs. -/
def contents (stub : Stub) : Contents where
  lines := stub.shown.map stub.announced
  channel := stub.channel
  target := stub.target
  base := stub.announcedBase

theorem isConstructible_contents (stub : Stub) (typeName : String) :
    stub.contents.isConstructible = (Surface.mk typeName stub.members).isConstructible := by
  have hsame : (Surface.mk typeName stub.members).defaultMember? = stub.defaultMember? := rfl
  unfold contents Contents.isConstructible announcedBase Surface.isConstructible
    Surface.initializer?
  rw [hsame]
  match stub.defaultMember? with
  | none => rfl
  | some (.initializer _) | some (.method _ _) | some (.property _) => rfl

/-! ## What is read -/

variable {stub : Stub}

theorem run_ownBase (stub : Stub) (rest : List Char) :
    Reader.base.run (stub.ownBase.toList ++ rest) = some (stub.announcedBase, rest) := by
  unfold ownBase announcedBase
  match stub.defaultMember? with
  | none => exact Reader.run_noBase rest
  | some (.initializer _) => exact Reader.run_initializer _ rest
  | some (.method _ _) | some (.property _) => exact Reader.run_function _ rest

/-- The line that closes the function is read as what the members are installed on. -/
theorem all?_closing (stub : Stub) : Reader.closing.all? stub.closing.toList =
    some (stub.channel, stub.target, stub.announcedBase) := by
  have hrun : Reader.closing.run stub.closing.toList =
      some ((stub.channel, stub.target, stub.announcedBase), []) := by
    unfold Stub.closing factory Reader.closing
    -- the readers are run with something behind their text, here nothing
    rw [← List.append_nil (String.toList _)]
    cases stub.target with
    | plugin place =>
      simp only [String.toList_append, List.append_assoc, StateT.run_bind, StateT.run_pure,
        Reader.run_mark, Reader.run_plugin, run_ownBase, Option.bind_eq_bind, Option.bind_some,
        Option.pure_def]
    | reference owner id =>
      have hends : ∀ rest, NumberText.Ends (", ".toList ++ rest) := fun rest ↦
        NumberText.ends_cons rfl (by decide) (by decide) (by decide)
      simp only [String.toList_append, List.append_assoc, StateT.run_bind, StateT.run_pure,
        Reader.run_mark, Reader.run_reference _ _ _ (hends _), run_ownBase, Option.bind_eq_bind,
        Option.bind_some, Option.pure_def]
  rw [Reader.all?, hrun]
  rfl

/-- The line of a member is read as what the member is. -/
theorem all?_line {entry : String × Member} (h : entry ∈ stub.shown) :
    Reader.line.all? (stub.line entry).toList = some (stub.announced entry) := by
  have hrun : Reader.line.run (stub.line entry).toList = some (stub.announced entry, []) := by
    rcases shown_cases h with ⟨name, arity, returns, rfl, hname⟩ | ⟨name, writable, rfl⟩
    · rw [line_method stub hname]
      exact Reader.run_line_method name _ stub.bindsEarly
    · rw [line_property]
      exact Reader.run_line_property name _ writable
  rw [Reader.all?, hrun]
  rfl

/-! ## Ends of lines -/

/-- No literal has a line break in it. -/
def Unbroken (stub : Stub) : Prop :=
  ∀ name literal, stub.values.get? name = some literal → '\n' ∉ literal.toList

/-- No quoted text ends a line. -/
theorem newline_not_mem_quote (s : String) : '\n' ∉ (quote s).toList := by
  have hdigit : ∀ n < 16, '\n' ≠ Quoted.hexDigit n := by decide
  have hescape : ∀ c, '\n' ∉ Quoted.escape c := by
    intro c
    unfold Quoted.escape
    iterate 7
      split
      · decide
    split
    · next hcontrol =>
      have hhigh := hdigit (c.toNat / 16) (by omega)
      have hlow := hdigit (c.toNat % 16) (by omega)
      simp [hhigh, hlow]
    · rw [List.mem_singleton]
      rintro rfl
      contradiction
  rw [quote, String.toList_ofList, Quoted.encode]
  simp [hescape]

theorem newline_not_mem_earlyMethod (opcode : String) : '\n' ∉ (earlyMethod opcode).toList := by
  unfold earlyMethod
  simp only [String.toList_append, List.mem_append, not_or]
  exact ⟨⟨by decide, newline_not_mem_quote opcode⟩, by decide⟩

theorem newline_not_mem_lateMethod (opcode : String) : '\n' ∉ (lateMethod opcode).toList := by
  unfold lateMethod
  simp only [String.toList_append, List.mem_append, not_or]
  exact ⟨⟨by decide, newline_not_mem_quote opcode⟩, by decide⟩

theorem newline_not_mem_ownBase (stub : Stub) : '\n' ∉ stub.ownBase.toList := by
  unfold ownBase
  match stub.defaultMember? with
  | none => decide
  | some (.initializer _) => exact newline_not_mem_quote _
  | some (.method _ _) | some (.property _) => exact newline_not_mem_lateMethod _

theorem newline_not_mem_closing (stub : Stub) : '\n' ∉ stub.closing.toList := by
  have hnumber : ∀ id : Int, '\n' ∉ (toString id).toList := by
    intro id hmem
    rw [NumberText.toList_toString, List.mem_append] at hmem
    rcases hmem with hmem | hmem
    · split at hmem <;> exact absurd hmem (by decide)
    · exact absurd (NumberText.isDigit_of_mem_toDigits _ hmem) (by decide)
  unfold closing factory
  cases stub.target with
  | plugin place =>
    simp only [String.toList_append, List.mem_append, not_or, newline_not_mem_quote,
      newline_not_mem_ownBase, not_false_eq_true, and_true]
    decide
  | reference owner id =>
    simp only [String.toList_append, List.mem_append, not_or, newline_not_mem_quote,
      newline_not_mem_ownBase, hnumber, not_false_eq_true, and_true]
    decide

/-- The line of a member has no line break in it, unless a literal has one. -/
theorem newline_not_mem_line (hvalues : stub.Unbroken) {entry : String × Member}
    (h : entry ∈ stub.shown) : '\n' ∉ (stub.line entry).toList := by
  rcases shown_cases h with ⟨name, arity, returns, rfl, hname⟩ | ⟨name, writable, rfl⟩
  · have hcall : '\n' ∉ (if stub.bindsEarly then
        earlyMethod (name ++ (Member.method arity returns).tag)
        else lateMethod (name ++ (Member.method arity returns).tag)).toList := by
      split
      · exact newline_not_mem_earlyMethod _
      · exact newline_not_mem_lateMethod _
    rw [line_method stub hname]
    simp only [String.toList_append, List.mem_append, not_or, newline_not_mem_quote, hcall,
      not_false_eq_true, and_true]
    decide
  · have hvalue : '\n' ∉ ((stub.values.get? name).getD "undefined").toList := by
      cases hget : stub.values.get? name with
      | none => decide
      | some literal => exact hvalues name literal hget
    rw [line_property]
    simp only [String.toList_append, List.mem_append, not_or, newline_not_mem_quote, hvalue,
      not_false_eq_true, and_true]
    cases writable <;> decide

/-- No line of a member is taken for the one that closes the function. -/
theorem isClosing_line {entry : String × Member} (h : entry ∈ stub.shown) :
    isClosing (stub.line entry).toList = false := by
  rcases shown_cases h with ⟨name, arity, returns, rfl, hname⟩ | ⟨name, writable, rfl⟩
  · rw [line_method stub hname]
    simp only [String.toList_append, List.append_assoc]
    rfl
  · rw [line_property]
    simp only [String.toList_append, List.append_assoc]
    rfl

theorem isClosing_closing (stub : Stub) : isClosing stub.closing.toList = true := by
  unfold closing
  simp only [String.toList_append, List.append_assoc]
  rfl

/-- Text is cut at the ends of its lines. -/
theorem splitOn_lines {lines : List (List Char)} (h : ∀ line ∈ lines, '\n' ∉ line)
    (rest : List Char) :
    (lines.flatMap (· ++ ['\n']) ++ rest).splitOn '\n' = lines ++ rest.splitOn '\n' := by
  induction lines with
  | nil => rfl
  | cons line lines ih =>
    have hline : line.splitOn '\n' = [line] :=
      List.splitOn_eq_singleton (h line List.mem_cons_self)
    have hlines := ih fun line hmem ↦ h line (List.mem_cons_of_mem _ hmem)
    rw [List.flatMap_cons, List.append_assoc, List.append_assoc, List.singleton_append,
      List.splitOn_append_cons_of_beq _ _ (beq_self_eq_true '\n'), hline, hlines]
    rfl

/-- The lines of the text, up to the one that closes the function. -/
def writtenLines (stub : Stub) : List (List Char) :=
  "(function(exports) \x7b".toList ::
    ((stub.shown.map fun entry ↦ (stub.line entry).toList) ++ [stub.closing.toList])

theorem newline_not_mem_writtenLines (hvalues : stub.Unbroken) :
    ∀ line ∈ stub.writtenLines, '\n' ∉ line := by
  intro line hmem
  rcases List.mem_cons.mp hmem with rfl | hmem
  · decide
  rcases List.mem_append.mp hmem with hmem | hmem
  · obtain ⟨entry, hentry, rfl⟩ := List.mem_map.mp hmem
    exact newline_not_mem_line hvalues hentry
  · rw [List.mem_singleton.mp hmem]
    exact newline_not_mem_closing stub

/-- Behind the first line there are the lines of the members, and the one that closes. -/
theorem linesBehind_text (hvalues : stub.Unbroken) :
    ∃ rest, linesBehind (stub.text fun _ fragment ↦ fragment) =
      (stub.shown.map fun entry ↦ (stub.line entry).toList) ++ stub.closing.toList :: rest := by
  have htext : (stub.text fun _ fragment ↦ fragment).toList =
      stub.writtenLines.flatMap (· ++ ['\n']) ++
        ("\n//# sourceURL=" ++ stub.sourceUrl).toList := by
    rw [toList_text]
    simp [writtenLines, List.flatMap_map]
  refine ⟨("\n//# sourceURL=" ++ stub.sourceUrl).toList.splitOn '\n', ?_⟩
  rw [linesBehind, htext, splitOn_lines (newline_not_mem_writtenLines hvalues)]
  simp [writtenLines]

/-- The lines inside the function are those of the members. -/
theorem localLines_text (hvalues : stub.Unbroken) :
    localLines (stub.text fun _ fragment ↦ fragment) =
      stub.shown.map fun entry ↦ (stub.line entry).toList := by
  obtain ⟨rest, hrest⟩ := linesBehind_text hvalues
  rw [localLines, hrest, List.takeWhile_append_of_pos, List.takeWhile_cons, isClosing_closing]
  · exact List.append_nil _
  · intro line hmem
    obtain ⟨entry, hentry, rfl⟩ := List.mem_map.mp hmem
    rw [isClosing_line hentry]
    rfl

/-- All lines of members are read as what the members are. -/
theorem mapM_all?_line {entries : List (String × Member)}
    (h : ∀ entry ∈ entries, entry ∈ stub.shown) :
    (entries.map fun entry ↦ (stub.line entry).toList).mapM Reader.line.all? =
      some (entries.map stub.announced) := by
  induction entries with
  | nil => rfl
  | cons entry entries ih =>
    have hentry := all?_line (h entry List.mem_cons_self)
    have hentries := ih fun entry hmem ↦ h entry (List.mem_cons_of_mem _ hmem)
    rw [List.map_cons, List.mapM_cons, hentry, hentries]
    rfl

/-- **What is read is what the stub installs.** -/
theorem read?_text (hvalues : stub.Unbroken) :
    read? (stub.text fun _ fragment ↦ fragment) = some stub.contents := by
  obtain ⟨rest, hrest⟩ := linesBehind_text hvalues
  have hclosing : ((linesBehind (stub.text fun _ fragment ↦ fragment)).drop
      (stub.shown.map stub.announced).length).head? = some stub.closing.toList := by
    rw [hrest, List.length_map, List.drop_left' (List.length_map ..)]
    rfl
  unfold read?
  rw [localLines_text hvalues, mapM_all?_line fun _ h ↦ h]
  simp only [Option.bind_eq_bind, Option.bind_some, hclosing, all?_closing, Option.pure_def]
  rfl

/-- The members that are shown are in the order of the octets of their names. -/
theorem pairwise_shown (stub : Stub) :
    stub.shown.Pairwise fun a b ↦ Utf8.encode a.1 < Utf8.encode b.1 :=
  (stub.members.ordered.imp Utf8.encode_lt_encode).filter _

/-- Just the methods that have a name and the properties are shown. -/
theorem mem_shown_iff (stub : Stub) (name : String) (member : Member) :
    (name, member) ∈ stub.shown ↔ stub.members.get? name = some member ∧
      ((∃ arity returns, member = .method arity returns) ∧ name ≠ "" ∨
        ∃ writable, member = .property writable) := by
  rw [shown, List.mem_filter, ← Table.get?_eq_some_iff]
  refine and_congr_right fun _ ↦ ?_
  cases member <;> simp [Member.isShown]

/-- **A stub that nobody amends can be read**, if no literal has a line break in it. What is read is
what the stub installs, so the text belongs to stubs that install the same and to no others. There
is one line for each method that has a name and for each property, in the order of the octets of
their names, and nothing else between the first line and the one that closes. Whether scripts can
make instances is read off the base, and the opcode of a method gives back the name of the method
and whether it returns something. -/
theorem legible (stub : Stub) (hvalues : stub.Unbroken) :
    read? (stub.text fun _ fragment ↦ fragment) = some stub.contents ∧
      (∀ other : Stub, other.Unbroken →
        (other.text fun _ fragment ↦ fragment) = (stub.text fun _ fragment ↦ fragment) →
        other.contents = stub.contents) ∧
      localLines (stub.text fun _ fragment ↦ fragment) =
        (stub.shown.map fun entry ↦ (stub.line entry).toList) ∧
      (∀ name member, (name, member) ∈ stub.shown ↔ stub.members.get? name = some member ∧
        ((∃ arity returns, member = .method arity returns) ∧ name ≠ "" ∨
          ∃ writable, member = .property writable)) ∧
      (stub.shown.Pairwise fun a b ↦ Utf8.encode a.1 < Utf8.encode b.1) ∧
      (∀ typeName, stub.contents.isConstructible =
        (Surface.mk typeName stub.members).isConstructible) ∧
      ∀ name arity returns,
        Script.calledBy (.whole (name ++ (Member.method arity returns).tag)) =
          (.whole name, returns) := by
  refine ⟨read?_text hvalues, fun other hother hsame ↦ ?_, localLines_text hvalues,
    stub.mem_shown_iff, stub.pairwise_shown, stub.isConstructible_contents,
    Script.calledBy_opcode⟩
  have hread : read? (other.text fun _ fragment ↦ fragment) = some other.contents :=
    read?_text hother
  rw [hsame, read?_text hvalues] at hread
  exact (Option.some.inj hread).symm

/-- A stub with names that look like what is around them. -/
def misleading : Stub where
  channel := "7\", null));"
  target := .reference "a.b\\" (-3)
  members := Table.ofList [("", .initializer 1), ("\n\x7d)(", .property true),
    ("get\"] = #1s", .method none false), ("#2s", .method (some 2) true)]
  values := Table.ofList [("\n\x7d)(", "\"; \x7d, false);\"")]
  urlPrefix := "io.latch.plugin."
  description := "line\nbreak"

theorem misleading_legible :
    misleading.Unbroken ∧
      read? (misleading.text fun _ fragment ↦ fragment) = some
        { lines := [.property "\n\x7d)(" "\"; \x7d, false);\"" true, .method "#2s" "#2s#2s",
            .method "get\"] = #1s" "get\"] = #1s#0"]
          channel := "7\", null));"
          target := .reference "a.b\\" (-3)
          base := .initializer "#1" } := by
  have hvalues : misleading.Unbroken := by
    intro name literal hget
    have hmem : (name, literal) ∈ [("\n\x7d)(", "\"; \x7d, false);\"")] :=
      Table.get?_eq_some_iff.mp hget
    obtain ⟨rfl, rfl⟩ := Prod.mk.inj (List.mem_singleton.mp hmem)
    decide
  exact ⟨hvalues, (legible misleading hvalues).1.trans (by decide)⟩

end Stub

end ScriptBridge
