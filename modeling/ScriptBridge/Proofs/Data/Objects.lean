import Mathlib.Data.List.Nodup
import ScriptBridge.Proofs.Data.Texts

/-!
# Objects as they are written

An object at large, member by member: how each key is spelled, where there are blanks, and the text
of each value.
-/

namespace ScriptBridge

namespace Json

open NumberText (Ends)
open Reader (isBlank dropBlanks)

/-- Nothing but blanks. -/
def Blank (text : List Char) : Prop := ∀ c ∈ text, isBlank c = true

/-- A member of an object as it is written, with blanks around the key and behind the value. -/
structure MemberText where
  key : String
  /-- The key as it is spelled. -/
  spelled : List Char
  spells : Quoted.Spells spelled key.toList
  /-- The value, with what blanks there are before it. -/
  value : List Char
  isText : IsText value
  before : List Char := []
  blank_before : Blank before
  between : List Char := []
  blank_between : Blank between
  after : List Char := []
  blank_after : Blank after

theorem Blank.nil : Blank [] := List.forall_mem_nil _

theorem Blank.single {c : Char} (hc : isBlank c = true) : Blank [c] :=
  List.forall_mem_singleton.mpr hc

/-- A member without blanks, with its key as keys are written here. -/
def MemberText.plain (key : String) (value : List Char) (isText : IsText value) : MemberText where
  key
  spelled := Quoted.encode key.toList
  spells := Quoted.spells_encode key.toList
  value
  isText
  blank_before := Blank.nil
  blank_between := Blank.nil
  blank_after := Blank.nil

/-- An object as it is written. -/
structure ObjectText where
  members : List MemberText
  /-- What stands in it if there are no members. -/
  inside : List Char := []
  blank_inside : Blank inside

def MemberText.text (member : MemberText) : List Char :=
  member.before ++ '"' :: (member.spelled ++ '"' :: (member.between ++ ':' ::
    (member.value ++ member.after)))

/-- Members behind another one, and the closing brace. -/
def MemberText.texts : List MemberText → List Char
  | [] => ['\x7d']
  | member :: members => ',' :: (member.text ++ texts members)

def ObjectText.text (object : ObjectText) : List Char :=
  match object.members with
  | [] => '\x7b' :: (object.inside ++ ['\x7d'])
  | member :: members => '\x7b' :: (member.text ++ MemberText.texts members)

/-- The keys of the members, in order. -/
def ObjectText.keys (object : ObjectText) : List String := object.members.map (·.key)

variable {lead text rest : List Char}

theorem Reader.dropBlanks_blank_append (h : Blank lead) (text : List Char) :
    dropBlanks (lead ++ text) = dropBlanks text := by
  induction lead with
  | nil => rfl
  | cons c lead ih =>
    rw [List.cons_append, dropBlanks_blank (h c List.mem_cons_self)]
    exact ih fun d hd ↦ h d (List.mem_cons_of_mem c hd)

theorem Begins.blank_append {part : Part} (hlead : Blank lead) (h : Begins part text rest) :
    Begins part (lead ++ text) rest := by
  induction lead with
  | nil => exact h
  | cons c lead ih =>
    exact .blank (hlead c List.mem_cons_self)
      (ih fun d hd ↦ hlead d (List.mem_cons_of_mem c hd))

theorem ends_of_isBlank {c : Char} (hc : isBlank c = true) (rest : List Char) :
    Ends (c :: rest) := by
  have hcases : c = ' ' ∨ c = '\n' ∨ c = '\t' ∨ c = '\r' := of_decide_eq_true hc
  rcases hcases with rfl | rfl | rfl | rfl <;>
    exact NumberText.ends_cons rfl (by decide) (by decide) (by decide)

theorem Ends.blank_append (hlead : Blank lead) (h : Ends rest) : Ends (lead ++ rest) := by
  cases lead with
  | nil => exact h
  | cons c lead => exact ends_of_isBlank (hlead c List.mem_cons_self) _

namespace MemberText

variable (member : MemberText) (members : List MemberText)

/-- A member and what follows it, with the blanks of each place apart. -/
theorem text_append (more : List Char) :
    member.text ++ more = member.before ++ '"' :: (member.spelled ++ '"' :: (member.between ++
      ':' :: (member.value ++ (member.after ++ more)))) := by
  simp only [text, List.append_assoc, List.cons_append]

theorem texts_cons_append (more : List Char) :
    texts (member :: members) ++ more = ',' :: (member.text ++ (texts members ++ more)) := by
  simp only [texts, List.append_assoc, List.cons_append]

theorem length_le_texts : members.length ≤ (texts members).length := by
  induction members with
  | nil => exact Nat.zero_le _
  | cons member members ih =>
    simp only [texts, List.length_cons, List.length_append]
    omega

theorem ends_after : Ends (member.after ++ (texts members ++ rest)) := by
  refine Ends.blank_append member.blank_after ?_
  cases members with
  | nil => exact ends_mark (.inr (.inr rfl)) rest
  | cons next members => exact ends_mark (.inl rfl) _

theorem dropBlanks_between (more : List Char) :
    dropBlanks (member.between ++ ':' :: more) = ':' :: more :=
  Reader.dropBlanks_blank_append member.blank_between _

theorem dropBlanks_last (rest : List Char) :
    dropBlanks (member.after ++ (texts [] ++ rest)) = '\x7d' :: rest :=
  Reader.dropBlanks_blank_append member.blank_after _

theorem dropBlanks_next (next : MemberText) (rest : List Char) :
    dropBlanks (member.after ++ (texts (next :: members) ++ rest)) =
      ',' :: (next.text ++ (texts members ++ rest)) := by
  rw [Reader.dropBlanks_blank_append member.blank_after, texts_cons_append]
  rfl

theorem begins_texts (rest : List Char) :
    Begins .members (member.text ++ (texts members ++ rest)) rest := by
  have hvalue : ∀ (member : MemberText) (members : List MemberText),
      Begins .value (member.value ++ (member.after ++ (texts members ++ rest)))
        (member.after ++ (texts members ++ rest)) :=
    fun member members ↦ member.isText.append fun _ ↦ member.ends_after members
  induction members generalizing member with
  | nil =>
    rw [text_append]
    exact .blank_append member.blank_before (.lastMember member.spells.isBody
      (member.dropBlanks_between _) (hvalue member []) (member.dropBlanks_last rest))
  | cons next members ih =>
    rw [text_append]
    exact .blank_append member.blank_before (.member member.spells.isBody
      (member.dropBlanks_between _) (hvalue member _) (member.dropBlanks_next members next rest)
      (ih next))

end MemberText

namespace ObjectText

variable (object : ObjectText)

theorem text_append_of_nil (h : object.members = []) (rest : List Char) :
    object.text ++ rest = '\x7b' :: (object.inside ++ '\x7d' :: rest) := by
  simp only [text, h, List.cons_append, List.append_assoc, List.nil_append]

theorem text_append_of_cons {member : MemberText} {members : List MemberText}
    (h : object.members = member :: members) (rest : List Char) :
    object.text ++ rest = '\x7b' :: (member.text ++ (MemberText.texts members ++ rest)) := by
  simp only [text, h, List.cons_append, List.append_assoc]

/-- What is written as an object is a value. -/
theorem begins (rest : List Char) : Begins .value (object.text ++ rest) rest := by
  cases hmembers : object.members with
  | nil =>
    rw [object.text_append_of_nil hmembers]
    exact .noMembers (Reader.dropBlanks_blank_append object.blank_inside _)
  | cons member members =>
    rw [object.text_append_of_cons hmembers]
    exact .object (member.begins_texts members rest)

theorem isText : IsText object.text := by
  have h := object.begins []
  rwa [List.append_nil] at h

end ObjectText

end Json

end ScriptBridge
