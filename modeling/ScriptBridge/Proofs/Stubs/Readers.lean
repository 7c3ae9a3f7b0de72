import ScriptBridge.Proofs.Data.Written
import ScriptBridge.Stub
import Mathlib.Data.List.Basic

/-!
# Readers of stubs

A reader takes what it reads off the front of a text. There is one for each part of a stub: the
line of a method, the line of a property, and the line that closes the function. They know the text
only, and nothing of the object that the stub was made for.

For each reader there is a lemma `run_...` that says what it does to the text it is meant for,
whatever follows. A reader that is put together from others is run step by step with these. Where
there is a choice, the readers before the right one fail on a character that they do not expect.
-/

namespace ScriptBridge

open Json

namespace Stub

/-! ## Contents -/

/-- A member, as a stub gives it to scripts. -/
inductive Line where
  | method (name opcode : String)
  | property (name literal : String) (writable : Bool)
  deriving DecidableEq, Repr

/-- What a proxy is based on. -/
inductive Base where
  | nothing
  /-- The object as a function, under an opcode. -/
  | function (opcode : String)
  /-- The tag of the initializer. -/
  | initializer (tag : String)
  deriving DecidableEq, Repr

/-- What a stub installs. -/
structure Contents where
  lines : List Line
  channel : String
  target : StubTarget
  base : Base
  deriving DecidableEq, Repr

/-- Whether scripts can make instances. -/
def Contents.isConstructible (contents : Contents) : Bool :=
  match contents.base with
  | .initializer _ => true
  | _ => false

/-! ## Readers -/

/-- A reader takes something off the front of a text. -/
abbrev Reader := StateT (List Char) Option

namespace Reader

/-- This text and no other. -/
def mark (fixed : String) : Reader Unit := fun text ↦
  (fixed.toList.isPrefixOf? text).map fun rest ↦ ((), rest)

/-- A text between quotation marks. -/
def quoted : Reader String
  | '"' :: text => (Quoted.decode? text).map fun (chars, rest) ↦ (String.ofList chars, rest)
  | _ => none

/-- A whole number. -/
def number : Reader Int := fun text ↦
  (NumberText.scan? text).map fun (numeral, rest) ↦
    let size : Int := NumberText.ofDigits numeral.whole
    (if numeral.negative then -size else size, rest)

theorem run_orElse_of_some {α : Type} {reader : Reader α} {text : List Char}
    {read : α × List Char} (h : reader.run text = some read) (other : Reader α) :
    (reader <|> other).run text = some read := by
  rw [StateT.run_orElse, h]
  rfl

theorem run_orElse_of_none {α : Type} {reader : Reader α} {text : List Char}
    (h : reader.run text = none) (other : Reader α) :
    (reader <|> other).run text = other.run text := by
  rw [StateT.run_orElse, h]
  rfl

theorem run_mark (fixed : String) (rest : List Char) :
    (mark fixed).run (fixed.toList ++ rest) = some ((), rest) :=
  Option.map_eq_some_iff.mpr ⟨rest, List.isPrefixOf?_eq_some_iff_append_eq.mpr rfl, rfl⟩

theorem run_quoted (s : String) (rest : List Char) :
    quoted.run ((quote s).toList ++ rest) = some (s, rest) := by
  obtain ⟨text, htext, hdecode⟩ := Json.Reader.decode?_quote s rest
  have hrun : quoted.run ('"' :: text) =
      (Quoted.decode? text).map fun (chars, rest) ↦ (String.ofList chars, rest) := rfl
  rw [htext, hrun, hdecode]
  exact congrArg (fun s ↦ some (s, rest)) String.ofList_toList

theorem run_number (n : Int) {rest : List Char} (hrest : NumberText.Ends rest) :
    number.run ((toString n).toList ++ rest) = some (n, rest) := by
  have hscan := NumberText.scan?_toString n hrest
  have hsize : NumberText.ofDigits (NumberText.ofInt n).whole = n.natAbs :=
    NumberText.ofDigits_digitValues n.natAbs
  refine Option.map_eq_some_iff.mpr ⟨_, hscan, ?_⟩
  simp only [hsize]
  simp only [NumberText.ofInt, decide_eq_true_eq]
  split <;> exact congrArg (·, rest) (by omega)

/-- What a script does to call a method of the object that is bound first. -/
def early : Reader String := do
  mark scriptGlobal
  mark ".invokeNative.bind(exports, "
  let opcode ← quoted
  mark ")"
  return opcode

/-- What a script does to call a method of its receiver. -/
def late : Reader String := do
  mark "function() \x7b return "
  mark scriptGlobal
  mark ".invokeNative.bind(this, "
  let opcode ← quoted
  mark ").apply(null, arguments); \x7d"
  return opcode

theorem run_early (opcode : String) (rest : List Char) :
    early.run ((earlyMethod opcode).toList ++ rest) = some (opcode, rest) := by
  unfold early earlyMethod
  simp only [String.toList_append, List.append_assoc, StateT.run_bind, StateT.run_pure, run_mark,
    run_quoted, Option.bind_eq_bind, Option.bind_some, Option.pure_def]

theorem run_late (opcode : String) (rest : List Char) :
    late.run ((lateMethod opcode).toList ++ rest) = some (opcode, rest) := by
  unfold late lateMethod
  simp only [String.toList_append, List.append_assoc, StateT.run_bind, StateT.run_pure, run_mark,
    run_quoted, Option.bind_eq_bind, Option.bind_some, Option.pure_def]

/-- The end of the line of a property, which tells whether the property can be set. -/
def propertyEnd (writable : Bool) : String :=
  "; \x7d, " ++ (if writable then "true" else "false") ++ ");"

/-- Whatever stands before the end of the line of a property. -/
def literal (writable : Bool) : Reader String := fun text ↦
  ((propertyEnd writable).toList.isSuffixOf? text).map fun chars ↦ (String.ofList chars, [])

/-- The line of a method. -/
def methodLine : Reader Line := do
  mark "exports["
  let name ← quoted
  mark "] = "
  let opcode ← early <|> late
  mark ";"
  return .method name opcode

/-- The line of a property. -/
def propertyLine (writable : Bool) : Reader Line := do
  mark scriptGlobal
  mark ".defineProperty(exports, "
  let name ← quoted
  mark ", function() \x7b return "
  let literal ← literal writable
  return .property name literal writable

/-- The line of a member. -/
def line : Reader Line := methodLine <|> propertyLine true <|> propertyLine false

/-- The channel and the place of a principal. -/
def plugin : Reader (String × StubTarget) := do
  mark ".createPlugin("
  let channel ← quoted
  mark ", "
  let place ← quoted
  return (channel, .plugin place)

/-- The channel, the owner and the number of an object that crossed. -/
def reference : Reader (String × StubTarget) := do
  mark ".createReference("
  let channel ← quoted
  mark ", "
  let owner ← quoted
  mark ", "
  let id ← number
  return (channel, .reference owner id)

/-- The word for no base. -/
def noBase : Reader Base := (fun () ↦ .nothing) <$> mark "null"

/-- What a proxy is based on. The three cases differ in their first characters. -/
def base : Reader Base := noBase <|> .initializer <$> quoted <|> .function <$> late

/-- The line that closes the function. -/
def closing : Reader (String × StubTarget × Base) := do
  mark "\x7d)("
  mark scriptGlobal
  let (channel, target) ← plugin <|> reference
  mark ", "
  let base ← base
  mark ")"
  mark ");"
  return (channel, target, base)

theorem run_call (bindsEarly : Bool) (opcode : String) (rest : List Char) :
    (early <|> late).run
        ((if bindsEarly then earlyMethod opcode else lateMethod opcode).toList ++ rest) =
      some (opcode, rest) := by
  cases bindsEarly with
  | true => exact run_orElse_of_some (run_early opcode rest) late
  | false =>
    have hearly : early.run ((lateMethod opcode).toList ++ rest) = none := by
      unfold lateMethod
      simp only [String.toList_append, List.append_assoc]
      rfl
    exact (run_orElse_of_none hearly late).trans (run_late opcode rest)

/-- The two ends are told apart by their last characters. -/
theorem eq_of_append_propertyEnd {writable writable' : Bool} {text text' : List Char}
    (h : text ++ (propertyEnd writable).toList = text' ++ (propertyEnd writable').toList) :
    writable = writable' := by
  have htail : ∀ writable, ∃ front, (propertyEnd writable).toList =
      front ++ [if writable then 'u' else 's', 'e', ')', ';'] := by
    rintro (_ | _)
    · exact ⟨"; \x7d, fal".toList, rfl⟩
    · exact ⟨"; \x7d, tr".toList, rfl⟩
  obtain ⟨front, hfront⟩ := htail writable
  obtain ⟨front', hfront'⟩ := htail writable'
  rw [hfront, hfront', ← List.append_assoc, ← List.append_assoc] at h
  have hmark : (if writable then 'u' else 's') = if writable' then 'u' else 's' :=
    (List.cons.inj (List.append_inj_right' h rfl)).1
  revert hmark
  cases writable <;> cases writable' <;> decide

theorem run_literal (writable writable' : Bool) (value : String) :
    (literal writable').run (value.toList ++ (propertyEnd writable).toList) =
      if writable = writable' then some (value, []) else none := by
  have hrun : ∀ text, (literal writable').run text =
      ((propertyEnd writable').toList.isSuffixOf? text).map fun chars ↦
        (String.ofList chars, []) := fun _ ↦ rfl
  rw [hrun]
  split
  · next h =>
    subst h
    rw [List.isSuffixOf?_eq_some_iff_append_eq.mpr rfl, Option.map_some, String.ofList_toList]
  · next h =>
    refine Option.map_eq_none_iff.mpr (Option.eq_none_iff_forall_ne_some.mpr fun chars hchars ↦ ?_)
    exact h (eq_of_append_propertyEnd (List.isSuffixOf?_eq_some_iff_append_eq.mp hchars).symm)

theorem run_line_method (name opcode : String) (bindsEarly : Bool) :
    line.run ("exports[" ++ quote name ++ "] = " ++
        (if bindsEarly then earlyMethod opcode else lateMethod opcode) ++ ";").toList =
      some (.method name opcode, []) := by
  have hread : methodLine.run ("exports[" ++ quote name ++ "] = " ++
      (if bindsEarly then earlyMethod opcode else lateMethod opcode) ++ ";").toList =
        some (.method name opcode, []) := by
    unfold methodLine
    rw [← List.append_nil (String.toList _)]
    simp only [String.toList_append, List.append_assoc, StateT.run_bind, StateT.run_pure, run_mark,
      run_quoted, run_call, Option.bind_eq_bind, Option.bind_some, Option.pure_def]
  exact run_orElse_of_some hread _

theorem run_line_property (name value : String) (writable : Bool) :
    line.run (scriptGlobal ++ ".defineProperty(exports, " ++ quote name ++
        ", function() \x7b return " ++ value ++ "; \x7d, " ++
        (if writable then "true" else "false") ++ ");").toList =
      some (.property name value writable, []) := by
  have hend : (propertyEnd writable).toList = "; \x7d, ".toList ++
      ((if writable then "true" else "false").toList ++ ");".toList) := by
    rw [propertyEnd, String.toList_append, String.toList_append, List.append_assoc]
  simp only [String.toList_append, List.append_assoc, ← hend]
  -- the line of a method begins otherwise, and of the other two readers one expects another end
  have hmethod : ∀ text, methodLine.run (scriptGlobal.toList ++ text) = none := fun _ ↦ rfl
  have hread : ∀ writable', (propertyLine writable').run (scriptGlobal.toList ++
      (".defineProperty(exports, ".toList ++ ((quote name).toList ++
        (", function() \x7b return ".toList ++ (value.toList ++ (propertyEnd writable).toList))))) =
      if writable = writable' then some (.property name value writable', []) else none := by
    intro writable'
    unfold propertyLine
    simp only [StateT.run_bind, StateT.run_pure, run_mark, run_quoted, run_literal,
      Option.bind_eq_bind, Option.bind_some, Option.pure_def]
    split <;> rfl
  refine (run_orElse_of_none (hmethod _) _).trans ?_
  cases writable with
  | true => exact run_orElse_of_some (hread true) _
  | false => exact (run_orElse_of_none (hread true) _).trans (hread false)

theorem run_plugin (channel place : String) (rest : List Char) :
    (plugin <|> reference).run (".createPlugin(".toList ++ ((quote channel).toList ++
        (", ".toList ++ ((quote place).toList ++ rest)))) =
      some ((channel, .plugin place), rest) := by
  refine run_orElse_of_some ?_ reference
  unfold plugin
  simp only [StateT.run_bind, StateT.run_pure, run_mark, run_quoted, Option.bind_eq_bind,
    Option.bind_some, Option.pure_def]

theorem run_reference (channel owner : String) (id : Int) {rest : List Char}
    (hrest : NumberText.Ends rest) :
    (plugin <|> reference).run (".createReference(".toList ++ ((quote channel).toList ++
        (", ".toList ++ ((quote owner).toList ++
          (", ".toList ++ ((toString id).toList ++ rest)))))) =
      some ((channel, .reference owner id), rest) := by
  have hplugin : ∀ text, plugin.run (".createReference(".toList ++ text) = none := fun _ ↦ rfl
  refine (run_orElse_of_none (hplugin _) reference).trans ?_
  unfold reference
  simp only [StateT.run_bind, StateT.run_pure, run_mark, run_quoted, run_number id hrest,
    Option.bind_eq_bind, Option.bind_some, Option.pure_def]

theorem run_noBase (rest : List Char) :
    base.run ("null".toList ++ rest) = some (.nothing, rest) := by
  refine run_orElse_of_some ?_ _
  rw [noBase, StateT.run_map, run_mark]
  rfl

theorem run_initializer (tag : String) (rest : List Char) :
    base.run ((quote tag).toList ++ rest) = some (.initializer tag, rest) := by
  have hnone : noBase.run ((quote tag).toList ++ rest) = none := by
    obtain ⟨text, htext, -⟩ := Json.Reader.decode?_quote tag rest
    rw [htext]
    rfl
  refine (run_orElse_of_none hnone _).trans (run_orElse_of_some ?_ _)
  rw [StateT.run_map, run_quoted]
  rfl

theorem run_function (opcode : String) (rest : List Char) :
    base.run ((lateMethod opcode).toList ++ rest) = some (.function opcode, rest) := by
  have hlate : ((Base.function <$> late : Reader Base)).run ((lateMethod opcode).toList ++ rest) =
      some (.function opcode, rest) := by
    rw [StateT.run_map, run_late]
    rfl
  have hfirst : ∃ text, (lateMethod opcode).toList ++ rest = 'f' :: text := by
    unfold lateMethod
    simp only [String.toList_append, List.append_assoc]
    exact ⟨_, rfl⟩
  obtain ⟨text, htext⟩ := hfirst
  -- a function begins with a character that begins neither of the others
  rw [htext] at hlate ⊢
  have hnone : noBase.run ('f' :: text) = none := rfl
  have hquoted : (Base.initializer <$> quoted : Reader Base).run ('f' :: text) = none := rfl
  exact (run_orElse_of_none hnone _).trans ((run_orElse_of_none hquoted _).trans hlate)

/-- What is read if nothing is left. -/
def all? {α : Type} (reader : Reader α) (text : List Char) : Option α :=
  (reader.run text).bind fun (a, rest) ↦ if rest = [] then some a else none

end Reader

end Stub

end ScriptBridge
