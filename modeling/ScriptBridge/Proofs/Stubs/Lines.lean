import ScriptBridge.Stub

/-!
# The lines of a stub

Which members of a surface a stub has a line for is a matter of their kind and of whether they have
a name: properties have one in any case, methods if they have a name, and the initializer never.
`Stub.shown` says so on its own, and `Stub.fragments_eq` that the fragments are the lines of these
members, in the order of their names.
-/

namespace ScriptBridge

/-- Whether a stub has a line for a member of this name. -/
def Member.isShown (name : String) : Member → Bool
  | .method _ _ => name ≠ ""
  | .property _ => true
  | .initializer _ => false

namespace Stub

/-- The members that the stub has lines for, in the order of their names. -/
def shown (stub : Stub) : List (String × Member) :=
  stub.members.entries.filter fun entry ↦ entry.2.isShown entry.1

/-- The line of a member. -/
def line (stub : Stub) (entry : String × Member) : String :=
  (stub.fragment? entry.1 entry.2).getD ""

theorem line_method (stub : Stub) {name : String} (hname : name ≠ "") (arity : Option Nat)
    (returns : Bool) :
    stub.line (name, .method arity returns) = "exports[" ++ quote name ++ "] = " ++
      (if stub.bindsEarly then earlyMethod (name ++ (Member.method arity returns).tag)
        else lateMethod (name ++ (Member.method arity returns).tag)) ++ ";" := by
  have hfragment : stub.fragment? name (.method arity returns) = some _ := if_neg hname
  rw [line, hfragment]
  rfl

theorem line_property (stub : Stub) (name : String) (writable : Bool) :
    stub.line (name, .property writable) = scriptGlobal ++ ".defineProperty(exports, " ++
      quote name ++ ", function() \x7b return " ++ (stub.values.get? name).getD "undefined" ++
        "; \x7d, " ++ (if writable then "true" else "false") ++ ");" :=
  rfl

/-- A member that is shown is a method with a name, or a property. -/
theorem shown_cases {stub : Stub} {entry : String × Member} (h : entry ∈ stub.shown) :
    (∃ name arity returns, entry = (name, .method arity returns) ∧ name ≠ "") ∨
      ∃ name writable, entry = (name, .property writable) := by
  obtain ⟨name, member⟩ := entry
  have hshown : member.isShown name = true := (List.mem_filter.mp h).2
  cases member with
  | method arity returns => exact .inl ⟨name, arity, returns, rfl, of_decide_eq_true hshown⟩
  | property writable => exact .inr ⟨name, writable, rfl⟩
  | initializer arity => exact absurd hshown Bool.false_ne_true

theorem isSome_fragment? (stub : Stub) (name : String) (member : Member) :
    (stub.fragment? name member).isSome = member.isShown name := by
  cases member with
  | method arity returns =>
    by_cases hname : name = "" <;> simp [fragment?, Member.isShown, hname]
  | property writable => rfl
  | initializer arity => rfl

/-- **The fragments are the lines of the members that are shown.** -/
theorem fragments_eq (stub : Stub) :
    stub.fragments = stub.shown.map fun entry ↦ (entry.1, stub.line entry) := by
  rw [fragments, shown]
  induction stub.members.entries with
  | nil => rfl
  | cons entry entries ih =>
    obtain ⟨name, member⟩ := entry
    have hshown := stub.isSome_fragment? name member
    rw [List.filterMap_cons, List.filter_cons, ih]
    cases hfragment : stub.fragment? name member with
    | none =>
      rw [hfragment] at hshown
      simp [← hshown, hfragment]
    | some fragment =>
      rw [hfragment] at hshown
      simp [← hshown, line, hfragment]

/-! ## The whole -/

/-- What the proxy is based on, unless it is amended. -/
def ownBase (stub : Stub) : String :=
  match stub.defaultMember? with
  | some (.initializer arity) => quote (Member.initializer arity).tag
  | some member => lateMethod member.tag
  | none => "null"

theorem base_plain (stub : Stub) :
    Id.run (stub.base fun _ fragment ↦ pure fragment) = stub.ownBase := by
  unfold base ownBase
  match stub.defaultMember? with
  | none => rfl
  | some (.initializer _) | some (.method _ _) | some (.property _) => rfl

/-- The line that closes the function around the lines, and calls it. -/
def closing (stub : Stub) : String := "\x7d)(" ++ stub.factory stub.ownBase ++ ");"

theorem toList_lines (fragments : List (String × String)) :
    (Id.run (lines (fun _ fragment ↦ pure fragment) fragments)).toList =
      fragments.flatMap fun fragment ↦ fragment.2.toList ++ ['\n'] := by
  induction fragments with
  | nil => rfl
  | cons fragment fragments ih =>
    rw [List.flatMap_cons, ← ih]
    exact (String.toList_append ..).trans (congrArg (· ++ _) (String.toList_append ..))

/-- **The text of a stub that nobody amends**: the lines of the members, between one that opens a
function and one that closes it, and the name of the source. -/
theorem toList_text (stub : Stub) :
    (stub.text fun _ fragment ↦ fragment).toList =
      "(function(exports) \x7b".toList ++ '\n' ::
        (stub.shown.flatMap (fun entry ↦ (stub.line entry).toList ++ ['\n']) ++
          (stub.closing.toList ++ '\n' :: ("\n//# sourceURL=" ++ stub.sourceUrl).toList)) := by
  have hlines := toList_lines stub.fragments
  rw [fragments_eq, List.flatMap_map] at hlines
  have htext : stub.text (fun _ fragment ↦ fragment) = "(function(exports) \x7b\n" ++
      Id.run (lines (fun _ fragment ↦ pure fragment) stub.fragments) ++ "\x7d)(" ++
        stub.factory (Id.run (stub.base fun _ fragment ↦ pure fragment)) ++ ");\n" ++
          ("\n//# sourceURL=" ++ stub.sourceUrl) := rfl
  have hopen : "(function(exports) \x7b\n".toList =
      "(function(exports) \x7b".toList ++ ['\n'] := rfl
  have hclose : ");\n".toList = ");".toList ++ ['\n'] := rfl
  rw [htext, base_plain, fragments_eq]
  simp only [closing, String.toList_append, hlines, hopen, hclose, List.append_assoc,
    List.cons_append, List.nil_append]

end Stub

end ScriptBridge
