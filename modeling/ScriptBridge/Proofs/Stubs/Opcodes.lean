import ScriptBridge.Proofs.Data.Encodings
import ScriptBridge.Proofs.Data.Numerals
import ScriptBridge.Surface.Basic
import Mathlib.Data.List.Basic

/-!
# Opcodes of methods

A stub gives a method to scripts under an opcode: the name of the method and the tag, which starts
with a hash. A script that calls the method takes the opcode apart at the last hash
(`Script.calledBy`). Hashes in the name do not matter then, since there is none in the tag but the
first (`Script.calledBy_opcode`).
-/

namespace ScriptBridge

/-- The mark of a method of which an answer is expected. -/
def answerMark (returns : Bool) : String := if returns then "s" else ""

/-- The tag of a method is the number of its arguments between two marks. -/
theorem Member.tag_method_eq (arity : Option Nat) (returns : Bool) :
    (method arity returns).tag = "#" ++ (toString (arity.getD 0) ++ answerMark returns) := by
  cases returns with
  | true => exact String.append_assoc ..
  | false => exact congrArg ("#" ++ ·) String.append_empty.symm

namespace Script

open Text

/-- A unit that is no digit is not among those of a number. -/
theorem not_mem_units_toString {c : Char} (hc : c.toNat < 0xD800) (hdigit : c.isDigit = false)
    (n : Nat) : c.toNat ∉ (whole (toString n)).units := by
  refine not_mem_units hc fun hmem ↦ ?_
  have hdigits : c ∈ Nat.toDigits 10 n := by
    rwa [Nat.toString_eq_repr, Nat.repr_eq_ofList_toDigits, String.toList_ofList] at hmem
  rw [Json.NumberText.isDigit_of_mem_toDigits c hdigits] at hdigit
  exact absurd hdigit (by decide)

/-- What a script asks for when it calls a method that has this opcode, and whether it waits for an
answer. -/
def calledBy (opcode : Text) : Text × Bool :=
  match lastPositionFrom? (whole "#").units 0 opcode.units with
  | some hash => (opcode.slice 0 hash, opcode.units.getLast? == some 's'.toNat)
  | none => (opcode, false)

/-- **The opcode of a method gives back its name**, whatever the name is, and whether the method
returns something. -/
theorem calledBy_opcode (name : String) (arity : Option Nat) (returns : Bool) :
    calledBy (whole (name ++ (Member.method arity returns).tag)) = (whole name, returns) := by
  let number := (whole (toString (arity.getD 0))).units
  have hhash : '#'.toNat ∉ number := not_mem_units_toString (by decide) (by decide) _
  have hmark : 's'.toNat ∉ number := not_mem_units_toString (by decide) (by decide) _
  have hunits : (whole (name ++ (Member.method arity returns).tag)).units =
      (whole name).units ++ '#'.toNat :: (number ++ (whole (answerMark returns)).units) := by
    rw [Member.tag_method_eq, units_append, units_append, units_append]
    rfl
  have hlast : lastPositionFrom? (whole "#").units 0
      (whole (name ++ (Member.method arity returns).tag)).units =
        some (whole name).units.length := by
    rw [hunits, ← Nat.zero_add (whole name).units.length]
    refine lastPositionFrom?_append (fun hmem ↦ ?_) _ 0
    rcases List.mem_append.mp hmem with hmem | hmem
    · exact hhash hmem
    · cases returns <;> exact absurd hmem (by decide)
  have hname : (whole (name ++ (Member.method arity returns).tag)).slice 0
      (whole name).units.length = whole name := by
    rw [slice, hunits, List.drop_zero, Nat.sub_zero, List.take_left, ofUnits_units]
  have hreturns : ((whole (name ++ (Member.method arity returns).tag)).units.getLast? ==
      some 's'.toNat) = returns := by
    rw [hunits, List.getLast?_append_cons]
    cases returns with
    | true => exact beq_iff_eq.mpr (List.getLast?_concat (l := '#'.toNat :: number))
    | false =>
      have hnumber : number ++ (whole (answerMark false)).units = number := List.append_nil _
      rw [hnumber, beq_eq_false_iff_ne]
      intro heq
      rcases List.mem_cons.mp (List.mem_of_getLast? heq) with hmem | hmem
      · exact absurd hmem (by decide)
      · exact hmark hmem
  rw [calledBy, hlast]
  exact Prod.ext hname hreturns

end Script

end ScriptBridge
