/-!
# Amendments

Rules by which an object amends the fragments of its stub. A rule is for the fragments of one key,
or for all; the rules of a list apply one after the other.
-/

namespace ScriptBridge

/-- How a rule changes a fragment. -/
inductive AmendmentMode where
  /-- Puts text before the fragment. -/
  | before
  /-- Puts text after it. -/
  | after
  /-- Puts text in its place. -/
  | replace
  deriving DecidableEq, Repr

/-- A rule that changes fragments. -/
structure Amendment where
  /-- The key of the fragments it is for; a star stands for all keys. -/
  key : String
  mode : AmendmentMode
  text : String
  deriving DecidableEq, Repr

namespace Amendment

/-- Whether a rule is for fragments of a key. -/
def appliesTo (rule : Amendment) (key : String) : Bool := rule.key = "*" ∨ rule.key = key

/-- Changes a fragment. -/
def apply (rule : Amendment) (fragment : String) : String :=
  match rule.mode with
  | .before => rule.text ++ fragment
  | .after => fragment ++ rule.text
  | .replace => rule.text

/-- Applies rules to a fragment of a key, in order. -/
def applyAll (rules : List Amendment) (key fragment : String) : String :=
  rules.foldl (fun fragment rule => if rule.appliesTo key then rule.apply fragment else fragment)
    fragment

end Amendment

end ScriptBridge
