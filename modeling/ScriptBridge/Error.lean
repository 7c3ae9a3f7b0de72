/-!
# What can go wrong on the bridge

The failures that cross the bridge, their wording, and which of them concern whom: a *protocol
anomaly* is a message the native side has no answer for, and a failure that *surfaces* is thrown in
the calling script.
-/

namespace ScriptBridge

/-- A failure on the bridge. -/
inductive BridgeError where
  | alreadyBound (identifier : String)
  | emptyPlace
  | unknownMember (name : String)
  | readOnlyProperty (name : String)
  | arityMismatch (name : String) (expected got : Nat)
  | nativeFailure (text : String)
  | malformedMessage (reason : String)
  | unknownInstance (id : Int)
  | evaluation (text : String)
  | contextReleased
  | affinity (text : String)
  | settings (text : String)
  deriving DecidableEq, Repr, Inhabited

namespace BridgeError

/-- The wording of a failure. -/
def message : BridgeError → String
  | .alreadyBound identifier => "channel is already bound as '" ++ identifier ++ "'"
  | .emptyPlace => "plugin namespace must not be empty"
  | .unknownMember name => "unknown member '" ++ name ++ "'"
  | .readOnlyProperty name => "property '" ++ name ++ "' is read-only"
  | .arityMismatch name expected got =>
    "'" ++ name ++ "' takes at most " ++ toString expected ++ " argument(s), got " ++ toString got
  | .nativeFailure text => "native invocation failed: " ++ text
  | .malformedMessage reason => "malformed message: " ++ reason
  | .unknownInstance id => "no instance with id " ++ toString id
  | .evaluation text => "script evaluation failed: " ++ text
  | .contextReleased => "script context has been released"
  | .affinity text => "execution affinity unavailable: " ++ text
  | .settings text => "invalid settings: " ++ text

/-- Whether a message went to something the native side does not have. -/
def isAnomaly : BridgeError → Bool
  | .unknownMember _ | .readOnlyProperty _ | .malformedMessage _ | .unknownInstance _ => true
  | _ => false

/-- Whether the calling script gets to see the failure. -/
def surfaces : BridgeError → Bool
  | .nativeFailure _ | .arityMismatch _ _ _ | .affinity _ => true
  | _ => false

/-- A failure that native code reports on behalf of another one. -/
def wrapped (e : BridgeError) : BridgeError := .nativeFailure e.message

/-- No failure both is an anomaly and surfaces. -/
theorem surfaces_eq_false_of_isAnomaly {e : BridgeError} (h : e.isAnomaly = true) :
    e.surfaces = false := by
  cases e <;> simp_all [isAnomaly, surfaces]

end BridgeError

end ScriptBridge
