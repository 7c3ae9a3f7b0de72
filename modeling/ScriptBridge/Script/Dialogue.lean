/-!
# Dialogues

What text that runs on the script side says to native code. It posts messages, and it asks for
expressions and goes on with the answers; in the end it has a result. A message has a name and the
text of a body, which may be missing.

A dialogue is data, so that what becomes of the messages is left to whoever reads it.
-/

namespace ScriptBridge.Script

/-- A dialogue with native code. -/
inductive Dialogue (α : Type) where
  | done (result : α)
  /-- Posts a message and goes on. -/
  | post (name : String) (body : Option String) (next : Unit → Dialogue α)
  /-- Posts a message and goes on with the expression that answers it. -/
  | ask (name : String) (body : Option String) (next : String → Dialogue α)

namespace Dialogue

variable {α β : Type}

/-- Goes on with the result of a dialogue. -/
protected def bind : Dialogue α → (α → Dialogue β) → Dialogue β
  | .done result, f => f result
  | .post name body next, f => .post name body fun () => (next ()).bind f
  | .ask name body next, f => .ask name body fun answer => (next answer).bind f

instance : Monad Dialogue where
  pure := .done
  bind := .bind

/-- The result of a dialogue with nobody, whose questions are all answered alike. -/
def alone (answer : String) : Dialogue α → α
  | .done result => result
  | .post _ _ next => (next ()).alone answer
  | .ask _ _ next => (next answer).alone answer

end Dialogue

end ScriptBridge.Script
