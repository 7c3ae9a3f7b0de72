import ScriptBridge.Error
import ScriptBridge.Json.Printer

/-!
# Messages and requests

A *message* is what a script sends: a name and, unless it sent nothing, a body. A *request* is a
message understood: the instance it is for, what it asks of it, and the operand. `Message.request?`
says which messages are requests and what is wrong with the others.
-/

namespace ScriptBridge

/-- A message as it arrives. -/
structure Message where
  /-- The name it was sent to. -/
  name : String
  /-- Its body, if it has one. -/
  body : Option Json
  deriving Inhabited

/-- A message understood. -/
structure Request where
  channel : String
  /-- The instance it is for; the principal is 0. -/
  target : Int
  /-- What it asks, as written. -/
  opcode : String
  operand : Option Json

/-- What an opcode asks. -/
inductive Opcode where
  | create
  | dispose
  | member (name : String)
  deriving DecidableEq, Repr

/-- The meaning of an opcode. -/
def Opcode.ofString : String → Opcode
  | "+" => .create
  | "-" => .dispose
  | name => .member name

/-- The key of the opcode. -/
def opcodeKey : String := "$opcode"

/-- The key of the target. -/
def targetKey : String := "$target"

/-- The key of the operand. -/
def operandKey : String := "$operand"

/-- Why a message is no request. -/
inductive Malformation where
  | noBody
  | notKeyed
  | noOpcode
  /-- The target is a number that is no signed word. -/
  | targetNotId (number : Json)
  | targetNotNumber (value : Json)
  /-- A creation at an id that scripts may not choose. -/
  | createAt (id : Int)

/-- The wording of a malformation. -/
def Malformation.reason : Malformation → String
  | .noBody => "undefined payload"
  | .notKeyed => "body is not a keyed mapping"
  | .noOpcode => "missing " ++ opcodeKey
  | .targetNotId number => targetKey ++ " " ++ number.print ++ " is not an instance id"
  | .targetNotNumber value => targetKey ++ " must be a number, got " ++ value.print
  | .createAt id => "cannot create an instance at id " ++ toString id

/-- The failure of a message that is no request. -/
def Malformation.error (m : Malformation) : BridgeError := .malformedMessage m.reason

/-- The target that a field gives. A missing one is the principal. -/
def Request.target? : Option Json → Except Malformation Int
  | none => .ok 0
  | some .null => .ok 0
  | some (.int n) => if fitsWord n then .ok n else .error (.targetNotId (.int n))
  | some (.float f) =>
    match (Binary64.ofFloat f).whole? with
    | some n => if fitsWord n then .ok n else .error (.targetNotId (.float f))
    | none => .error (.targetNotId (.float f))
  | some value => .error (.targetNotNumber value)

/-- Understands a message. Faults are looked for in the order body, opcode, target. -/
def Message.request? (message : Message) : Except Malformation Request := do
  let some body := message.body | .error .noBody
  let some fields := body.fields? | .error .notKeyed
  let some opcode := (Entries.find? opcodeKey fields).bind Json.string? | .error .noOpcode
  let target ← Request.target? (Entries.find? targetKey fields)
  return { channel := message.name, target, opcode, operand := Entries.find? operandKey fields }

end ScriptBridge
