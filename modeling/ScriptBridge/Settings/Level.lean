/-!
# Log levels

How much a log shows. Levels are named in any case or numbered from the least talkative.
-/

namespace ScriptBridge

/-- The importance of a log line. -/
inductive Level where
  | error
  | warn
  | info
  | debug
  | trace
  deriving DecidableEq, Repr, Inhabited

namespace Level

/-- The name of a level. -/
def name : Level → String
  | .error => "ERROR"
  | .warn => "WARN"
  | .info => "INFO"
  | .debug => "DEBUG"
  | .trace => "TRACE"

/-- How talkative a level is; also its number. -/
def rank : Level → Nat
  | .error => 1
  | .warn => 2
  | .info => 3
  | .debug => 4
  | .trace => 5

/-- All levels, from the least talkative. -/
def all : List Level := [.error, .warn, .info, .debug, .trace]

/-- Whether lines of a level are shown by a log of another level. -/
def shows (limit level : Level) : Bool := level.rank ≤ limit.rank

/-- A number of digits, with a plus or without. -/
def number? (text : String) : Option Nat :=
  let digits := match text.toList with
    | '+' :: rest => rest
    | chars => chars
  if digits.isEmpty then none
  else if digits.all fun c => '0' ≤ c ∧ c ≤ '9' then
    some (digits.foldl (fun n c => n * 10 + (c.toNat - '0'.toNat)) 0)
  else none

/-- The level that a text names, by number or by name in any case of the Latin letters. -/
def parse? (text : String) : Option Level :=
  match number? text with
  | some n => all.find? fun level => level.rank = n
  | none => all.find? fun level => level.name = text.toUpper

end Level

end ScriptBridge
