import ScriptBridge.Content.FileSystem

/-!
# Arguments of the command line

One script, and options with values: `--name value`, `--name=value`, `-s value`, `-svalue` and
`-s=value`. Two dashes end the options. A value given apart from its option may not look like an
option. An option may be given once. Asking for help or the version ends the reading, faults to the
left of it apart.
-/

namespace ScriptBridge.CommandLine

/-- What a command line asks for. -/
structure Options where
  script : String
  settings : Option String := none
  place : String := FileSystem.defaultPlace
  root : Option String := none
  deriving DecidableEq, Repr

/-- How the reading of a command line ends. -/
inductive Request where
  | run (options : Options)
  | help
  | version
  /-- The command line is not understood. -/
  | misuse
  deriving DecidableEq, Repr

/-- The options that take values. -/
inductive OptionName where
  | settings
  | place
  | root
  deriving DecidableEq, Repr

namespace OptionName

/-- The option of a long name. -/
def ofLong? : String → Option OptionName
  | "settings" => some .settings
  | "fs-namespace" => some .place
  | "root" => some .root
  | _ => none

/-- Whether an option admits a value. A path is not empty. -/
def admits : OptionName → String → Bool
  | .place, _ => true
  | _, value => value ≠ ""

end OptionName

/-- What has been read of a command line. -/
structure Given where
  script : Option String := none
  values : List (OptionName × String) := []

namespace Given

/-- Takes the value of an option, which may be given once. -/
def option? (given : Given) (name : OptionName) (value : String) : Option Given :=
  if (given.values.lookup name).isSome ∨ ¬ name.admits value then none
  else some { given with values := (name, value) :: given.values }

/-- Takes an argument that is no option: the script, of which there is one. -/
def positional? (given : Given) (value : String) : Option Given :=
  if given.script.isSome ∨ value = "" then none else some { given with script := some value }

/-- What the command line asks for, now that all of it has been read. -/
def request (given : Given) : Request :=
  match given.script with
  | none => .misuse
  | some script =>
    .run {
      script
      settings := given.values.lookup .settings
      place := (given.values.lookup .place).getD FileSystem.defaultPlace
      root := given.values.lookup .root }

end Given

/-- What an argument is. -/
inductive Argument where
  | positional (value : String)
  | endOfOptions
  | help
  | version
  /-- An option, with its value if that is part of the argument. -/
  | option (name : OptionName) (value : Option String)
  | unknown

/-- A text up to an equals sign, and what follows the sign. -/
def splitAtEquals : List Char → List Char × Option (List Char)
  | [] => ([], none)
  | '=' :: rest => ([], some rest)
  | c :: rest =>
    let (name, value) := splitAtEquals rest
    (c :: name, value)

namespace Argument

/-- An option of a long name, given without the dashes. -/
def ofLong (text : List Char) : Argument :=
  let (name, value) := splitAtEquals text
  match String.ofList name, value with
  | "help", none => .help
  | "version", none => .version
  | name, value =>
    match OptionName.ofLong? name with
    | some name => .option name (value.map String.ofList)
    | none => .unknown

/-- Options of short names, given without the dash. -/
def ofShort : List Char → Argument
  | 'h' :: _ => .help
  | 'V' :: _ => .version
  | ['s'] => .option .settings none
  | 's' :: '=' :: rest => .option .settings (some (String.ofList rest))
  | 's' :: rest => .option .settings (some (String.ofList rest))
  | _ => .unknown

/-- What an argument is, before the end of the options. -/
def ofString (text : String) : Argument :=
  match text.toList with
  | ['-', '-'] => .endOfOptions
  | '-' :: '-' :: rest => ofLong rest
  | ['-'] => .positional text
  | '-' :: rest => ofShort rest
  | _ => .positional text

end Argument

/-- Reads arguments that are no options. -/
def readPositionals (given : Given) : List String → Request
  | [] => given.request
  | value :: rest =>
    match given.positional? value with
    | none => .misuse
    | some given => readPositionals given rest

/-- Reads arguments. -/
def readFrom (given : Given) : List String → Request
  | [] => given.request
  | argument :: rest =>
    match Argument.ofString argument with
    | .help => .help
    | .version => .version
    | .unknown => .misuse
    | .endOfOptions => readPositionals given rest
    | .positional value =>
      match given.positional? value with
      | none => .misuse
      | some given => readFrom given rest
    | .option name (some value) =>
      match given.option? name value with
      | none => .misuse
      | some given => readFrom given rest
    | .option name none =>
      match rest with
      | [] => .misuse
      | value :: rest =>
        match Argument.ofString value with
        | .positional value =>
          match given.option? name value with
          | none => .misuse
          | some given => readFrom given rest
        | _ => .misuse

/-- Reads a command line. -/
def Request.ofArguments (arguments : List String) : Request := readFrom {} arguments

end ScriptBridge.CommandLine
