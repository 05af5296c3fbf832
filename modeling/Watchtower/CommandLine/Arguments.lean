-- The arguments of the command line.
import Watchtower.Compilation

namespace Watchtower.CommandLine

/-- What the user asks for. -/
inductive Command where
  | compile (settings : Settings)
  | check (settings : Settings)
  | watch (settings : Settings)
  /-- The help of a command, or of all of them. -/
  | help (command : Option String)
deriving DecidableEq, Repr

/-- An option of a command. A switch takes no value. -/
structure Switch where
  long : String
  short : Option Char
  takesValue : Bool
  /-- The value may be empty. -/
  mayBeEmpty : Bool := false

/-- The options of a command. -/
def switches : String → List Switch
  | "compile" => [⟨"input", some 'i', true, false⟩, ⟨"output", some 'o', true, false⟩,
      ⟨"package", some 'p', true, true⟩, ⟨"no-manifest", none, false, false⟩,
      ⟨"skip-validation", none, false, false⟩]
  | "check" => [⟨"input", some 'i', true, false⟩, ⟨"package", some 'p', true, true⟩]
  | _ => [⟨"input", some 'i', true, false⟩, ⟨"output", some 'o', true, false⟩,
      ⟨"package", some 'p', true, true⟩]

/-- The commands. -/
def commands : List String := ["compile", "check", "watch"]

/-- The options that were given, with their values. -/
abbrev Given := List (String × String)

/-- Why the options end: all were read, or help is wanted. -/
inductive Parsed where
  | given (options : Given)
  | help

/-- The text can be the value of an option: it does not look like an option itself. -/
def isValue (text : String) : Bool :=
  !Text.startsWith text "-" || text = "-"

/-- An argument that is an option: which one, and the value that stands in it. -/
def matchSwitch (known : List Switch) (arg : String) : Option (Switch × Option String) :=
  match arg.toList with
  | '-' :: '-' :: name =>
    let name := String.ofList name
    let long := (Text.split (· == '=') name).headD ""
    let value := if long = name then none
      else some (String.ofList (name.toList.drop (long.length + 1)))
    (known.find? (·.long = long)).map (·, value)
  | '-' :: short :: rest =>
    let value := match rest with
      | [] => none
      | '=' :: value => some (String.ofList value)
      | value => some (String.ofList value)
    (known.find? (·.short = some short)).map (·, value)
  | _ => none

/-- Adds an option, unless it was given before or its value is wrong. -/
def addOption (given : Given) (s : Switch) (value : String) : Option Given :=
  if (given.lookup s.long).isSome then none
  else if s.takesValue && !s.mayBeEmpty && value.isEmpty then none
  else some (given ++ [(s.long, value)])

/-- Reads the options of a command. An option that waits for its value takes the next
argument. -/
def readOptions (known : List Switch) (given : Given) :
    (waiting : Option Switch) → List String → Option Parsed
  | none, [] => some (.given given)
  | some _, [] => none
  | some s, arg :: rest =>
    if isValue arg then
      match addOption given s arg with
      | none => none
      | some given => readOptions known given none rest
    else none
  | none, arg :: rest =>
    if arg = "-h" ∨ arg = "--help" then some .help
    else if arg = "--" then if rest.isEmpty then some (.given given) else none
    else
      match matchSwitch known arg with
      | none => none
      | some (s, value) =>
        if s.takesValue && value.isNone then readOptions known given (some s) rest
        else if !s.takesValue && value.isSome then none
        else
          match addOption given s (value.getD "") with
          | none => none
          | some given => readOptions known given none rest

/-- The settings that options stand for. -/
def settingsOf (given : Given) : Settings :=
  let base : Settings := {}
  { input := (given.lookup "input").getD base.input
    output := (given.lookup "output").getD base.output
    package := given.lookup "package"
    skipValidation := (given.lookup "skip-validation").isSome
    emitManifest := (given.lookup "no-manifest").isNone }

/-- Reads the arguments, if they make sense. -/
def parse? : List String → Option Command
  | [] => none
  | name :: rest =>
    if name = "-h" ∨ name = "--help" then some (.help none)
    else if name = "help" then
      match rest with
      | [] => some (.help none)
      | [command] =>
        if commands.contains command then some (.help (some command))
        else if command = "help" then some (.help (some command))
        else none
      | _ => none
    else if commands.contains name then
      match readOptions (switches name) [] none rest with
      | none => none
      | some .help => some (.help (some name))
      | some (.given given) =>
        let settings := settingsOf given
        if name = "compile" then some (.compile settings)
        else if name = "check" then some (.check { settings with output := "" })
        else some (.watch settings)
    else none

end Watchtower.CommandLine
