-- The lines that commands show.
import Watchtower.CommandLine.Arguments
import Watchtower.Text.Width

namespace Watchtower.CommandLine

/-- A success. -/
def successLine (text : String) : String := "  ◉ " ++ text

/-- A failure. -/
def errorLine (text : String) : String := "  ◆ " ++ text

/-- A note. -/
def infoLine (text : String) : String := "  ◇ " ++ text

/-- The top of a box. -/
def boxHeader (title : String) : String :=
  let padded := " " ++ title ++ " "
  "  ╭─" ++ padded ++ Text.times (55 - min padded.length 51 - 4) "─" ++ "╮"

/-- A line of a box. -/
def boxLine (content : String) : String := "  │ " ++ Text.padToWidth 53 content ++ "│"

/-- The bottom of a box. -/
def boxFooter : String := "  ╰" ++ Text.times 53 "─" ++ "╯"

/-- The line of a monitor. -/
def monitorLine (name : String) (entry : MonitorEntry) : String :=
  boxLine ("▸ " ++ Text.padToLength 24 name ++ " " ++ toString entry.events.length ++ " events  "
    ++ toString entry.handlers.length ++ " handlers")

/-- The line of a binding. -/
def bindingLine (b : Binding) : String :=
  boxLine (b.exchange ++ "/" ++ b.routingKey ++ " ─▸ " ++ b.queue)

/-- The boxes of a manifest: its monitors, and its bindings if there are any. -/
def manifestLines (m : Manifest) : List String :=
  let bindings := m.bindings
  [boxHeader "MONITORS", boxLine ""]
    ++ m.monitors.map (fun (name, entry) => monitorLine name entry) ++ [boxLine "", boxFooter]
    ++ if bindings.isEmpty then []
      else ["", boxHeader "BINDINGS", boxLine ""] ++ bindings.map bindingLine
        ++ [boxLine "", boxFooter]

/-- The lines of the rejected declarations. -/
def failureLines (failures : List LoweringFailure) : List String :=
  if failures.isEmpty then []
  else "" :: failures.map fun f => errorLine (f.declaration ++ " was rejected")

/-- The lines of the files that were written below a directory. -/
def treeLines (dir : String) (files : List String) : List String :=
  ("  ▸ " ++ dir ++ "/") :: (files.dropLast.map fun file => "     ├──  " ++ file)
    ++ files.getLast?.toList.map fun file => "     ╰──  " ++ file

/-- The lines of a compilation that took `elapsed` milliseconds. -/
def compileLines (settings : Settings) (result : Compilation.Result) (elapsed : String) :
    List String :=
  [successLine (toString result.monitors ++ " monitor(s) · " ++ toString result.spaces
    ++ " namespace(s) · " ++ toString result.files.length ++ " file(s)"), ""]
    ++ treeLines settings.output result.files
    ++ ["", infoLine ("Done in " ++ elapsed ++ "ms")] ++ failureLines result.failures

/-- The lines of a check. -/
def checkLines (report : Report) (manifest : Manifest) : List String :=
  (if report.isClean then [successLine "Looking good."] else ["", errorLine "Nope.", ""])
    ++ [""] ++ manifestLines manifest ++ failureLines report.failures

/-- The lines of a help, for a command or for all. -/
def helpLines : Option String → List String
  | none => [
      "Vigil compiler - lowers monitor declarations to Rust", "",
      "Usage: vigil <COMMAND>", "",
      "Commands:",
      "  compile  Compile source trees to Rust modules",
      "  check    Validate and lower source trees without writing anything",
      "  watch    Watch source trees and recompile on change",
      "  help     Print this message or the help of the given subcommand(s)", "",
      "Options:",
      "  -h, --help  Print help"]
  | some "compile" => [
      "Compile source trees to Rust modules", "",
      "Usage: vigil compile [OPTIONS]", "",
      "Options:",
      "  -i, --input <INPUT>      Directory of JSON source trees [default: monitors]",
      "  -o, --output <OUTPUT>    Output directory for generated Rust code [default: src/generated]",
      "  -p, --package <PACKAGE>  Package for source trees that declare none",
      "      --no-manifest        Do not write the routing manifest",
      "      --skip-validation    Skip structural validation",
      "  -h, --help               Print help"]
  | some "check" => [
      "Validate and lower source trees without writing anything", "",
      "Usage: vigil check [OPTIONS]", "",
      "Options:",
      "  -i, --input <INPUT>      Directory of JSON source trees [default: monitors]",
      "  -p, --package <PACKAGE>  Package for source trees that declare none",
      "  -h, --help               Print help"]
  | some "watch" => [
      "Watch source trees and recompile on change", "",
      "Usage: vigil watch [OPTIONS]", "",
      "Options:",
      "  -i, --input <INPUT>      Directory of JSON source trees [default: monitors]",
      "  -o, --output <OUTPUT>    Output directory for generated Rust code [default: src/generated]",
      "  -p, --package <PACKAGE>  Package for source trees that declare none",
      "  -h, --help               Print help"]
  | some _ => [
      "Print this message or the help of the given subcommand(s)", "",
      "Usage: vigil help [COMMAND]...", "",
      "Arguments:",
      "  [COMMAND]...  Print help for the subcommand(s)"]

end Watchtower.CommandLine
