-- Running a command on a tree of files.
import Watchtower.CommandLine.Screen

namespace Watchtower.CommandLine

/-- What a command leaves behind. -/
structure Outcome where
  exit : Nat
  lines : List String
  tree : FileTree
  /-- The rejections that are explained to the user. -/
  rejections : List Rejection := []

/-- The exit code of a command with these failures. -/
def exitOf (failures : List LoweringFailure) : Nat := if failures.isEmpty then 0 else 1

/-- Runs a command. The texts for the time of the manifest and for the milliseconds of a
compilation are given. -/
def run (command : Option Command) (tree : FileTree) (generatedAt elapsed : String) : Outcome :=
  match command with
  | none => { exit := 2, lines := [], tree }
  | some (.help topic) => { exit := 0, lines := helpLines topic, tree }
  | some (.compile settings) =>
    match Compilation.run tree settings generatedAt with
    | (tree, .error rejection) =>
      { exit := 1, lines := ["", errorLine "Hold up.", ""], tree, rejections := [rejection] }
    | (tree, .ok result) =>
      { exit := exitOf result.failures, lines := compileLines settings result elapsed, tree
        rejections := result.failures.map (·.rejection) }
  | some (.check settings) =>
    match Compilation.check tree settings generatedAt with
    | .error rejection =>
      { exit := 1, lines := ["", errorLine "Nope.", ""], tree, rejections := [rejection] }
    | .ok (report, manifest) =>
      { exit := exitOf report.failures, lines := checkLines report manifest, tree
        rejections := report.failures.map (·.rejection) }
  | some (.watch settings) =>
    { exit := 1, lines := [infoLine ("Watching for changes in " ++ settings.input), ""], tree }

end Watchtower.CommandLine
