-- The program: reads the files that a command needs, runs the command on them, and writes what
-- it has changed.
import Std.Time.DateTime.Timestamp
import Watchtower.CommandLine.Run
import Watchtower.Event.Time

namespace Watchtower.Main

/-- Reads what is at a path. -/
partial def readTree (path : String) : IO (Option FileTree) := do
  let place := (← IO.currentDir) / path
  if ← place.isDir then
    let entries ← (← place.readDir).toList.filterMapM fun entry => do
      return (← readTree entry.path.toString).map (entry.fileName, ·)
    return some (.dir (Sorted.ofList entries))
  else if ← place.pathExists then
    return some (.file (String.fromUTF8? (← IO.FS.readBinFile place)))
  else return none

/-- A tree with what is at some paths. -/
def readAll (paths : List String) : IO FileTree :=
  paths.foldlM (fun tree path => do
    let names := FileTree.components path
    match ← readTree path with
    | some (.file text) => return ((tree.makeDir? names.dropLast).bind (·.write? text names)).getD tree
    | some (.dir entries) =>
      let files := FileTree.entryFiles entries
      let made := (tree.makeDir? names).getD tree
      return files.foldl (fun tree (below, text) =>
        let inner := names ++ below
        ((tree.makeDir? inner.dropLast).bind (·.write? text inner)).getD tree) made
    | none => return tree) (.dir [])

/-- Writes the files below a path that differ from what was there. -/
def writeChanged (path : String) (before after : FileTree) : IO Unit := do
  let names := FileTree.components path
  let old := (before.get? names).map FileTree.files |>.getD []
  let new := (after.get? names).map FileTree.files |>.getD []
  for (below, text) in new do
    if let some text := text then
      if !old.contains (below, some text) then
        let place := (← IO.currentDir) / path / Text.join "/" below
        if let some dir := place.parent then IO.FS.createDirAll dir
        IO.FS.writeFile place text

/-- The directories that a command reads and writes. -/
def placesOf : Option CommandLine.Command → List String
  | some (.compile settings) => [settings.input, settings.output]
  | some (.check settings) => [settings.input]
  | _ => []

/-- The present time as a manifest shows it. -/
def now : IO String := do
  let nanos := (← Std.Time.Timestamp.now).toNanosecondsSinceUnixEpoch.toInt
  let time : Timestamp := ⟨nanos / 1000000000, (nanos % 1000000000).toNat⟩
  return String.ofList time.text.toList.dropLast ++ "+00:00"

/-- Explains a rejection. -/
def explain (r : Rejection) : IO Unit := do
  IO.eprintln (r.code ++ ": " ++ r.message)
  if let some help := r.help then IO.eprintln ("  help: " ++ help)

/-- Runs the command that the arguments ask for. -/
def run (args : List String) : IO UInt32 := do
  let command := CommandLine.parse? args
  let start ← IO.monoMsNow
  let before ← readAll (placesOf command)
  let generatedAt ← now
  let elapsed := toString ((← IO.monoMsNow) - start)
  let outcome := CommandLine.run command before generatedAt elapsed
  if let some (.compile settings) := command then
    writeChanged settings.output before outcome.tree
  outcome.lines.forM IO.println
  outcome.rejections.forM explain
  return outcome.exit.toUInt32

end Watchtower.Main

/-- The program. -/
def main (args : List String) : IO UInt32 :=
  Watchtower.Main.run args
