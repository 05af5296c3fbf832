-- Compiling a directory of source trees: load the trees, check and lower them, render the
-- modules and write them.
import Watchtower.FileTree
import Watchtower.Rendering.Files
import Watchtower.Report
import Watchtower.Source.Reader

namespace Watchtower

open Source (SourceUnit)

/-- What to compile, and how. -/
structure Settings where
  input : String := "monitors"
  output : String := "src/generated"
  /-- The package of the trees that declare none. -/
  package : Option String := none
  skipValidation : Bool := false
  emitManifest : Bool := true
deriving DecidableEq, Repr

namespace Compilation

/-! ## Loading -/

/-- The file holds a source tree, by its name: the extension is `json`, something stands before
it, and it is not a manifest. -/
def isSource (name : String) : Bool :=
  name != manifestFile && name != ".json" && Text.endsWith name ".json"

/-- A path below a directory, as it is shown. -/
def shownPath (dir : String) (path : List String) : String :=
  if path.isEmpty then dir
  else (if Text.endsWith dir "/" then dir else dir ++ "/") ++ Text.join "/" path

/-- The source trees at the input, with the paths that are shown for them. -/
def sources (tree : FileTree) (input : String) : List (String × Option String) :=
  let names := FileTree.components input
  match tree.get? names with
  | none => []
  | some found => found.files.filterMap fun (path, text) =>
    if isSource ((path.getLast?.or names.getLast?).getD "") then some (shownPath input path, text)
    else none

/-- Reads one source tree. -/
def readUnit (path : String) : Option String → Except Rejection SourceUnit
  | none => .error (.unreadable path)
  | some text =>
    match SourceUnit.ofText? text with
    | none => .error (.invalidTree path)
    | some unit => .ok unit

/-- A unit with a package for the case that it declares none. -/
def inPackage (package : Option String) (unit : SourceUnit) : SourceUnit :=
  { unit with package := unit.package.or package }

/-- Loads the source trees at the input. -/
def load (tree : FileTree) (settings : Settings) : Except Rejection (List SourceUnit) := do
  let found := sources tree settings.input
  if found.isEmpty then .error (.noSourceTrees settings.input)
  let units ← found.mapM fun (path, text) => readUnit path text
  return units.map (inPackage settings.package)

/-- Loads the source trees and lowers them. -/
def lower (tree : FileTree) (settings : Settings) : Except Rejection Report := do
  return Report.ofUnits (← load tree settings) (!settings.skipValidation)

/-! ## Checking and compiling -/

/-- The blueprint is a namespace. -/
def isSpace (b : Blueprint) : Bool :=
  match b.kind with
  | .namespaceProxy .. => true
  | _ => false

/-- What a compilation made. -/
structure Result where
  monitors : Nat
  spaces : Nat
  /-- The paths of the files that were written. -/
  files : List String
  failures : List LoweringFailure

/-- Lowers the source trees and renders the accepted declarations. -/
def render (tree : FileTree) (settings : Settings) (generatedAt : String) :
    Except Rejection (List GeneratedFile × Result) := do
  let report ← lower tree settings
  let bs := report.blueprints
  let manifest := if settings.emitManifest then some (Manifest.ofBlueprints generatedAt bs) else none
  match Rendering.files bs manifest with
  | .error flaw => .error (.notRendered flaw)
  | .ok files =>
    return (files, {
      monitors := bs.countP Rendering.isMonitor
      spaces := bs.countP isSpace
      files := files.map (·.path)
      failures := report.failures })

/-- Compiles the source trees. The tree is what the disk holds afterwards. -/
def run (tree : FileTree) (settings : Settings) (generatedAt : String) :
    FileTree × Except Rejection Result :=
  match render tree settings generatedAt with
  | .error rejection => (tree, .error rejection)
  | .ok (files, result) =>
    let output := FileTree.components settings.output
    match tree.makeDir? output with
    | none => (tree, .error (.unreadable settings.output))
    | some tree =>
      match FileTree.writeAll output (files.map fun f => (f.path, f.content)) tree with
      | (tree, some path) => (tree, .error (.unreadable path))
      | (tree, none) => (tree, .ok result)

/-- Lowers the source trees without writing anything. -/
def check (tree : FileTree) (settings : Settings) (generatedAt : String) :
    Except Rejection (Report × Manifest) := do
  let report ← lower tree settings
  return (report, Manifest.ofBlueprints generatedAt report.blueprints)

/-- Loads the manifest at a path, if there is something there. -/
def loadManifest (tree : FileTree) (path : String) : Except Rejection (Option Manifest) :=
  match tree.get? (FileTree.components path) with
  | none => .ok none
  | some (.file (some text)) =>
    match Manifest.ofText? text with
    | some manifest => .ok (some manifest)
    | none => .error (.unreadable path)
  | some _ => .error (.unreadable path)

end Compilation

end Watchtower
