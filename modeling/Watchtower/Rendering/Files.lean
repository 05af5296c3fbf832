-- The files that are generated from blueprints: a module for each monitor and each root
-- namespace, the indexes of the modules, and the manifest.
import Watchtower.Manifest.Codec
import Watchtower.Rendering.Module

namespace Watchtower

/-- The file name of the manifest. -/
def manifestFile : String := "vigil.manifest.json"

/-- A generated file. -/
structure GeneratedFile where
  path : String
  /-- The file is a module of a declaration, not one of the indexes or the manifest. -/
  primary : Bool
  content : String
deriving DecidableEq, Repr

namespace Rendering

/-- The title of the indexes. -/
def indexTitle : List String := ["//! Generated by vigil. Do not edit.", ""]

/-- The lines that declare modules and their types. -/
def moduleLines (types : List String) : List String × List String :=
  (types.map fun type => "pub mod " ++ Naming.snake type ++ ";",
    types.map fun type => "pub use " ++ Naming.snake type ++ "::" ++ type ++ ";")

/-- Lines with an empty one behind them, unless there are none. -/
def paragraph (lines : List String) : List String :=
  if lines.isEmpty then [] else lines ++ [""]

/-- The index of all modules. -/
def rootIndex : String :=
  unlines (indexTitle ++ ["pub mod monitors;", "pub mod namespaces;"])

/-- The index of the monitors. -/
def monitorIndex (types : List String) : String :=
  let (modules, uses) := moduleLines types
  unlines (indexTitle ++ ["use std::sync::Arc;", "", "use vigil_runtime::prelude::*;", ""]
    ++ paragraph modules ++ paragraph uses
    ++ ["/// Instantiates every monitor against `context`.",
      "pub fn instantiate(context: &RuntimeContext) -> Vec<Arc<dyn Monitor>> \x7b", "    vec!["]
    ++ types.map (fun type => "        " ++ type ++ "::new(context) as Arc<dyn Monitor>,")
    ++ ["    ]", "\x7d"])

/-- The index of the namespaces. -/
def spaceIndex (types : List String) : String :=
  let (modules, uses) := moduleLines types
  unlines (indexTitle ++ paragraph modules ++ uses)

/-- The path and the lines of the module of a blueprint. -/
def moduleOf (b : Blueprint) : Except RenderFlaw (String × List String) :=
  let file := Naming.snake b.name ++ ".rs"
  match b.kind with
  | .monitor => do return ("monitors/" ++ file, ← monitorLines b)
  | .namespaceProxy .. => do return ("namespaces/" ++ file, ← spaceLines b)
  | _ => .error (.notTopLevel b.qualifiedName)

/-- The modules of blueprints, given the paths that are taken. -/
def modulesFrom (taken : List String) : List Blueprint → Except RenderFlaw (List GeneratedFile)
  | [] => .ok []
  | b :: rest => do
    let (path, lines) ← moduleOf b
    if taken.contains path then .error (.moduleTaken b.qualifiedName path)
    let others ← modulesFrom (path :: taken) rest
    return ⟨path, true, unlines lines⟩ :: others

/-- The blueprint is a monitor. -/
def isMonitor (b : Blueprint) : Bool := b.kind == .monitor

/-- The files of blueprints, with the text of the manifest if there is to be one. -/
def files (bs : List Blueprint) (manifest : Option Manifest) :
    Except RenderFlaw (List GeneratedFile) := do
  let modules ← modulesFrom [] bs
  let monitors := (bs.filter isMonitor).map (·.name)
  let spaces := (bs.filter (!isMonitor ·)).map (·.name)
  return modules
    ++ [⟨"mod.rs", false, rootIndex⟩, ⟨"monitors/mod.rs", false, monitorIndex monitors⟩,
      ⟨"namespaces/mod.rs", false, spaceIndex spaces⟩]
    ++ manifest.toList.map fun m => ⟨manifestFile, false, m.toJson.pretty⟩

end Rendering

end Watchtower
