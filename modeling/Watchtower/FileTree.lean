-- Trees of files: what a command reads from a disk, and what it writes there.
import Watchtower.Sorted
import Watchtower.Text.Split

namespace Watchtower

/-- A file, or a directory with its entries sorted by name. A file has no text when its bytes
are not UTF-8. -/
inductive FileTree where
  | file (text : Option String)
  | dir (entries : List (String × FileTree))

namespace FileTree

/-- The names that a path consists of. -/
def components (path : String) : List String :=
  ((Text.split (· == '/') path).foldl (fun names name =>
    if name = "" ∨ name = "." then names
    else if name = ".." then names.drop 1
    else name :: names) []).reverse

/-- The tree at a path. -/
def get? : List String → FileTree → Option FileTree
  | [], tree => some tree
  | _ :: _, .file _ => none
  | name :: path, .dir entries => (entries.lookup name).bind (get? path)

/-- There is something at a path. -/
def has (tree : FileTree) (path : List String) : Bool :=
  (tree.get? path).isSome

/-- A name that a file system takes: at most 255 bytes, none of them zero. -/
def isName (name : String) : Bool :=
  name.utf8ByteSize ≤ 255 && !name.toList.contains '\x00'

/-- Makes a directory and those that lead to it, unless there is a file in the way. -/
def makeDir? : List String → FileTree → Option FileTree
  | _, .file _ => none
  | [], .dir entries => some (.dir entries)
  | name :: path, .dir entries =>
    if isName name then
      (makeDir? path ((entries.lookup name).getD (.dir []))).map fun child =>
        .dir (Sorted.insert name child entries)
    else none

/-- Writes a file into a directory that is there. -/
def write? (content : Option String) : List String → FileTree → Option FileTree
  | name :: path, .dir entries =>
    match path with
    | [] =>
      match entries.lookup name with
      | some (.dir _) => none
      | _ =>
        if isName name then some (.dir (Sorted.insert name (.file content) entries)) else none
    | _ :: _ =>
      ((entries.lookup name).bind (write? content path)).map fun child =>
        .dir (Sorted.insert name child entries)
  | _, _ => none

mutual

/-- The files of a tree with their paths, in the order of a walk: siblings by name, and each
directory before what comes after it. -/
def files : FileTree → List (List String × Option String)
  | .file text => [([], text)]
  | .dir entries => entryFiles entries

/-- The files of the entries of a directory. -/
def entryFiles : List (String × FileTree) → List (List String × Option String)
  | [] => []
  | (name, tree) :: rest =>
    (files tree).map (fun (path, text) => (name :: path, text)) ++ entryFiles rest

end

/-- Writes files below a directory one after the other, and makes the directories they need.
The tree is what was written before the first failure, which is given by its path. -/
def writeAll (below : List String) : List (String × String) → FileTree → FileTree × Option String
  | [], tree => (tree, none)
  | (path, content) :: rest, tree =>
    let names := below ++ components path
    match tree.makeDir? names.dropLast with
    | none => (tree, some path)
    | some tree =>
      match tree.write? (some content) names with
      | none => (tree, some path)
      | some tree => writeAll below rest tree

end FileTree

end Watchtower
