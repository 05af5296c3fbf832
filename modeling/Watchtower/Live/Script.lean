-- Scripts: user code as a list of actions on its own monitor. A script ends with the first
-- action that fails.
import Watchtower.Live.Monitor

namespace Watchtower.Live

/-- An action of a script. -/
inductive Action where
  | note (value : Json)
  | fail (text : String)
  | crash
  | subscribe (event handler : String)
  /-- Write a variable of the monitor, and note what it held. -/
  | assign (name : String) (value : Json)
  /-- Add one to a variable of the monitor. What is no integer counts as zero. -/
  | increment (name : String)
  /-- Write a variable of a namespace, and note what it held. -/
  | write (path name : String) (value : Json)
  /-- Read a variable of a namespace, and note what it holds. -/
  | read (path name : String)
  | pause
  | resume

namespace Action

/-- The integer that a value counts as. -/
def countOf : Json → Int
  | .num (.int n) => if -9223372036854775808 ≤ n ∧ n ≤ 9223372036854775807 then n else 0
  | _ => 0

/-- The body that goes to a namespace by a path with dots, and on from there. -/
def reaching (monitor : Nat) (path : String) (next : String → List String → Body) : Body :=
  match Text.dotted path with
  | [] => .done
  | root :: rest => .request (.reaches monitor root rest) fun
    | .bool true => next root rest
    | _ => .fail (.user "no child")

/-- The body of an action of a monitor, and of what follows it. Notes stand under `who`. -/
def body (who : String) (monitor : Nat) (next : Body) : Action → Body
  | .note value => .note who (.value value) next
  | .fail text => .fail (.user text)
  | .crash => .crash
  | .subscribe event handler => .request (.subscribe monitor event handler) fun _ => next
  | .assign name value => .request (.assign monitor name value) fun previous =>
    .note who (.value previous) next
  | .increment name => .request (.recall monitor name) fun value =>
    .request (.assign monitor name (.ofInt (countOf value + 1))) fun _ => next
  | .write path name value => reaching monitor path fun root rest =>
    .request (.set monitor root rest name value) fun previous => .note who (.value previous) next
  | .read path name => reaching monitor path fun root rest =>
    .request (.get monitor root rest name) fun value => .note who (.value value) next
  | .pause => .request (.pause monitor) fun _ => next
  | .resume => .request (.resume monitor) fun _ => next

/-- The body of a script of a monitor. -/
def script (who : String) (monitor : Nat) (actions : List Action) : Body :=
  actions.foldr (fun action next => action.body who monitor next) .done

/-! ## Scripts as JSON -/

/-- An action that is written as a list, with its name first. -/
def ofJson? : Json → Option Action
  | .arr (.str "log" :: rest) => some (.note (rest.headD .null))
  | .arr [.str "fail", .str text] => some (.fail text)
  | .arr [.str "panic"] => some .crash
  | .arr [.str "subscribe", .str event, .str handler] => some (.subscribe event handler)
  | .arr (.str "set" :: .str name :: rest) => some (.assign name (rest.headD .null))
  | .arr [.str "incr", .str name] => some (.increment name)
  | .arr (.str "nset" :: .str path :: .str name :: rest) =>
    some (.write path name (rest.headD .null))
  | .arr [.str "nget", .str path, .str name] => some (.read path name)
  | .arr [.str "pause"] => some .pause
  | .arr [.str "resume"] => some .resume
  | _ => none

/-- The script under a name of a monitor. -/
def scriptAt? (scripts : Json) (monitor name : String) : Option (List Action) := do
  match ← (← scripts.get? monitor).get? name with
  | .arr actions => return actions.filterMap ofJson?
  | _ => return []

/-- An outcome: a value under `ok`, or the text of a fault of the user under `err`. -/
def outcome? (value : Json) : Option (Except Fault Json) :=
  match value.get? "ok", value.get? "err" with
  | some result, _ => some (.ok result)
  | none, some (.str text) => some (.error (.user text))
  | _, _ => none

/-- The bindings of scripts for code blocks and handlers, and of outcomes for values. A script
first notes that it runs, or what it was given. -/
def bindings (code handlers values : Json) : Bindings :=
  { code := fun monitor index => do
      let actions ← scriptAt? code monitor (toString index)
      let who := monitor ++ ".code_" ++ toString index
      return fun number => .note who (.value (.str "run")) (script who number actions)
    handler := fun monitor handler => do
      let actions ← scriptAt? handlers monitor handler
      let who := monitor ++ "." ++ handler
      return fun number payload => .note who (.payload payload) (script who number actions)
    value := fun name => (values.get? name).bind outcome? }

end Action

end Watchtower.Live
