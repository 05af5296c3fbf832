-- Why source trees are rejected: while they are loaded, checked, lowered, rendered or linked.
import Watchtower.Text.Split

namespace Watchtower

/-- Why a blueprint cannot be rendered. -/
inductive RenderFlaw where
  | notTopLevel (type : String)
  | moduleTaken (type path : String)
  | notMonitor (type : String)
  | notNamespace (type : String)
  | notProxy (type : String)
  | noStorage (type : String)
  | neverConnects (type : String)
  | noMethod (monitor method : String)
  | noInitializer (field owner : String)
  | unexpectedNested (type : String)
  | unexpectedStatement (type : String)
  /-- A call of the base that is neither a pause nor a resume. -/
  | baseCall (method : String)
  /-- A statement about the type itself in the body of a method. -/
  | typeLevel
deriving DecidableEq, Repr

/-- The text of a flaw. -/
def RenderFlaw.message : RenderFlaw → String
  | .notTopLevel type => "'" ++ type ++ "' is not a top-level type"
  | .moduleTaken type path =>
    "'" ++ type ++ "' maps to module " ++ path ++ ", which is already generated"
  | .notMonitor type => "'" ++ type ++ "' is not a monitor"
  | .notNamespace type => "'" ++ type ++ "' is not a namespace"
  | .notProxy type => "'" ++ type ++ "' is not a namespace proxy"
  | .noStorage type => "namespace '" ++ type ++ "' has no storage type"
  | .neverConnects type => "namespace '" ++ type ++ "' never connects to the store"
  | .noMethod monitor method => "monitor '" ++ monitor ++ "' has no " ++ method ++ " method"
  | .noInitializer field owner => "field '" ++ field ++ "' of '" ++ owner ++ "' has no initializer"
  | .unexpectedNested type => "unexpected nested type '" ++ type ++ "'"
  | .unexpectedStatement type => "unexpected statement in '" ++ type ++ "'"
  | .baseCall method => "cannot render base call `" ++ method ++ "`"
  | .typeLevel => "cannot render type-level statement in a method body"

/-- Why a source tree, or one of its declarations, is rejected. -/
inductive Rejection where
  | unreadable (path : String)
  | invalidTree (path : String)
  | noSourceTrees (dir : String)
  | duplicateMember (kind name scope : String)
  | reservedMember (kind name scope : String) (reserved : List String)
  | unknownEventType (monitor handler type : String)
  | unknownNamespace (monitor space : String)
  | invalidThreshold (found : String)
  | emptyEmitter (monitor event : String)
  | misplacedSpecifier (event : String)
  | notRendered (flaw : RenderFlaw)
  | notLinked (name reason : String)
deriving DecidableEq, Repr

namespace Rejection

/-- The text of a rejection. -/
def message : Rejection → String
  | .unreadable path => "Failed to read file '" ++ path ++ "'"
  | .invalidTree path => "Invalid source tree in " ++ path
  | .noSourceTrees dir => "No source trees found in " ++ dir
  | .duplicateMember kind name scope =>
    "Duplicate " ++ kind ++ " '" ++ name ++ "' in '" ++ scope ++ "'"
  | .reservedMember kind name scope _ =>
    kind ++ " '" ++ name ++ "' in '" ++ scope ++ "' uses a name reserved by generated code"
  | .unknownEventType monitor handler type =>
    "Handler '" ++ handler ++ "' in monitor '" ++ monitor ++ "' takes unknown event type '"
      ++ type ++ "'"
  | .unknownNamespace monitor space =>
    "Monitor '" ++ monitor ++ "' uses unknown namespace '" ++ space ++ "'"
  | .invalidThreshold found => "Specifier threshold must be a numeric literal, found " ++ found
  | .emptyEmitter monitor event =>
    "Change event '" ++ event ++ "' in monitor '" ++ monitor ++ "' has an empty emitter chain"
  | .misplacedSpecifier event => "Specifier on non-change event '" ++ event ++ "'"
  | .notRendered flaw => "Failed to generate Rust code: " ++ flaw.message
  | .notLinked name reason => "Cannot link '" ++ name ++ "': " ++ reason

/-- The code of a rejection, by which tools know it. -/
def code : Rejection → String
  | .unreadable .. => "vigil::io::read_error"
  | .invalidTree .. => "vigil::tree::invalid"
  | .noSourceTrees .. => "vigil::tree::empty_input"
  | .duplicateMember .. => "vigil::structure::duplicate_member"
  | .reservedMember .. => "vigil::structure::reserved_member"
  | .unknownEventType .. => "vigil::structure::unknown_event_type"
  | .unknownNamespace .. => "vigil::structure::unknown_namespace"
  | .invalidThreshold .. => "vigil::lower::invalid_threshold"
  | .emptyEmitter .. => "vigil::lower::empty_emitter"
  | .misplacedSpecifier .. => "vigil::lower::misplaced_specifier"
  | .notRendered .. => "vigil::codegen::generation_failed"
  | .notLinked .. => "vigil::link::failed"

/-- What the author of the tree can do about it. -/
def help : Rejection → Option String
  | .invalidTree .. => some ("Source trees are JSON documents produced by the Vigil front end; "
      ++ "unknown node kinds and operators are rejected")
  | .noSourceTrees .. =>
    some "Place one JSON source tree per compilation unit in the input directory"
  | .reservedMember _ _ _ reserved =>
    some ("Rename the member; " ++ Text.join ", " reserved ++ " are taken in this scope")
  | .unknownEventType .. => some ("Handler parameters must be one of IntervalEvent, InvokeEvent, "
      ++ "ReturnEvent, ExceptionEvent, TimeLapseEvent, ChangeEvent")
  | .invalidThreshold .. =>
    some "Specifier thresholds must be number literals or numeric string literals"
  | .emptyEmitter .. =>
    some "Change events are raised by a namespace variable, e.g. `cpu.limits.max`"
  | .misplacedSpecifier .. => some "Only CHANGE events carry a value pair a specifier can filter"
  | _ => none

/-- The name of the kind of a rejection. -/
def kindName : Rejection → String
  | .unreadable .. => "IoError"
  | .invalidTree .. => "InvalidTree"
  | .noSourceTrees .. => "NoSourceTrees"
  | .duplicateMember .. => "DuplicateMember"
  | .reservedMember .. => "ReservedMember"
  | .unknownEventType .. => "UnknownEventType"
  | .unknownNamespace .. => "UnknownNamespace"
  | .invalidThreshold .. => "InvalidThreshold"
  | .emptyEmitter .. => "EmptyEmitter"
  | .misplacedSpecifier .. => "MisplacedSpecifier"
  | .notRendered .. => "CodegenFailed"
  | .notLinked .. => "LinkFailed"

end Rejection

end Watchtower
