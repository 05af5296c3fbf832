-- What can go wrong while monitors run. Faults are values: they are returned to the caller,
-- or handed to the policy of the place where they arise.

namespace Watchtower

/-- A fault of a running system, by its cause. -/
inductive Fault where
  /-- The tables of a store are broken. -/
  | storage
  /-- A stored text is no value. -/
  | encoding
  | schema (reason : String)
  | unknownVariable (name : String)
  | readOnly (name : String)
  | notNumeric (text : String)
  | overflow (operation : String)
  | invalidCron (expression reason : String)
  | unknownJob (id : String)
  | duplicateJob (id : String)
  | missingJobData (key : String)
  | consumer (queue reason : String)
  | probe (routingKey reason : String)
  | disconnected (name : String)
  | incompatibleHandler (event handler : String)
  | unknownMember (kind name : String)
  /-- Code or a value of the user is not there. -/
  | unbound (name : String)
  /-- Code of the user failed by itself. -/
  | user (text : String)
  /-- A blueprint asks for what a running system does not do. -/
  | internal (text : String)
deriving DecidableEq, Repr

/-- The text of a fault. -/
def Fault.message : Fault → String
  | .storage => "sqlite error"
  | .encoding => "serialization error"
  | .schema reason => "schema error: " ++ reason
  | .unknownVariable name => "variable '" ++ name ++ "' is not registered"
  | .readOnly name => "variable '" ++ name ++ "' is read-only"
  | .notNumeric text => "value '" ++ text ++ "' is not numeric"
  | .overflow operation => "decimal overflow in " ++ operation
  | .invalidCron expression reason =>
    "invalid cron expression '" ++ expression ++ "': " ++ reason
  | .unknownJob id => "job '" ++ id ++ "' is not scheduled"
  | .duplicateJob id => "job '" ++ id ++ "' is already scheduled"
  | .missingJobData key => "job data is missing '" ++ key ++ "'"
  | .consumer queue reason => "consumer '" ++ queue ++ "' failed: " ++ reason
  | .probe routingKey reason => "probe '" ++ routingKey ++ "' failed: " ++ reason
  | .disconnected name => "namespace '" ++ name ++ "' has no root connection"
  | .incompatibleHandler event handler =>
    "handler '" ++ handler ++ "' cannot observe event '" ++ event ++ "'"
  | .unknownMember kind name => "unknown " ++ kind ++ " '" ++ name ++ "'"
  | .unbound name => "no binding for '" ++ name ++ "'"
  | .user text => text
  | .internal text => "internal error: " ++ text

/-- The name of the kind of a fault. -/
def Fault.kindName : Fault → String
  | .storage => "Sqlite"
  | .encoding => "Serialization"
  | .schema .. => "Schema"
  | .unknownVariable .. => "UnknownVariable"
  | .readOnly .. => "ReadOnly"
  | .notNumeric .. => "NotNumeric"
  | .overflow .. => "Overflow"
  | .invalidCron .. => "InvalidCron"
  | .unknownJob .. => "UnknownJob"
  | .duplicateJob .. => "DuplicateJob"
  | .missingJobData .. => "MissingJobData"
  | .consumer .. => "Consumer"
  | .probe .. => "Probe"
  | .disconnected .. => "Disconnected"
  | .incompatibleHandler .. => "IncompatibleHandler"
  | .unknownMember .. => "UnknownMember"
  | .unbound .. => "Unbound"
  | .user .. => "User"
  | .internal .. => "Internal"

end Watchtower
