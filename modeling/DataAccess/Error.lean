import DataAccess.Json.Parser
import DataAccess.Text.Utf8
import DataAccess.Url.Flaw

/-!
# `DataAccess.Error`: what can go wrong

The errors of the library, by kind, each with its cause. The wording
of every error is in `Error.message`; nothing else reads or makes the
text of an error.

* `SettingError`: a setting that is missing or has no usable value.
* `Error`: every other error. A cause named `text` is a text that
  another party supplied: a driver, an interceptor, or a caller.
* `Error.inOperation`: an error of the database, under the name of the
  operation that met it.
* `Error.isConfiguration`: the errors that are the fault of
  declarations and criteria, not of data.
-/

set_option autoImplicit false

namespace DataAccess

/-- A setting that is missing or has no usable value. -/
inductive SettingError where
  /-- The variable has to be set. -/
  | missing (name : String)
  /-- The field cannot have this value. -/
  | invalid (field value expected : String)
  deriving DecidableEq, Repr

/-- The wording of an error in a setting. -/
def SettingError.message : SettingError → String
  | .missing name => s!"Missing required environment variable: {name}"
  | .invalid field value expected =>
    s!"Invalid value for {field}: '{value}', expected {expected}"

/-- The kind of an error in a setting. -/
def SettingError.kind : SettingError → String
  | .missing _ => "MissingEnvVar"
  | .invalid _ _ _ => "InvalidValue"

/-- What is wrong with a declaration, a fetch path or a setting. -/
inductive ConfigurationFault where
  /-- No field of the entity is its identity. -/
  | noIdentity (entity : String)
  /-- Several fields of the entity are identities. -/
  | severalIdentities (entity : String)
  /-- Two fields of the entity have one name. -/
  | fieldTwice (entity field : String)
  /-- Two fields of the entity have one column. -/
  | columnTwice (entity column : String)
  /-- A relation of the entity has a name already taken. -/
  | nameReused (entity name : String)
  /-- A fetch path is empty or has an empty segment. -/
  | malformedPath (path : String)
  /-- A fetch path has more segments than joins may be deep. -/
  | pathTooDeep (path : String) (limit : Nat)
  /-- A cascade comes to dependents that are too deep. -/
  | cascadeTooDeep (table : String) (limit : Nat)
  /-- An instance attached to a relation has the wrong type. -/
  | wrongRelated (relation entity : String)
  /-- No backend has this name. -/
  | unsupportedBackend (name : String)
  /-- The URL of a database cannot be read. -/
  | invalidUrl (url : String) (flaw : Url.Flaw)
  /-- A setting has no usable value. -/
  | setting (error : SettingError)
  /-- Any other cause. -/
  | text (s : String)
  deriving DecidableEq, Repr

/-- The wording of a fault of configuration. -/
def ConfigurationFault.message : ConfigurationFault → String
  | .noIdentity e => s!"Entity '{e}' declares no identity field"
  | .severalIdentities e => s!"Entity '{e}' declares more than one identity field"
  | .fieldTwice e f => s!"Entity '{e}' declares field '{f}' twice"
  | .columnTwice e c => s!"Entity '{e}' maps column '{c}' twice"
  | .nameReused e n => s!"Entity '{e}' reuses name '{n}' for a relation"
  | .malformedPath p => s!"Malformed fetch path '{p}'"
  | .pathTooDeep p n => s!"Fetch path '{p}' exceeds the maximum join depth of {n}"
  | .cascadeTooDeep t n => s!"Cascade from '{t}' exceeds the maximum depth of {n}"
  | .wrongRelated r e => s!"relation '{r}' does not hold a {e}"
  | .unsupportedBackend n => s!"Unsupported database backend: {n}"
  | .invalidUrl u flaw => s!"Invalid database URL '{u}': {flaw.message}"
  | .setting e => e.message
  | .text s => s

/-- What is wrong with an argument. -/
inductive InputFault where
  /-- A filter compares with null. -/
  | nullFilter
  /-- A membership filter has no members. -/
  | emptyMembership (field : String)
  /-- A member of a membership filter is null or a list. -/
  | membershipOfNonScalar (field : String)
  /-- A filter other than membership compares with a list. -/
  | listWithoutMembership (field : String)
  /-- A condition is blank. -/
  | emptyCondition
  /-- A value of a condition is null or a list. -/
  | conditionOfNonScalar
  /-- A condition has more or fewer placeholders than values. -/
  | placeholderCount (template : String) (placeholders values : Nat)
  /-- A page is set where there is no paging. -/
  | notPaged
  /-- Pages of no rows. -/
  | emptyPage
  /-- A page before the first. -/
  | pageZero
  /-- A page whose first row has no number. -/
  | pageOutOfRange (page size : UInt64)
  /-- An update without fields. -/
  | nothingToUpdate
  /-- One page is asked for without paging. -/
  | pageOfUnpaged
  /-- A parameter of a statement is a list. -/
  | listParameter
  /-- Any other cause. -/
  | text (s : String)
  deriving DecidableEq, Repr

/-- The wording of a fault of input. -/
def InputFault.message : InputFault → String
  | .nullFilter => "Value cannot be null."
  | .emptyMembership f => s!"IN filter on '{f}' needs at least one value"
  | .membershipOfNonScalar f => s!"IN filter on '{f}' accepts only non-null scalar values"
  | .listWithoutMembership f =>
    s!"Only the IN operator accepts a list of values (field '{f}')"
  | .emptyCondition => "Condition cannot be null."
  | .conditionOfNonScalar => "Condition values must be non-null scalars."
  | .placeholderCount t p v => s!"Condition '{t}' has {p} placeholders but {v} values"
  | .notPaged => "Criteria is not paged"
  | .emptyPage => "Page size must be at least 1"
  | .pageZero => "Pages are numbered from 1"
  | .pageOutOfRange p s => s!"Page {p} of {s} rows is out of range"
  | .nothingToUpdate => "No fields to update"
  | .pageOfUnpaged => "find_page needs a paged criteria"
  | .listParameter => "array values must be expanded into one placeholder per element"
  | .text s => s

/-- What stands in the way of a conversion. -/
inductive ConversionFault where
  /-- Values of this type are never converted to the target. -/
  | mismatch (source target : String)
  /-- A number is too large for 32 bits. -/
  | outOfInt32 (n : Int64)
  /-- A negative number, where only others can be. -/
  | negative (n : Int64)
  /-- Bytes are no text. -/
  | notText (error : Text.Utf8.Error)
  /-- A text is no document. -/
  | notJson (error : Json.ParseError)
  /-- The value of a column cannot be converted, for the given reason. -/
  | column (name reason : String)
  /-- Any other cause. -/
  | text (s : String)
  deriving DecidableEq, Repr

/-- The wording of a fault of conversion. -/
def ConversionFault.message : ConversionFault → String
  | .mismatch s t => s!"cannot convert {s} value into {t}"
  | .outOfInt32 n => s!"{n} does not fit in i32"
  | .negative n => s!"{n} is negative"
  | .notText e => e.message
  | .notJson e => e.message
  | .column n r => s!"column '{n}': {r}"
  | .text s => s

/-- The step of a unit of work in which a connection failed. -/
inductive ConnectionStep where
  /-- The pool is made. -/
  | createPool (backend : String)
  /-- A pool gives a connection. -/
  | acquireFrom (backend : String)
  /-- A source gives a connection. -/
  | acquire
  /-- A transaction begins. -/
  | begin
  /-- A transaction ends. -/
  | finish
  /-- A connection goes back. -/
  | release
  /-- A control statement runs. -/
  | control (statement : String)
  deriving DecidableEq, Repr

/-- The wording of a failed step. -/
def ConnectionStep.message : ConnectionStep → String
  | .createPool b => s!"Failed to create {b} pool"
  | .acquireFrom b => s!"Failed to acquire {b} connection"
  | .acquire => "Failed to acquire connection"
  | .begin => "Failed to begin transaction"
  | .finish => "Failed to finish transaction"
  | .release => "Failed to release connection"
  | .control s => s!"{s} failed"

/-- What is wrong with a connection. -/
inductive ConnectionFault where
  /-- A unit of work is closed that was never opened. -/
  | closeWithoutOpen
  /-- A statement runs outside every unit of work. -/
  | notOpen
  /-- A step failed, for the given reason. -/
  | failed (step : ConnectionStep) (reason : String)
  /-- Any other cause. -/
  | text (s : String)
  deriving DecidableEq, Repr

/-- The wording of a fault of a connection. -/
def ConnectionFault.message : ConnectionFault → String
  | .closeWithoutOpen => "close without a matching open"
  | .notOpen => "No open connection"
  | .failed step reason => s!"{step.message}: {reason}"
  | .text s => s

/-- An error of the library. -/
inductive Error where
  /-- A declaration, a fetch path or a setting is wrong. -/
  | configuration (fault : ConfigurationFault)
  /-- No field or relation of the entity has this name. -/
  | invalidField (entity field : String)
  /-- A condition template ends inside a field reference. -/
  | malformedCondition (template : String)
  /-- An argument is refused before anything is sent. -/
  | invalidInput (fault : InputFault)
  /-- The database refuses a statement. -/
  | database (text : String)
  /-- The database refuses a statement of a named operation. -/
  | execution (operation text : String)
  /-- A write to one record found none. -/
  | noRecordAffected (operation : String)
  /-- An entity has to have an identity and has none. -/
  | missingPrimaryKey
  /-- A connection cannot be had, or not be given back. -/
  | connection (fault : ConnectionFault)
  /-- An interceptor refuses an entity. -/
  | validation (text : String)
  /-- An interceptor fails. -/
  | interceptor (text : String)
  /-- A value cannot be converted. -/
  | serialization (fault : ConversionFault)
  deriving DecidableEq, Repr

namespace Error

/-- The wording of an error. -/
def message : Error → String
  | .configuration fault => s!"Configuration error: {fault.message}"
  | .invalidField entity field => s!"Invalid field '{field}' for entity '{entity}'"
  | .malformedCondition template =>
    s!"Invalid criteria. Check the conditions syntax: {template}"
  | .invalidInput fault => s!"Invalid input: {fault.message}"
  | .database text => s!"Database error: {text}"
  | .execution operation text => s!"Occurred a problem in the {operation}: {text}"
  | .noRecordAffected operation => s!"No record was {operation}."
  | .missingPrimaryKey => "Primary key is missing or invalid"
  | .connection fault => s!"Connection error: {fault.message}"
  | .validation text => s!"Validation error: {text}"
  | .interceptor text => s!"Interceptor error: {text}"
  | .serialization fault => s!"Serialization error: {fault.message}"

/-- The kind of an error. -/
def kind : Error → String
  | .configuration _ => "Configuration"
  | .invalidField _ _ => "InvalidField"
  | .malformedCondition _ => "MalformedCondition"
  | .invalidInput _ => "InvalidInput"
  | .database _ => "Database"
  | .execution _ _ => "Execution"
  | .noRecordAffected _ => "NoRecordAffected"
  | .missingPrimaryKey => "MissingPrimaryKey"
  | .connection _ => "Connection"
  | .validation _ => "Validation"
  | .interceptor _ => "Interceptor"
  | .serialization _ => "Serialization"

/-- The error of a kind that has these texts for its causes. -/
def ofKind (kind : String) (texts : List String) : Error :=
  let text := texts.headD ""
  let second := (texts.drop 1).headD ""
  match kind with
  | "Configuration" => .configuration (.text text)
  | "InvalidField" => .invalidField text second
  | "MalformedCondition" => .malformedCondition text
  | "InvalidInput" => .invalidInput (.text text)
  | "Database" => .database text
  | "Execution" => .execution text second
  | "NoRecordAffected" => .noRecordAffected text
  | "MissingPrimaryKey" => .missingPrimaryKey
  | "Connection" => .connection (.text text)
  | "Validation" => .validation text
  | "Interceptor" => .interceptor text
  | _ => .serialization (.text text)

/-- An error of the database as one of the named operation; every
other error as it is. -/
def inOperation (operation : String) : Error → Error
  | .database text => .execution operation text
  | e => e

/-- The error is the fault of a declaration, a path or a condition. -/
def isConfiguration : Error → Bool
  | .configuration _ | .invalidField _ _ | .malformedCondition _ => true
  | _ => false

/-- The failure of a step, caused by another error. -/
def ofStep (step : ConnectionStep) (cause : Error) : Error :=
  .connection (.failed step cause.message)

end Error

/-- The result of what can go wrong. -/
abbrev Result (α : Type) := Except Error α

end DataAccess
