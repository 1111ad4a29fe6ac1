import QueryRewriting.Schema.EntityType

/-!
What can be wrong with a model or with a question to it. A defect of a document is fatal; an
unknown name only rejects the request that used it.
-/

namespace QueryRewriting.Schema

open Json

/-- Why a model document cannot be used. -/
inductive Defect where
  | unreadable (reason : String)
  | invalidText (error : ReadError)
  | flawedType (flaw : EntityType.Flaw)
  | within (origin : String) (defect : Defect)
  | stated (reason : String)
  deriving DecidableEq

/-- A schema error. -/
inductive Error where
  | malformed (origin : String) (defect : Defect)
  | duplicateElement (name : String)
  | unknownEntityType (name : String)
  | unknownSource (name : String)
  | unknownProperty (entity property : String)
  deriving DecidableEq

/-- How bad a schema error is. -/
inductive Severity where
  | reject
  | fatal
  deriving DecidableEq

/-- The name of a severity. -/
def Severity.name : Severity → String
  | .reject => "REJECT"
  | .fatal => "FATAL"

/-- The text of a flaw. -/
def EntityType.Flaw.message : EntityType.Flaw → String
  | .unnamed => "Entity type name must not be empty"
  | .keyNotDeclared key entity => s!"Key field '{key}' is not declared on '{entity}'"
  | .keyNotRequired key => s!"Key field '{key}' must be required"
  | .keyNotPrimitive key => s!"Key field '{key}' must be primitive"

/-- The text of a defect of the model with this origin. -/
def Defect.message (origin : String) : Defect → String
  | .unreadable reason => s!"Malformed model '{origin}': Failed to read file: {reason}"
  | .invalidText error => s!"Malformed model '{origin}': Invalid JSON: {error.message}"
  | .flawedType flaw => s!"Malformed model '{origin}': {flaw.message}"
  | .within inner defect => s!"Malformed model '{origin}': {message inner defect}"
  | .stated reason => s!"Malformed model '{origin}': {reason}"

namespace Error

/-- The stable code of an error. -/
def code : Error → String
  | .malformed .. => "AERO_SCHEMA_MALFORMED"
  | .duplicateElement _ => "AERO_SCHEMA_DUPLICATE_ELEMENT"
  | .unknownEntityType _ => "AERO_UNKNOWN_ENTITY_TYPE"
  | .unknownSource _ => "AERO_UNKNOWN_SOURCE"
  | .unknownProperty .. => "AERO_UNKNOWN_PROPERTY"

/-- The text of an error. -/
def message : Error → String
  | .malformed origin defect => defect.message origin
  | .duplicateElement name => s!"Element '{name}' is declared more than once"
  | .unknownEntityType name => s!"Entity type '{name}' not found"
  | .unknownSource name => s!"Source '{name}' not found"
  | .unknownProperty entity property => s!"Property '{property}' not found on '{entity}'"

/-- The name that an error is about. -/
def subject? : Error → Option String
  | .malformed .. => none
  | .duplicateElement name => some name
  | .unknownEntityType name => some name
  | .unknownSource name => some name
  | .unknownProperty _ property => some property

/-- Defects and duplicates are found while a model is loaded and are fatal. -/
def severity : Error → Severity
  | .malformed .. => .fatal
  | .duplicateElement _ => .fatal
  | _ => .reject

/-- Whether the model cannot be used at all. -/
def isFatal (error : Error) : Bool := error.severity == .fatal

/-- The JSON form of an error. -/
def toValue (error : Error) : Value :=
  Value.ofMembers [("error", .string error.code), ("message", .string error.message),
    ("severity", .string error.severity.name), ("subject", .ofString? error.subject?),
    ("fatal", .bool error.isFatal)]

/-- An error with its severity and code. -/
def text (error : Error) : String :=
  s!"[{error.severity.name}] {error.code}: {error.message}"

end Error

end QueryRewriting.Schema
