import QueryRewriting.QueryType

/-!
Why the rewriting of a query is given up. Every error ends the walk.
-/

namespace QueryRewriting.Rewriting

open Json

/-- Why a query is not supported. -/
inductive Unsupported where
  | noSourcer (reference : String)
  | notSourced (sourcer reference : String)
  | stated (reason : String)
  deriving DecidableEq

/-- What is wrong with the result of a sourcer. -/
inductive BadSource where
  | rootNotQueryable (reference : String)
  | standaloneQueryable (reference : String)
  | foreignProxy (reference : String)
  | stated (reason : String)
  deriving DecidableEq

/-- Why a hook refuses access. -/
inductive Denial where
  | authenticationRequired (collection : String)
  | stated (reason : String)
  deriving DecidableEq

/-- Why a walk is given up. -/
inductive Error where
  | typeMismatch (hook : String) (expected actual : QueryType)
  | unsupported (reason : Unsupported)
  | badSource (reason : BadSource)
  | unknownSource (name : String)
  | depthExceeded (limit : Nat)
  | inspectionFailed (inspector target : String)
  | accessDenied (reason : Denial)
  | hookFailed (hook message : String)
  deriving DecidableEq

/-- Why a query is not supported, in words. -/
def Unsupported.message : Unsupported → String
  | .noSourcer reference => s!"No sourcer registered for '{reference}'"
  | .notSourced sourcer reference => s!"Sourcer '{sourcer}' cannot source '{reference}'"
  | .stated reason => reason

/-- What is wrong with the result of a sourcer, in words. -/
def BadSource.message : BadSource → String
  | .rootNotQueryable reference => s!"Root source for '{reference}' is not a native queryable"
  | .standaloneQueryable reference =>
    s!"Embedded source for '{reference}' is a standalone queryable"
  | .foreignProxy reference => s!"Embedded source for '{reference}' references a foreign proxy"
  | .stated reason => reason

/-- Why a hook refuses access, in words. -/
def Denial.message : Denial → String
  | .authenticationRequired collection => s!"Authentication required for {collection}"
  | .stated reason => reason

namespace Error

/-- The stable code of an error. -/
def code : Error → String
  | .typeMismatch .. => "AERO_REWRITE_TYPE_MISMATCH"
  | .unsupported _ => "AERO_REWRITE_UNSUPPORTED_QUERY"
  | .badSource _ => "AERO_REWRITE_MALFORMED_SOURCE"
  | .unknownSource _ => "AERO_REWRITE_UNKNOWN_SOURCE"
  | .depthExceeded _ => "AERO_REWRITE_DEPTH_EXCEEDED"
  | .inspectionFailed .. => "AERO_REWRITE_INSPECTION_FAILED"
  | .accessDenied _ => "AERO_REWRITE_ACCESS_DENIED"
  | .hookFailed .. => "AERO_REWRITE_HOOK_FAILED"

/-- The text of an error. -/
def message : Error → String
  | .typeMismatch hook expected actual =>
    s!"Hook '{hook}' changed type from {expected.text} to {actual.text}"
  | .unsupported reason => s!"Unsupported query: {reason.message}"
  | .badSource reason => s!"Malformed source: {reason.message}"
  | .unknownSource name => s!"Unknown source: {name}"
  | .depthExceeded limit => s!"Query tree exceeds maximum depth {limit}"
  | .inspectionFailed inspector target => s!"Inspector '{inspector}' denied access to {target}"
  | .accessDenied reason => s!"Access denied: {reason.message}"
  | .hookFailed hook message => s!"Hook '{hook}' failed: {message}"

/-- Whether an error is a refusal of access and no defect. -/
def isAuthorization : Error → Bool
  | .inspectionFailed .. => true
  | .accessDenied _ => true
  | _ => false

/-- The JSON form of an error. -/
def toValue (error : Error) : Value :=
  Value.ofMembers [("error", .string error.code), ("message", .string error.message),
    ("authorization", .bool error.isAuthorization)]

end Error

end QueryRewriting.Rewriting
