import QueryRewriting.Access.ReadPolicy
import QueryRewriting.Access.RootMember
import QueryRewriting.Access.RowFilter

/-!
The configuration of an engine. Every setting has a default, and a configuration that was read is
checked as a whole before it is used. It describes the hooks of the engine but for the sourcer.
-/

namespace QueryRewriting

open Json Access Telemetry

/-- Settings of row security. -/
structure RowSecurityConfig where
  ownerField : String := defaultOwnerField
  collections : List String := []
  deriving DecidableEq, Inhabited

/-- The settings of an engine. -/
structure EngineConfig where
  maxDepth : Nat := Rewriting.defaultMaxDepth
  logSeverity : String := "INFO"
  apiRoot : String := "api"
  defaultPolicy : ReadPolicy := .allow
  policies : Entries ReadPolicy := []
  rowSecurity : Option RowSecurityConfig := none
  deriving DecidableEq, Inhabited

/-- What is wrong with a setting. -/
inductive EngineConfig.Flaw where
  | noDepth
  | unknownSeverity (name : String)
  | notIdentifier (name : String)
  | emptyOwnerField
  deriving DecidableEq

/-- Why a configuration cannot be used. -/
inductive ConfigError where
  | unreadable (path reason : String)
  | invalidText (error : ReadError)
  | invalid (flaw : EngineConfig.Flaw)
  deriving DecidableEq

namespace EngineConfig

/-- The name of the setting that a flaw is in. -/
def Flaw.field : Flaw → String
  | .noDepth => "max_depth"
  | .unknownSeverity _ => "log_severity"
  | .notIdentifier _ => "api_root"
  | .emptyOwnerField => "row_security.owner_field"

/-- The text of a flaw. -/
def Flaw.reason : Flaw → String
  | .noDepth => "must be > 0"
  | .unknownSeverity name => s!"unknown severity '{name}'"
  | .notIdentifier name => s!"'{name}' is not an identifier"
  | .emptyOwnerField => "must not be empty"

end EngineConfig

namespace ConfigError

/-- The stable code of an error. -/
def code : ConfigError → String
  | .unreadable .. => "AERO_CONFIG_READ_FAILED"
  | .invalidText _ => "AERO_CONFIG_PARSE_FAILED"
  | .invalid _ => "AERO_CONFIG_INVALID"

/-- The text of an error. -/
def message : ConfigError → String
  | .unreadable path reason => s!"Failed to read config {path}: {reason}"
  | .invalidText error => s!"Invalid config JSON: {error.message}"
  | .invalid flaw => s!"Invalid config value for {flaw.field}: {flaw.reason}"

/-- The flaw of a configuration that was read. -/
def flaw? : ConfigError → Option EngineConfig.Flaw
  | .invalid flaw => some flaw
  | _ => none

/-- The JSON form of an error. -/
def toValue (error : ConfigError) : Value :=
  let invalid := match error.flaw? with
    | some flaw => Value.array [.string flaw.field, .string flaw.reason]
    | none => .null
  Value.ofMembers [("error", .string error.code), ("message", .string error.message),
    ("invalid", invalid)]

end ConfigError

/-- Reads the settings of row security. -/
def RowSecurityConfig.read : Reader RowSecurityConfig :=
  Reader.record ["owner_field", "collections"] fun fields => do
    return {
      ownerField := ← fields.orElse "owner_field" Reader.string defaultOwnerField
      collections := ← fields.orElse "collections" (Reader.list Reader.string) [] }

/-- The JSON form of the settings of row security. -/
def RowSecurityConfig.toValue (config : RowSecurityConfig) : Value :=
  Value.ofMembers [("owner_field", .string config.ownerField),
    ("collections", .array (config.collections.map .string))]

namespace EngineConfig

/-- Reads the settings of an engine without checking them. -/
def read : Reader EngineConfig :=
  Reader.record
    ["max_depth", "log_severity", "api_root", "default_policy", "policies", "row_security"]
    fun fields => do
    return {
      maxDepth := ← fields.orElse "max_depth" Reader.count Rewriting.defaultMaxDepth
      logSeverity := ← fields.orElse "log_severity" Reader.string "INFO"
      apiRoot := ← fields.orElse "api_root" Reader.string "api"
      defaultPolicy := ← fields.orElse "default_policy" ReadPolicy.read .allow
      policies := ← fields.orElse "policies" (Reader.entries ReadPolicy.read) []
      rowSecurity := ← fields.optional "row_security" RowSecurityConfig.read }

/-- The JSON form of the settings of an engine. -/
def toValue (config : EngineConfig) : Value :=
  Value.ofMembers [
    ("max_depth", .ofUInt64 config.maxDepth.toUInt64),
    ("log_severity", .string config.logSeverity),
    ("api_root", .string config.apiRoot),
    ("default_policy", .string config.defaultPolicy.name),
    ("policies", .object (config.policies.map fun (name, policy) => (name, .string policy.name))),
    ("row_security", (config.rowSecurity.map RowSecurityConfig.toValue).getD .null)]

/-- Whether a text is an identifier: ASCII letters, digits and underscores, with no digit first. -/
def isIdentifier (text : String) : Bool :=
  match text.toList with
  | [] => false
  | first :: rest =>
    (first.isAlpha || first == '_') && rest.all fun c => c.isAlphanum || c == '_'

/-- The first flaw among the settings. -/
def flaw? (config : EngineConfig) : Option Flaw :=
  if config.maxDepth = 0 then some .noDepth
  else if (Severity.ofName? config.logSeverity).isNone then
    some (.unknownSeverity config.logSeverity)
  else if !isIdentifier config.apiRoot then some (.notIdentifier config.apiRoot)
  else if config.rowSecurity.any fun security => security.ownerField == "" then
    some .emptyOwnerField
  else none

/-- Checks the settings. -/
def validate (config : EngineConfig) : Except ConfigError EngineConfig :=
  match config.flaw? with
  | some flaw => .error (.invalid flaw)
  | none => .ok config

/-- The configuration that a text describes. -/
def ofText (text : String) : Except ConfigError EngineConfig :=
  match Reader.fromText read text with
  | .error error => .error (.invalidText error)
  | .ok config => config.validate

/-- The configuration that the text of a file describes. -/
def ofFile (path : String) : Except String String → Except ConfigError EngineConfig
  | .error reason => .error (.unreadable path reason)
  | .ok text => ofText text

/-- The minimum severity of the log. -/
def severity (config : EngineConfig) : Severity :=
  (Severity.ofName? config.logSeverity).getD .info

/-- The read policies. -/
def readAuthorizer (config : EngineConfig) : ReadAuthorizer :=
  { default := config.defaultPolicy, policies := config.policies }

/-- The row security that is asked for. -/
def rowSecurityFilter? (config : EngineConfig) : Option RowSecurity :=
  config.rowSecurity.map fun security =>
    { ownerField := security.ownerField, protectedNames := security.collections }

/-- The hooks that a configuration describes, with a sourcer. -/
def registry (config : EngineConfig) (sourcer : Rewriting.Sourcer) : Rewriting.Registry where
  normalizers := [RootMember.hook { root := config.apiRoot }]
  inspectors := [config.readAuthorizer.hook]
  filters := (config.rowSecurityFilter?.map RowSecurity.hook).toList
  sourcer := some sourcer

end EngineConfig

end QueryRewriting
