import QueryRewriting.Json.Reader
import QueryRewriting.Rewriting.Hook

/-!
Read policies: who may read what, checked before anything is sourced. The policy of a source is
its own, or that of the collection it reads from, or the default. The service role may read
everything.
-/

namespace QueryRewriting.Access

open Json Rewriting

/-- Who may read a source. -/
inductive ReadPolicy where
  | allow
  | deny
  | authenticated
  deriving DecidableEq, Inhabited

namespace ReadPolicy

/-- Whether a policy lets a caller read. -/
def permits (policy : ReadPolicy) (auth : Auth) : Bool :=
  auth.isService ||
    match policy with
    | .allow => true
    | .deny => false
    | .authenticated => auth.isAuthenticated

/-- The name of a policy. -/
def name : ReadPolicy → String
  | .allow => "allow"
  | .deny => "deny"
  | .authenticated => "authenticated"

/-- Reads a policy by its name. -/
def read : Reader ReadPolicy :=
  Reader.constant ([allow, deny, authenticated].map fun policy => (policy.name, policy))

end ReadPolicy

/-- The policies of sources by name, and the policy of all others. -/
structure ReadAuthorizer where
  default : ReadPolicy := .allow
  policies : Entries ReadPolicy := []
  deriving DecidableEq, Inhabited

namespace ReadAuthorizer

/-- The policy of a name. -/
def policyFor (authorizer : ReadAuthorizer) (name : String) : ReadPolicy :=
  (Entries.find? authorizer.policies name).getD authorizer.default

/-- The policy that decides about a reference to a source which reads from a collection. -/
def effective (authorizer : ReadAuthorizer) (name collection : String) : ReadPolicy :=
  (Entries.find? authorizer.policies name).getD (authorizer.policyFor collection)

/-- Whether the frame under visit may be read. What is not a data reference always may. -/
def inspect (authorizer : ReadAuthorizer) (context : Context) : Bool :=
  match context.reading? with
  | none => true
  | some (reference, collection) =>
    (authorizer.effective reference.name collection).permits context.request.auth

/-- The inspector. -/
def hook (authorizer : ReadAuthorizer) : Hook Bool :=
  ⟨"read_authorizer", fun context => return authorizer.inspect context⟩

end ReadAuthorizer

end QueryRewriting.Access
