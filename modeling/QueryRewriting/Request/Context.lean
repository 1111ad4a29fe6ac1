import QueryRewriting.Request.Uuid

/-!
The context of a request: who asks, what was claimed about them, and what properties the caller
attached. The service role is above row security and read policies.
-/

namespace QueryRewriting

open Json

/-- Who sends a request. -/
inductive Caller where
  | anonymous
  | user (id : Uuid)
  | service
  deriving DecidableEq, Inhabited

/-- A caller and the claims about them. -/
structure Auth where
  caller : Caller := .anonymous
  claims : Entries Value := []
  deriving DecidableEq, Inhabited

/-- A request needs a user and has none. -/
inductive AuthError where
  | authenticationRequired
  deriving DecidableEq

/-- The text of an error. -/
def AuthError.message : AuthError → String
  | .authenticationRequired => "Authentication required"

namespace Auth

/-- The user behind a request. The service role is nobody in particular. -/
def user? (auth : Auth) : Option Uuid :=
  match auth.caller with
  | .user id => some id
  | _ => none

/-- Whether the caller is known. -/
def isAuthenticated (auth : Auth) : Bool := auth.caller != .anonymous

/-- Whether the caller is the service role. -/
def isService (auth : Auth) : Bool := auth.caller == .service

/-- The user behind a request that must have one. -/
def requireUser (auth : Auth) : Except AuthError Uuid :=
  match auth.user? with
  | some id => .ok id
  | none => .error .authenticationRequired

/-- Adds a claim; an older claim of the name is dropped. -/
def withClaim (auth : Auth) (name : String) (value : Value) : Auth :=
  { auth with claims := Entries.insert name value auth.claims }

end Auth

/-- The context that is carried along with a request. -/
structure RequestContext where
  requestId : String := ""
  receivedAt : Nat := 0
  auth : Auth := {}
  properties : Entries Value := []
  deriving DecidableEq, Inhabited

namespace RequestContext

/-- The context of a caller. -/
def ofCaller (caller : Caller) : RequestContext := { auth := { caller } }

/-- Whether restrictions on rows do not apply. -/
def bypassesRowSecurity (context : RequestContext) : Bool := context.auth.isService

/-- Sets a property. -/
def withProperty (context : RequestContext) (name : String) (value : Value) : RequestContext :=
  { context with properties := Entries.insert name value context.properties }

/-- The value of a property. -/
def property? (context : RequestContext) (name : String) : Option Value :=
  Entries.find? context.properties name

end RequestContext

end QueryRewriting
