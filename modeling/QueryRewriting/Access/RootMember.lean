import QueryRewriting.Rewriting.Hook

/-!
Addressing sources as members of a root parameter, as in `api.Customers`. The normalizer turns
such an access into the data reference it means, so that other hooks see a single form.
-/

namespace QueryRewriting.Access

open Rewriting

/-- The parameter through which sources are addressed. -/
structure RootMember where
  root : String := "api"
  deriving DecidableEq, Inhabited

namespace RootMember

/-- The name of the member that a node accesses on the root parameter. -/
def accessed? (access : RootMember) : Expr → Option String
  | .member _ (.parameter _ param) name => if param = access.root then some name else none
  | _ => none

/-- Functions take arguments and are never addressed as members. -/
def normalize (access : RootMember) (context : Context) : Act Error (Option Expr) :=
  match context.node?.bind access.accessed? with
  | none => return none
  | some name =>
    match context.model.resolve? none name with
    | none => throw (.unknownSource name)
    | some element =>
      if element.isFunction then return none
      else some <$> Act.build (Fresh.source none name [] element.logicalType)

/-- The normalizer. -/
def hook (access : RootMember) : TreeHook := ⟨"member_access", access.normalize⟩

end RootMember

end QueryRewriting.Access
