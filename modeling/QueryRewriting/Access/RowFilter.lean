import QueryRewriting.Rewriting.Hook

/-!
Row filters: data references are wrapped so that only permitted rows flow out of a collection.
A collection filter has a predicate of its own for each collection. Row security lets a user see
the rows whose owner field holds the user's identity, and lets the service role see all.
-/

namespace QueryRewriting.Access

open Json Rewriting

/-- The name of the lambda parameter in predicates over rows. -/
def rowParameter : String := "it"

/-- The type of the rows of the reference under visit, if it stands for many rows. -/
def rowType? (context : Context) : Option QueryType := do
  let node ← context.node?
  if node.type.isCollection then context.binding.elementType? else none

/-- The rows of the node under visit that satisfy a predicate. -/
def restricted (context : Context) (predicate : Expr) : Fresh (Option Expr) :=
  match context.node? with
  | none => return none
  | some node => do
    let selector ← Fresh.lambda rowParameter predicate
    some <$> Fresh.filter node selector

/-- A predicate over a row, built on the row parameter. -/
abbrev RowPredicate := Expr → Fresh Expr

/-- The predicates of collections by name. -/
structure CollectionFilter where
  predicates : Entries RowPredicate := []

namespace CollectionFilter

/-- Wraps a reference that reads from a collection with a predicate. -/
def filter (rows : CollectionFilter) (context : Context) : Act Error (Option Expr) :=
  match context.reading? with
  | none => return none
  | some (_, collection) =>
    match Entries.find? rows.predicates collection, rowType? context with
    | some predicate, some type => do
      let row ← Act.build (Fresh.parameter rowParameter type)
      let built ← Act.build (predicate row)
      if built.type = .bool then Act.build (restricted context built)
      else throw (.hookFailed "collection_filter"
        s!"Predicate for {collection} is {built.type.text}, not bool")
    | _, _ => return none

/-- The filter as a hook. -/
def hook (rows : CollectionFilter) : TreeHook := ⟨"collection_filter", rows.filter⟩

/-- The text of a collection filter: the names of its collections. -/
def text (rows : CollectionFilter) : String :=
  "CollectionFilter \x7b collections: " ++ NameList.text (Entries.names rows.predicates) ++ " \x7d"

end CollectionFilter

/-- The owner field when none is configured. -/
def defaultOwnerField : String := "owner_id"

/-- The field that names the owner of a row, and the collections it protects. -/
structure RowSecurity where
  ownerField : String := defaultOwnerField
  protectedNames : List String := []
  deriving DecidableEq, Inhabited

namespace RowSecurity

/-- Whether a collection is protected. -/
def isProtected (security : RowSecurity) (collection : String) : Bool :=
  security.protectedNames.contains collection

/-- The test whether a row belongs to a user. -/
def ownership (security : RowSecurity) (model : Schema.Model) (user : Uuid) (row : Expr) :
    ExceptT Schema.Error Fresh Expr := do
  let owner ← model.propertyExpr row security.ownerField
  let wanted ← liftM (Fresh.constant (.string user.text))
  liftM (Fresh.binary .eq owner wanted)

/-- Wraps a reference that reads from a protected collection. It takes a user to read from one. -/
def filter (security : RowSecurity) (context : Context) : Act Error (Option Expr) :=
  if context.request.bypassesRowSecurity then return none
  else match context.reading? with
    | none => return none
    | some (_, collection) =>
      if !security.isProtected collection then return none
      else match rowType? context with
        | none => return none
        | some type => do
          let row ← Act.build (Fresh.parameter rowParameter type)
          match context.request.auth.requireUser with
          | .error .authenticationRequired =>
            throw (.accessDenied (.authenticationRequired collection))
          | .ok user => do
            let test ← Act.attempt (fun error => .hookFailed "row_security" error.message)
              (security.ownership context.model user row)
            Act.build (restricted context test)

/-- The filter as a hook. -/
def hook (security : RowSecurity) : TreeHook := ⟨"row_security", security.filter⟩

end RowSecurity

end QueryRewriting.Access
