import QueryRewriting.Expr.Basic

/-!
Stores: named collections of rows in memory. A store is one backend instance with a proxy of its
own.
-/

namespace QueryRewriting.Evaluation

open Json

/-- A store of rows. -/
structure Store where
  proxy : ProxyId := ⟨"store"⟩
  collections : Entries (List Value) := []
  deriving DecidableEq, Inhabited

/-- Why data is no store. -/
inductive Store.Error where
  | notAnObject
  | rowsNotArray (collection : String)
  deriving DecidableEq

/-- The text of an error. -/
def Store.Error.message : Store.Error → String
  | .notAnObject => "Data must be an object of collections"
  | .rowsNotArray collection => s!"Collection '{collection}' must be an array"

namespace Store

/-- Gives a collection its rows; older rows are dropped. -/
def insert (store : Store) (name : String) (rows : List Value) : Store :=
  { store with collections := Entries.insert name rows store.collections }

/-- The rows of a collection. -/
def rows? (store : Store) (name : String) : Option (List Value) :=
  Entries.find? store.collections name

/-- Whether a collection is stored, with or without rows. -/
def contains (store : Store) (name : String) : Bool := Entries.contains store.collections name

/-- The names of the collections in order. -/
def names (store : Store) : List String := Entries.names store.collections

/-- The store that a JSON value describes: an object of arrays. -/
def ofValue (proxy : ProxyId) : Value → Except Store.Error Store
  | .object members =>
    members.foldlM (fun store (name, rows) =>
      match rows with
      | .array rows => .ok (store.insert name rows)
      | _ => .error (.rowsNotArray name)) { proxy }
  | _ => .error .notAnObject

end Store

end QueryRewriting.Evaluation
