import QueryRewriting.NameList
import QueryRewriting.Request.Ambient
import QueryRewriting.Rewriting.Context

/-!
Hooks and registries. A hook sees the context of the walk and acts in the surroundings of the
request. Normalizers and expanders offer a replacement of the node under visit, filters a wrapping
of it, inspectors a verdict, and the one sourcer turns data references into native fragments.
-/

namespace QueryRewriting.Rewriting

open Json

/-- A hook that answers with an `α`. -/
structure Hook (α : Type) where
  name : String
  run : Context → Act Error α

/-- A hook that may offer a tree. -/
abbrev TreeHook := Hook (Option Expr)

/-- Turns data references into native fragments. -/
structure Sourcer where
  name : String
  run : SourceMode → Context → Act Error (Option Expr)

/-- A sourcer as a hook, once it is known what is asked of it. -/
def Sourcer.hook (sourcer : Sourcer) (mode : SourceMode) : TreeHook where
  name := sourcer.name
  run := sourcer.run mode

/-- What a hook answers: a tree or none, a verdict, or an error. -/
inductive Answer where
  | offer (tree : Option Expr)
  | verdict (passes : Bool)
  | failure (error : Error)
  deriving DecidableEq

/-- The answer that an outcome of a hook is. -/
def Answer.ofOutcome (answer : α → Answer) : Except Error α → Answer
  | .ok value => answer value
  | .error error => .failure error

/-- A hook is asked. It sees a context whose journal has its own consultation as the latest. -/
structure Inquiry where
  point : Point
  hook : String
  context : Context
  answer : Answer
  deriving DecidableEq

/-- A native fragment for a reference; as a root it is a query of its own. -/
def nativeFor (reference : DataReference) (proxy : ProxyId) (mode : SourceMode) : Fresh Expr := do
  let type := reference.logicalType
  let fragment ← Fresh.native proxy reference.name type
  match mode with
  | .root => Fresh.queryable proxy type.elementOrSelf fragment
  | .embedded => return fragment

/-- The sourcer with a note whenever it is asked: what is asked of it, and for which reference. -/
def Sourcer.noted (sourcer : Sourcer) : Sourcer where
  name := sourcer.name
  run := fun mode context => do
    let reference := (context.binding.reference?.map DataReference.name).getD ""
    Act.note ("source:" ++ sourcer.name ++ ":" ++ mode.name ++ ":" ++ reference)
    sourcer.run mode context

/-- The hooks of an engine, each kind in the order of registration. -/
structure Registry where
  normalizers : List TreeHook := []
  inspectors : List (Hook Bool) := []
  expanders : List TreeHook := []
  filters : List TreeHook := []
  sourcer : Option Sourcer := none

namespace Registry

/-- The names of the hooks by kind. -/
def hookNames (registry : Registry) : List (String × List String) := [
  ("normalizers", registry.normalizers.map Hook.name),
  ("inspectors", registry.inspectors.map Hook.name),
  ("expanders", registry.expanders.map Hook.name),
  ("filters", registry.filters.map Hook.name)]

/-- The JSON form of a registry: the names of its hooks. -/
def toValue (registry : Registry) : Value :=
  Value.ofMembers (("sourcer", .ofString? (registry.sourcer.map Sourcer.name)) ::
    registry.hookNames.map fun (kind, names) => (kind, .array (names.map .string)))

/-- The text of a registry: the names of its hooks. -/
def text (registry : Registry) : String :=
  let sourcer := match registry.sourcer with
    | some sourcer => "Some(" ++ NameList.quoted sourcer.name ++ ")"
    | none => "None"
  let kinds := registry.hookNames.map fun (kind, names) => kind ++ ": " ++ NameList.text names
  "HookRegistry \x7b " ++ String.intercalate ", " (kinds ++ ["sourcer: " ++ sourcer]) ++ " \x7d"

end Registry

end QueryRewriting.Rewriting
