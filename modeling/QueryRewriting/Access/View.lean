import QueryRewriting.Rewriting.Hook

/-!
Views: sources that are defined as queries over other sources. The definition receives the
arguments of the reference, so a function can be a view as well as a collection.
-/

namespace QueryRewriting.Access

open Rewriting Schema

/-- The definition of a view, from the model and the arguments of a reference. -/
abbrev ViewDefinition := Model → List Expr → ExceptT Schema.Error Fresh Expr

/-- The views by name. -/
structure Views where
  definitions : Entries ViewDefinition := []

namespace Views

/-- Whether a name is a view. -/
def defines (views : Views) (name : String) : Bool := Entries.contains views.definitions name

/-- The definition of the view under visit, if there is one. -/
def expand (views : Views) (context : Context) : Act Rewriting.Error (Option Expr) :=
  match context.binding.reference? with
  | none => return none
  | some reference =>
    match Entries.find? views.definitions reference.name with
    | none => return none
    | some definition =>
      some <$> Act.attempt
        (fun error => .hookFailed "views" (reference.name ++ ": " ++ error.message))
        (definition context.model reference.args)

/-- The expander. -/
def hook (views : Views) : TreeHook := ⟨"views", views.expand⟩

/-- The text of the views: their names. -/
def text (views : Views) : String :=
  "ViewExpander \x7b views: " ++ NameList.text (Entries.names views.definitions) ++ " \x7d"

end Views

end QueryRewriting.Access
