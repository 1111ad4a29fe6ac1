import QueryRewriting.Access.RowFilter
import QueryRewriting.Access.View
import QueryRewriting.Template.Basic

/-!
Views and row predicates that are given as templates.
-/

namespace QueryRewriting.Template

/-- The view that a template defines: its placeholders for arguments stand for those of the
reference. -/
def view (template : Template) (shared : List (String × Expr)) : Access.ViewDefinition :=
  fun model args => template.build { model, shared, args }

/-- The row predicate that a template defines: its placeholder for the row stands for the row under
test. A predicate that cannot be built is `null`, which no collection filter accepts. -/
def predicate (template : Template) (site : Site) : Access.RowPredicate := fun row => do
  match ← (template.build { site with row := some row }).run with
  | .ok test => return test
  | .error _ => Fresh.constant .null

end QueryRewriting.Template
