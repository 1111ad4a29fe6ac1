import QueryRewriting.Expr.Outline
import QueryRewriting.Rewriting.Hook
import QueryRewriting.Template.Basic

/-!
Rules: hooks that are given as data. A rule applies where all its conditions on the context hold.
It then leaves a note of where it applied, and acts: it offers a tree built from a template, the
node under visit itself, or nothing, or it gives the walk up.
-/

namespace QueryRewriting.Rewriting

/-- A condition on the context of a walk. -/
inductive Condition where
  | refersTo (name : String)
  | isReference (wanted : Bool)
  | boundAs (kind : String)
  | nodeText (text : String)
  | nodeKind (kind : String)
  | inLambdaBody (wanted : Bool)
  | hasRoot (wanted : Bool)
  | depthBelow (limit : Nat)
  | serviceRole (wanted : Bool)
  deriving DecidableEq, Inhabited

/-- What a rule does where it applies. Only an inspector can be made to reject. -/
inductive Action where
  | nothing
  | keep
  | offer (template : Template)
  | reject
  | fail (reason : String)
  | deny (reason : String)
  deriving Inhabited

/-- A hook that is given as data. -/
structure Rule where
  name : String
  conditions : List Condition := []
  action : Action := .nothing
  deriving Inhabited

/-- Whether a condition holds in a context. -/
def Condition.holds (context : Context) : Condition → Bool
  | .refersTo name => context.binding.reference?.any fun target => target.name == name
  | .isReference wanted => context.binding.isReference == wanted
  | .boundAs kind => context.binding.kind == kind
  | .nodeText text => context.node?.any fun node => node.text == text
  | .nodeKind kind => context.node?.any fun node => node.kind == kind
  | .inLambdaBody wanted => context.inLambdaBody == wanted
  | .hasRoot wanted => context.root.isSome == wanted
  | .depthBelow limit => context.depth < limit
  | .serviceRole wanted => context.request.auth.isService == wanted

/-- Builds a template for a hook. The placeholders stand for a row of the data under visit, for the
node under visit, and for the arguments of the reference. -/
def buildTemplate (template : Template) (hook : String) (site : Template.Site) (context : Context) :
    Act Error Expr := do
  let row ← Act.build (Fresh.parameter "it" (context.binding.elementType?.getD .any))
  let args := (context.binding.reference?.map DataReference.args).getD []
  Act.attempt (fun error => .hookFailed hook error.message)
    (template.build { site with row, node := context.node?, args })

namespace Rule

/-- Whether a rule applies. -/
def applies (rule : Rule) (context : Context) : Bool :=
  rule.conditions.all (Condition.holds context)

/-- The note of a rule that applies at a point. -/
def noteAt (rule : Rule) (point : Point) (context : Context) : String :=
  point.name ++ ":" ++ rule.name ++ ":" ++ (context.node?.map Expr.text).getD "-"

/-- What a rule that applies offers. -/
def offered (rule : Rule) (site : Template.Site) (context : Context) : Act Error (Option Expr) :=
  match rule.action with
  | .nothing | .reject => return none
  | .keep => return context.node?
  | .offer template => some <$> buildTemplate template rule.name site context
  | .fail reason => throw (.hookFailed rule.name reason)
  | .deny reason => throw (.accessDenied (.stated reason))

/-- Acts where the rule applies. -/
def run (rule : Rule) (point : Point) (site : Template.Site) (context : Context) :
    Act Error (Option Expr) := do
  if rule.applies context then
    Act.note (rule.noteAt point context)
    rule.offered site context
  else return none

/-- The rule as a hook that may offer a tree. -/
def treeHook (rule : Rule) (point : Point) (site : Template.Site) : TreeHook :=
  ⟨rule.name, rule.run point site⟩

/-- The rule as an inspector. What it offers does not matter. -/
def inspector (rule : Rule) (site : Template.Site) : Hook Bool where
  name := rule.name
  run := fun context => do
    let _ ← rule.run .inspect site context
    return !(rule.applies context && rule.action matches .reject)

end Rule

end QueryRewriting.Rewriting
