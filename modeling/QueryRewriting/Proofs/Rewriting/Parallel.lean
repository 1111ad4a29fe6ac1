import QueryRewriting.Proofs.Access.Addressing
import QueryRewriting.Proofs.Expr.Twin
import QueryRewriting.Proofs.Rewriting.Abreast

/-! The contexts of two walks over trees that are alike up to how the source of the rows is
addressed. In the frames of nodes that are alike the walks have the same references, and leaving them
the walks take the rows to be from the same collection. -/
namespace QueryRewriting

open Schema

/-- Outside of lambdas nodes that are alike are bound to the same data, whatever the arguments of
references, unless one of them is a member of the root. -/
theorem Binding.ofNode_bare {root : String} {model : Model} {allowed : Bool} {e e' : Expr}
    (twin : e.Twin root model allowed e') (settled : e.isSource = e'.isSource)
    {binding binding' : Binding}
    (bound : ofNode model (fun _ => .ok .unbound) e = .ok binding)
    (bound' : ofNode model (fun _ => .ok .unbound) e' = .ok binding') :
    binding'.bare = binding.bare := by
  induction twin generalizing binding binding' with
  | rooted => contradiction
  | source _ qualifier name =>
    rw [ofNode] at bound bound'
    cases found : model.resolve? qualifier name with
    | none =>
      rw [found] at bound
      contradiction
    | some element =>
      rw [found] at bound bound'
      cases bound
      cases bound'
      rfl
  | member _ below name ih =>
    obtain ⟨owner, target, rfl⟩ := ofNode_member bound
    obtain ⟨owner', target', rfl⟩ := ofNode_member bound'
    rw [bare_propertyOf, bare_propertyOf, ih below.isSource_eq target target']
  | _ =>
    cases bound
    cases bound'
    rfl

namespace Rewriting

/-- Two walks are about to visit trees that are alike. -/
structure Parallel (access : Access.RootMember) (schema : Model) (context other : Context) :
    Prop extends Beside context other where
  modelled : context.model = schema
  flanked : Flanked access.root schema context.around other.around

/-- Two walks are in the frames of nodes that are alike. -/
structure Across (access : Access.RootMember) (schema : Model) (allowed : Bool) (e e' : Expr)
    (context other : Context) : Prop extends Beside context other where
  modelled : context.model = schema
  twin : e.Twin access.root schema allowed e'
  framed : context.Framed e
  framed' : other.Framed e'
  flanked : Flanked access.root schema context.outside other.outside
  bare : allowed = true → ∀ node ∈ context.outside, node.isLambda = false

variable {access : Access.RootMember} {schema : Model} {allowed : Bool} {e e' : Expr}
  {context other later later' : Context}

theorem Parallel.of_setting (parallel : Parallel access schema context other)
    (same : later.setting = context.setting) (same' : later'.setting = other.setting)
    (found : FoundAlike later later') : Parallel access schema later later' where
  toBeside := parallel.toBeside.of_setting same same' found
  modelled := (congrArg (·.model) same : later.model = context.model).trans parallel.modelled
  flanked := by
    rw [Context.around_of_setting same, Context.around_of_setting same']
    exact parallel.flanked

theorem Across.of_setting (across : Across access schema allowed e e' context other)
    (same : later.setting = context.setting) (same' : later'.setting = other.setting)
    (found : FoundAlike later later') : Across access schema allowed e e' later later' where
  toBeside := across.toBeside.of_setting same same' found
  modelled := (congrArg (·.model) same : later.model = context.model).trans across.modelled
  twin := across.twin
  framed := across.framed.of_setting same
  framed' := across.framed'.of_setting same'
  flanked := by
    rw [Context.outside_of_setting same, Context.outside_of_setting same']
    exact across.flanked
  bare := by
    rw [Context.outside_of_setting same]
    exact across.bare

/-- Nodes that are alike may take the frames over. -/
theorem Across.reframed (across : Across access schema allowed e e' context other)
    {node node' : Expr} (twin : node.Twin access.root schema allowed node')
    (reframed : context.Reframed node later) (reframed' : other.Reframed node' later') :
    Across access schema allowed node node' later later' where
  toBeside := across.toBeside.reframed reframed reframed'
  modelled := by
    rw [reframed.frames_only]
    exact across.modelled
  twin := twin
  framed := reframed.framed
  framed' := reframed'.framed
  flanked := by
    rw [reframed.outside, reframed'.outside]
    exact across.flanked
  bare := by
    rw [reframed.outside]
    exact across.bare

/-- What is made of references that are alike may be put in their place. -/
theorem Across.substitute (across : Across access schema allowed e e' context other)
    (current current' : Expr) :
    Across access schema allowed e e' (context.substitute e current)
      (other.substitute e' current') where
  toBeside := across.toBeside.substitute e e' current current'
  modelled := across.modelled
  twin := across.twin
  framed := across.framed
  framed' := across.framed'
  flanked := across.flanked
  bare := across.bare

/-- Nodes that are alike are bound alike. -/
theorem Parallel.bound (parallel : Parallel access schema context other)
    (twin : e.Twin access.root schema allowed e')
    (bare : allowed = true → ∀ node ∈ context.around, node.isLambda = false) :
    Binding.BoundAlike (Binding.bind context.model context.around e)
      (Binding.bind context.model other.around e') := by
  rw [parallel.modelled]
  exact Binding.ofNode_twin twin (Binding.ofParameter_twin parallel.flanked)
    fun same => Binding.ofParameter_of_lambdaFree access.root (bare same)

/-- In their frames nodes that are alike are across from each other. -/
theorem Parallel.across (parallel : Parallel access schema context other)
    (twin : e.Twin access.root schema allowed e')
    (bare : allowed = true → ∀ node ∈ context.around, node.isLambda = false)
    (beside : Beside later later') (pushed : context.push (some e) = .ok later)
    (pushed' : other.push (some e') = .ok later') :
    Across access schema allowed e e' later later' where
  toBeside := beside
  modelled := by
    rw [Context.push_frames pushed]
    exact parallel.modelled
  twin
  framed := .of_push pushed
  framed' := .of_push pushed'
  flanked := by
    rw [Context.outside_push pushed, Context.outside_push pushed']
    exact parallel.flanked
  bare := by
    rw [Context.outside_push pushed]
    exact bare

theorem Parallel.unframed (parallel : Parallel access schema context other)
    (beside : Beside later later') (pushed : context.push none = .ok later)
    (pushed' : other.push none = .ok later') : Parallel access schema later later' where
  toBeside := beside
  modelled := by
    rw [Context.push_frames pushed]
    exact parallel.modelled
  flanked := by
    rw [Context.around_push_none pushed, Context.around_push_none pushed']
    exact parallel.flanked

/-- The children of nodes that are alike are visited in parallel. -/
theorem Across.parallel (across : Across access schema allowed e e' context other)
    (placed : e.isLambda = true → Placed e context.outside ∧ Placed e' other.outside) :
    Parallel access schema context other where
  toBeside := across.toBeside
  modelled := across.modelled
  flanked := by
    rw [across.framed.around, across.framed'.around]
    exact .cons across.flanked across.twin across.bare placed

/-- References that are alike refer to the same source. -/
theorem Across.references (across : Across access schema allowed e e' context other)
    (source : e.isSource = true) :
    ∃ target args, context.binding = .reference target ∧
      other.binding = .reference { target with args } := by
  obtain ⟨binding, frames, bound⟩ := across.framed
  obtain ⟨binding', frames', bound'⟩ := across.framed'
  rw [Context.binding_of_frames frames, Context.binding_of_frames frames']
  have twin := across.twin
  cases twin with
  | source _ qualifier name args args' =>
    obtain ⟨target, rfl⟩ := Binding.ofNode_of_isSource source (Context.bindIn_ok bound)
    obtain ⟨target', rfl⟩ := Binding.ofNode_of_isSource rfl (Context.bindIn_ok bound')
    obtain ⟨-, stamp, same, found⟩ := Context.bindIn_reference bound rfl
    obtain ⟨-, stamp', same', found'⟩ := Context.bindIn_reference bound' rfl
    rw [across.model] at found'
    cases target with
    | mk qualifier name args element =>
    cases target' with
    | mk qualifier' name' args' element' =>
    cases same
    cases same'
    cases found.symm.trans found'
    exact ⟨_, args', rfl, rfl⟩
  | _ => contradiction

theorem Across.matching (across : Across access schema allowed e e' context other)
    (settled : e.isSource = e'.isSource) : Matching e e' context other where
  toBeside := across.toBeside
  type_eq := across.twin.type_eq
  isSource_eq := settled
  framed := across.framed
  framed' := across.framed'
  references := across.references

/-- What the walks take for the collection of the rows stays the same when they leave the frames. -/
theorem Across.collection_pop (across : Across access schema allowed e e' context other)
    (settled : e.isSource = e'.isSource) : other.pop.collection = context.pop.collection := by
  apply across.toBeside.collection_pop across.framed across.framed' across.flanked.any_isLambda
  intro binding binding' bound bound'
  rw [across.modelled] at bound bound'
  have same := Binding.ofNode_bare across.twin settled bound bound'
  rw [← Binding.owner?_bare binding', same, Binding.owner?_bare]

end Rewriting

end QueryRewriting
