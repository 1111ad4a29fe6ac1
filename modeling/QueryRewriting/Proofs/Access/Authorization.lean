import QueryRewriting.Access.ReadPolicy
import QueryRewriting.Proofs.Rewriting.Completion

/-! Nothing forbidden is ever sourced. A sourcer is only asked about references that all inspectors
have let pass. So with a read authorizer among them these are what the caller may read:
`sourced_of_permitted` says so of every walk, under arbitrary other hooks and whether the walk
succeeds or fails. -/
namespace QueryRewriting.Access.ReadAuthorizer

open Rewriting Schema

/-- That a caller may read the reference that a binding is. Its policy is the one on its own name,
or else that of its owner, which is its own name where no collection owns it alone. -/
def Grants (authorizer : ReadAuthorizer) (model : Model) (auth : Auth) (binding : Binding) : Prop :=
  ∃ reference, binding.reference? = some reference ∧
    (authorizer.effective reference.name
      ((binding.owner? model).getD reference.name)).permits auth = true

section Inspection

variable {authorizer : ReadAuthorizer} {model : Model} {request : RequestContext}
  {registry : Registry} {context : Context} {node : Expr}

/-- What the authorizer lets pass is either no reference or one that the caller may read. -/
theorem grants_of_inspect (passes : authorizer.inspect context = true)
    {reference : DataReference} (refers : context.binding.reference? = some reference) :
    authorizer.Grants context.model context.request.auth context.binding := by
  refine ⟨reference, refers, ?_⟩
  simpa [inspect, Context.reading?, refers] using passes

/-- A reference that has passed may be read in every frame of its own, since it is bound the same in
all of them. -/
theorem grants_of_passes (listed : authorizer.hook ∈ registry.inspectors)
    (source : node.isSource = true) (about : context.About model request node)
    (passes : registry.Passes model request node) :
    authorizer.Grants model request.auth context.binding := by
  obtain ⟨inspected, ambient, after, here, ran⟩ := passes authorizer.hook listed
  have passed : authorizer.inspect inspected = true := Except.ok.inj (congrArg Prod.fst ran)
  rw [here.isSource] at source
  obtain ⟨reference, refers⟩ := Option.isSome_iff_exists.mp source
  have granted := grants_of_inspect passed refers
  rw [here.model_eq, here.request_eq] at granted
  rwa [about.binding_eq here (here.isSource.trans source)]

end Inspection

section Whole

variable {authorizer : ReadAuthorizer} {model : Model} {registry : Registry}
  (clean : ∀ sourcer, registry.sourcer = some sourcer → sourcer.ReferenceFree)
  (listed : authorizer.hook ∈ registry.inspectors)

include clean listed

/-- Under a read authorizer a walk asks the sourcer about nothing but references that the caller may
read, whatever the other hooks do, and whether or not the walk gets to its end. -/
theorem sourced_of_permitted (query : Expr) (request : RequestContext) (maxDepth : Nat)
    (ambient : Ambient) :
    ∀ entry ∈ (run registry query { model, request, maxDepth } ambient).2.context.journal,
      (entry.point matches .source _) = true →
        authorizer.Grants model request.auth entry.frame.binding := by
  intro entry member sourcing
  obtain ⟨same, faithful⟩ := recorded_run registry query { model, request, maxDepth } ambient
  rw [same, (faithful rfl).journal_eq] at member
  obtain ⟨inquiry, asked, rfl⟩ := List.mem_map.mp member
  obtain ⟨node, source, about, passes⟩ :=
    vetted_recorded registry clean query model request maxDepth ambient inquiry asked sourcing
  exact grants_of_passes listed source about passes

end Whole

/-- A signed-in caller may read customers, and only they are ever sourced. -/
theorem customers_sourced :
    let model : Model := {
      space := "shop"
      entityTypes := [("Customer", { name := "Customer", fields := [] })]
      elements := [("Customers", .collection "Customers" "Customer")] }
    let store : Evaluation.Store := { collections := [("Customers", [])] }
    let authorizer : ReadAuthorizer := {
      default := .deny
      policies := [("Customers", .authenticated)] }
    let registry : Registry := { inspectors := [authorizer.hook], sourcer := some store.sourcer }
    let request : RequestContext := .ofCaller (.user ⟨7⟩)
    let walked := (run registry (.source ⟨0, .queryable (.entity "Customer")⟩ none "Customers" [])
      { model, request, maxDepth := 8 } {}).2.context
    walked.sourcingCalls = 1 ∧ ∀ entry ∈ walked.journal,
      (entry.point matches .source _) = true →
        authorizer.Grants model request.auth entry.frame.binding := by
  refine ⟨by decide +kernel, ?_⟩
  refine sourced_of_permitted ?_ (by simp) _ _ _ _
  rintro _ ⟨⟩
  exact Evaluation.Store.sourcer_referenceFree _

end QueryRewriting.Access.ReadAuthorizer
