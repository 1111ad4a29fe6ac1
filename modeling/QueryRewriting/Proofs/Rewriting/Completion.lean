import QueryRewriting.Proofs.Evaluation.Backend
import QueryRewriting.Proofs.Rewriting.Discipline

/-! A walk that succeeds leaves no data reference. Whatever the hooks return is walked again, except
for what a sourcer returns; so where a sourcer returns nothing that is still to be sourced, nothing
of the kind is left in the end. Nor does a reference get to the sourcer around the inspectors: one
that is asked about stands in its own place, where they have all let it pass. -/
namespace QueryRewriting.Rewriting

open Schema

/-- The sourcer was only asked about references that all inspectors have let pass. -/
def Registry.Vetted (registry : Registry) (model : Model) (request : RequestContext)
    (inquiries : List Inquiry) : Prop :=
  ∀ inquiry ∈ inquiries, inquiry.isSourcing = true → ∃ node, node.isSource = true ∧
    inquiry.context.About model request node ∧ registry.Passes model request node

section Vetting

variable {registry : Registry} {model : Model} {request : RequestContext}
  {inquiries : List Inquiry} {inquiry : Inquiry} {node : Expr} {mode : SourceMode}
  {root : Option Root}

/-- In the beginning the sourcer has not been asked. -/
theorem Registry.vetted_nil : registry.Vetted model request [] := List.forall_mem_nil _

theorem Registry.Vetted.ordinary (vetted : registry.Vetted model request inquiries)
    (ordinary : inquiry.isSourcing = false) :
    registry.Vetted model request (inquiry :: inquiries) := by
  refine List.forall_mem_cons.mpr ⟨fun sourcing => ?_, vetted⟩
  rw [ordinary] at sourcing
  contradiction

/-- A tree without references is not what the sourcer is asked about. -/
theorem Registry.Vetted.sourcing (vetted : registry.Vetted model request inquiries)
    (seeks : inquiry.Seeks model request mode root node)
    (stands : node.hasDataReference = false ∨
      node = node ∧ node.isSource = true ∧ registry.Passes model request node) :
    registry.Vetted model request (inquiry :: inquiries) := by
  refine List.forall_mem_cons.mpr ⟨fun _ => ?_, vetted⟩
  rcases stands with free | ⟨-, source, passes⟩
  · have source := seeks.source
    rw [Expr.isSource_of_hasDataReference free] at source
    contradiction
  · exact ⟨node, source, seeks.about, passes⟩

end Vetting

/-- Of a node a visit makes a tree without data references. Until then the only other tree that may
stand for it is the node itself where it is one that has passed the inspectors, which is sourced at
the end of its frame. -/
def completion {registry : Registry}
    (clean : ∀ sourcer ∈ registry.sourcer, sourcer.ReferenceFree) (model : Model)
    (request : RequestContext) : Discipline registry model request where
  holds _ inquiries := registry.Vetted model request inquiries
  failed _ _ inquiries := registry.Vetted model request inquiries
  stands _ node tree := tree.hasDataReference = false ∨
    tree = node ∧ node.isSource = true ∧ registry.Passes model request node
  made _ _ tree := tree.hasDataReference = false
  failed_of_holds _ vetted := vetted
  stands_later _ stands := stands
  made_later _ made := made
  stands_source source passes := .inr ⟨rfl, source, passes⟩
  stands_itself := by
    rintro _ node tree (free | ⟨rfl, passed⟩)
    · exact .inl free
    · exact .inr ⟨rfl, passed⟩
  stands_made free := .inl free
  stands_rebuilt := by
    intro _ node given supply plain made
    exact .inl (Expr.hasDataReference_withChildren supply plain made)
  made_settled := by
    rintro _ node tree (free | ⟨same, source, -⟩) settled
    · exact free
    · rw [settled same] at source
      contradiction
  made_taken _ free := free
  made_substituted _ free := free
  holds_asked vetted ordinary _ _ _ := vetted.ordinary ordinary
  failed_mistyped vetted ordinary _ _ _ _ := vetted.ordinary ordinary
  failed_root _ vetted seeks stands := vetted.sourcing seeks stands
  holds_root vetted seeks stands _ := vetted.sourcing seeks stands
  failed_embedded _ vetted seeks stands _ := vetted.sourcing seeks stands
  holds_embedded vetted seeks stands _ _ := vetted.sourcing seeks stands
  made_root := by
    rintro _ stamp proxy element node tree ⟨sourcer, registered, _, _, _, -, ran⟩ - -
    exact clean sourcer registered _ _ _ _ _ ran
  made_embedded := by
    rintro root _ node tree ⟨sourcer, registered, _, _, _, -, ran⟩ - - - -
    exact clean sourcer registered _ _ _ _ _ ran

/-- Where the sourcer returns no data reference, it is asked about nothing in any walk but what all
inspectors have let pass. -/
theorem vetted_recorded (registry : Registry)
    (clean : ∀ sourcer ∈ registry.sourcer, sourcer.ReferenceFree) (query : Expr) (model : Model)
    (request : RequestContext) (maxDepth : Nat) (ambient : Ambient) :
    registry.Vetted model request
      (recorded registry query { model, request, maxDepth } ambient).2.inquiries := by
  rcases ran : recorded registry query { model, request, maxDepth } ambient
    with ⟨error | tree, after⟩
  · exact (completion clean model request).keeps_of_error Registry.vetted_nil ran
  · exact ((completion clean model request).keeps_of_ok Registry.vetted_nil ran).1

/-- Where the sourcer returns no data reference, a walk that succeeds with whatever other hooks
leaves none among the nodes of its tree. -/
theorem sourceless_of_run (registry : Registry)
    (clean : ∀ sourcer ∈ registry.sourcer, sourcer.ReferenceFree) (query : Expr) (model : Model)
    (request : RequestContext) (maxDepth : Nat) (ambient : Ambient) {tree : Expr}
    (ran : (run registry query { model, request, maxDepth } ambient).1 = .ok tree) :
    ∀ node ∈ tree.nodes, node.isSource = false := by
  have free : tree.hasDataReference = false := by
    rw [(recorded_run registry query { model, request, maxDepth } ambient).1] at ran
    exact ((completion clean model request).keeps_of_ok Registry.vetted_nil (Prod.ext ran rfl)).2
  intro node member
  have none : tree.nodes.any Expr.isSource = false := by
    rw [← Expr.hasNode_eq_any]
    exact free
  simpa using List.any_eq_false.mp none node member

/-- Both references of a query are gone once it is walked, also the one in a predicate. -/
theorem orders_sourceless :
    let model : Model := {
      space := "shop"
      entityTypes := [("Order", { name := "Order", fields := [] })]
      elements := [("Orders", .collection "Orders" "Order")] }
    let store : Evaluation.Store := { collections := [("Orders", [])] }
    let orders (id : Nat) : Expr := .source ⟨id, .queryable (.entity "Order")⟩ none "Orders" []
    let query : Expr := .call ⟨0, .queryable (.entity "Order")⟩ .filter [orders 1,
      .lambda ⟨2, .bool⟩ "o" (.call ⟨3, .bool⟩ .any [orders 4])]
    ∃ tree, (run { sourcer := some store.sourcer } query
        { model, request := .ofCaller .service, maxDepth := 8 } {}).1 = .ok tree ∧
      ∀ node ∈ tree.nodes, node.isSource = false := by
  intro model store orders query
  have succeeds : (run { sourcer := some store.sourcer } query
      { model, request := .ofCaller .service, maxDepth := 8 } {}).1.isOk = true := by
    decide +kernel
  obtain ⟨tree, after, ran⟩ := exists_of_isOk succeeds
  have ran := congrArg Prod.fst ran
  refine ⟨tree, ran, sourceless_of_run _ ?_ _ _ _ _ _ ran⟩
  rintro _ ⟨⟩
  exact Evaluation.Store.sourcer_referenceFree _

end QueryRewriting.Rewriting
