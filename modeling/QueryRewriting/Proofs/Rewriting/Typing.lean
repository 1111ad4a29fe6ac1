import QueryRewriting.Proofs.Rewriting.Discipline

/-! Walks preserve types. What a walk makes of a query is acceptable where the query is. A hook that
offers a tree of a wrong type is found out at once: the walk ends with its name, and nobody is asked
after it. -/
namespace QueryRewriting.Rewriting

open Schema

/-- A normalizer, expander or filter has offered a tree that is not acceptable where the node under
visit is. Such a tree is neither the node itself nor what the filters before have made of it. -/
structure Inquiry.Mistyped (inquiry : Inquiry) (node offered : Expr) : Prop where
  ordinary : inquiry.isSourcing = false
  under : inquiry.context.node? = some node
  answer : inquiry.answer = .offer (some offered)
  refused : node.type.accepts offered.type = false

theorem Inquiry.Mistyped.of_sourcing {inquiry : Inquiry} {node offered : Expr} {mode : SourceMode}
    (mistyped : inquiry.Mistyped node offered) (sourcing : inquiry.point = .source mode) :
    False := by
  have ordinary := mistyped.ordinary
  rw [Inquiry.isSourcing, sourcing] at ordinary
  contradiction

/-- No offer so far was of a wrong type. -/
def WellTyped (inquiries : List Inquiry) : Prop :=
  ∀ inquiry ∈ inquiries, ∀ node offered, ¬inquiry.Mistyped node offered

/-- An offer of a wrong type is the last one, and the reason of the failure. -/
def Caught (error : Error) (inquiries : List Inquiry) : Prop :=
  ∀ later inquiry earlier node offered, inquiries = later ++ inquiry :: earlier →
    inquiry.Mistyped node offered →
      error = .typeMismatch inquiry.hook node.type offered.type ∧ later = []

section Inquiries

variable {inquiry : Inquiry} {inquiries : List Inquiry}

theorem wellTyped_nil : WellTyped [] := by
  intro inquiry member
  contradiction

theorem WellTyped.caught (typed : WellTyped inquiries) (error : Error) :
    Caught error inquiries := by
  rintro later inquiry earlier node offered rfl mistyped
  exact (typed inquiry (by simp) node offered mistyped).elim

theorem WellTyped.cons (typed : WellTyped inquiries)
    (fits : ∀ node offered, ¬inquiry.Mistyped node offered) : WellTyped (inquiry :: inquiries) := by
  intro asked member
  rcases List.mem_cons.mp member with rfl | member
  · exact fits
  · exact typed asked member

theorem WellTyped.sourcing {mode : SourceMode} (typed : WellTyped inquiries)
    (sourcing : inquiry.point = .source mode) : WellTyped (inquiry :: inquiries) :=
  typed.cons fun _ _ mistyped => mistyped.of_sourcing sourcing

theorem WellTyped.mistyped {node offered : Expr} (typed : WellTyped inquiries)
    (mistyped : inquiry.Mistyped node offered) :
    Caught (.typeMismatch inquiry.hook node.type offered.type) (inquiry :: inquiries) := by
  intro later asked earlier node' offered' split mistyped'
  cases later with
  | nil =>
    obtain ⟨rfl, rfl⟩ := List.cons.inj split
    cases mistyped.under.symm.trans mistyped'.under
    cases mistyped.answer.symm.trans mistyped'.answer
    exact ⟨rfl, rfl⟩
  | cons first later =>
    obtain ⟨-, rfl⟩ := List.cons.inj split
    exact (typed asked (by simp) node' offered' mistyped').elim

end Inquiries

/-- Whatever stands for a node, or is made of it, is acceptable where the node is. -/
def typing (registry : Registry) (model : Model) (request : RequestContext) :
    Discipline registry model request where
  holds _ inquiries := WellTyped inquiries
  failed error _ inquiries := Caught error inquiries
  stands _ node tree := node.type.accepts tree.type = true
  made _ node tree := node.type.accepts tree.type = true
  failed_of_holds error typed := typed.caught error
  stands_later _ stands := stands
  made_later _ made := made
  stands_source _ _ := QueryType.accepts_refl _
  stands_itself _ := QueryType.accepts_refl _
  stands_made made := made
  stands_rebuilt := by
    intro _ node given supply _ _
    rw [Expr.type_withChildren]
    exact QueryType.accepts_refl _
  made_settled stands _ := stands
  made_taken takes made := QueryType.accepts_trans takes.accepted made
  made_substituted stands made := QueryType.accepts_trans stands made
  holds_asked := by
    intro _ inquiries inquiry node typed ordinary _ about fits
    refine typed.cons fun node' offered mistyped => ?_
    cases about.under.symm.trans mistyped.under
    have refused := mistyped.refused
    rw [or_self_iff.mp (fits offered mistyped.answer)] at refused
    contradiction
  failed_mistyped typed ordinary _ about answer refused :=
    typed.mistyped ⟨ordinary, about.under, answer, refused⟩
  failed_root error typed seeks _ := (typed.sourcing seeks.point).caught error
  holds_root typed seeks _ _ := typed.sourcing seeks.point
  failed_embedded error typed seeks _ _ := (typed.sourcing seeks.point).caught error
  holds_embedded typed seeks _ _ _ := typed.sourcing seeks.point
  made_root _ _ accepted := accepted
  made_embedded _ _ accepted _ _ := accepted

/-- A walk that succeeds makes of its query a tree that is acceptable in its place. An offer of a
wrong type fails the walk in the name of its hook, and is the last inquiry, in the record as in the
journal. -/
theorem typed_run (registry : Registry) (query : Expr) (model : Model) (request : RequestContext)
    (maxDepth : Nat) (ambient : Ambient) :
    let walked := recorded registry query { model, request, maxDepth } ambient
    run registry query { model, request, maxDepth } ambient = (walked.1, walked.2.toState) ∧
      (∀ tree, walked.1 = .ok tree → query.type.accepts tree.type = true) ∧
      ∀ later inquiry earlier node offered,
        walked.2.inquiries = later ++ inquiry :: earlier → inquiry.Mistyped node offered →
          walked.1 = .error (.typeMismatch inquiry.hook node.type offered.type) ∧ later = [] ∧
            walked.2.context.journal = inquiry.context.journal := by
  intro walked
  obtain ⟨same, faithful⟩ := recorded_run registry query { model, request, maxDepth } ambient
  have told : walked.2.Faithful := faithful rfl
  refine ⟨same, ?_⟩
  rcases ran : walked with ⟨error | tree, recording⟩
  · refine ⟨nofun, fun later inquiry earlier node offered split mistyped => ?_⟩
    have caught : Caught error recording.inquiries :=
      (typing registry model request).keeps_of_error wellTyped_nil ran
    obtain ⟨rfl, rfl⟩ := caught later inquiry earlier node offered split mistyped
    rw [ran, Recording.Faithful, split] at told
    exact ⟨rfl, rfl, told.latest⟩
  · obtain ⟨typed, accepted⟩ := (typing registry model request).keeps_of_ok wellTyped_nil ran
    refine ⟨fun _ same => Except.ok.inj same ▸ accepted, ?_⟩
    intro later inquiry earlier node offered split mistyped
    have member : inquiry ∈ recording.inquiries := by
      rw [split]
      simp
    exact (typed inquiry member node offered mistyped).elim

/-- A normalizer that offers a number for the orders is the only one that is ever asked. -/
theorem narrowing_caught :
    let model : Model := {
      space := "shop"
      entityTypes := [("Order", { name := "Order", fields := [] })]
      elements := [("Orders", .collection "Orders" "Order")] }
    let request : RequestContext := .ofCaller .service
    let orders : Expr := .source ⟨0, .queryable (.entity "Order")⟩ none "Orders" []
    let zero : Expr := .value ⟨1, .int⟩ .null
    let narrow : TreeHook := { name := "narrow", run := fun _ => pure (some zero) }
    let walked := recorded { normalizers := [narrow] } orders { model, request, maxDepth := 8 } {}
    let frame : Frame := ⟨some orders, .reference
      { qualifier := none, name := "Orders", args := [], element := .collection "Orders" "Order" }⟩
    let journal : List Consultation := [⟨.normalize, "narrow", frame, 2⟩]
    let context : Context := { model, request, maxDepth := 8, frames := [frame, {}], journal }
    let asked : Inquiry := ⟨.normalize, "narrow", context, .offer (some zero)⟩
    walked.2.inquiries = [asked] ∧ asked.Mistyped orders zero ∧
      walked.1 = .error (.typeMismatch "narrow" (.queryable (.entity "Order")) .int) := by
  intro model request orders zero narrow walked frame journal context asked
  have only : walked.2.inquiries = [asked] := by decide +kernel
  have mistyped : asked.Mistyped orders zero := ⟨rfl, rfl, rfl, rfl⟩
  have caught := (typed_run { normalizers := [narrow] } orders model request 8 {}).2.2
  exact ⟨only, mistyped, (caught [] asked [] orders zero only mistyped).1⟩

end QueryRewriting.Rewriting
