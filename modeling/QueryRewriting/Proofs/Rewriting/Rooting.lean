import QueryRewriting.Evaluation.Backend
import QueryRewriting.Proofs.Rewriting.Discipline

/-! A walk has one root at most. The sourcer is asked for the root first and only once, and then for
fragments relative to it; the root that its answer makes stays the root to the end. -/
namespace QueryRewriting.Rewriting

open Schema

/-- What a sourcer is asked for at a point. -/
def Point.mode? : Point → Option SourceMode
  | .source mode => some mode
  | _ => none

/-- What the sourcer was asked for, the first inquiry first. -/
def modes (inquiries : List Inquiry) : List SourceMode :=
  inquiries.reverse.filterMap (·.point.mode?)

/-- How a root comes about, inquiry by inquiry. -/
inductive Rooted : Option Root → List Inquiry → Prop
  | start : Rooted none []
  | asked {root : Option Root} {inquiry : Inquiry} {inquiries : List Inquiry} :
    Rooted root inquiries → inquiry.point.mode? = none → inquiry.context.root = root →
      Rooted root (inquiry :: inquiries)
  | found {inquiry : Inquiry} {inquiries : List Inquiry} {stamp : Stamp} {proxy : ProxyId}
    {element : QueryType} {tree : Expr} :
    Rooted none inquiries → inquiry.point.mode? = some .root → inquiry.context.root = none →
      inquiry.answer = .offer (some (.queryable stamp proxy element tree)) →
      Rooted (some ⟨proxy, element, tree⟩) (inquiry :: inquiries)
  | embedded {root : Root} {inquiry : Inquiry} {inquiries : List Inquiry} :
    Rooted (some root) inquiries → inquiry.point.mode? = some .embedded →
      inquiry.context.root = some root → Rooted (some root) (inquiry :: inquiries)

/-- The sourcer was asked for the root in the end, and nothing came of it. -/
def Uprooted (inquiries : List Inquiry) : Prop :=
  ∃ inquiry earlier, inquiries = inquiry :: earlier ∧ Rooted none earlier ∧
    inquiry.point.mode? = some .root ∧ inquiry.context.root = none

theorem Inquiry.Seeks.mode?_eq {model : Model} {request : RequestContext} {inquiry : Inquiry}
    {mode : SourceMode} {root : Option Root} {node : Expr}
    (seeks : inquiry.Seeks model request mode root node) : inquiry.point.mode? = some mode := by
  rw [seeks.point, Point.mode?]

/-- Root and inquiries go together. -/
def rooting (registry : Registry) (model : Model) (request : RequestContext) :
    Discipline registry model request where
  holds root inquiries := Rooted root inquiries
  failed _ root inquiries := Rooted root inquiries ∨ root = none ∧ Uprooted inquiries
  stands _ _ _ := True
  made _ _ _ := True
  failed_of_holds _ rooted := .inl rooted
  stands_later _ _ := trivial
  made_later _ _ := trivial
  stands_source _ _ := trivial
  stands_itself _ := trivial
  stands_made _ := trivial
  stands_rebuilt _ _ _ := trivial
  made_settled _ _ := trivial
  made_taken _ _ := trivial
  made_substituted _ _ := trivial
  holds_asked := by
    intro root inquiries inquiry node rooted ordinary seen _ _
    refine rooted.asked ?_ seen
    cases point : inquiry.point <;> simp_all [Inquiry.isSourcing, Point.mode?]
  failed_mistyped := by
    intro root inquiries inquiry node offered rooted ordinary seen _ _ _
    refine .inl (rooted.asked ?_ seen)
    cases point : inquiry.point <;> simp_all [Inquiry.isSourcing, Point.mode?]
  failed_root _ rooted seeks _ := .inr ⟨rfl, _, _, rfl, rooted, seeks.mode?_eq, seeks.seen⟩
  holds_root rooted seeks _ answer := rooted.found seeks.mode?_eq seeks.seen answer
  failed_embedded _ rooted seeks _ _ := .inl (rooted.embedded seeks.mode?_eq seeks.seen)
  holds_embedded rooted seeks _ _ _ := rooted.embedded seeks.mode?_eq seeks.seen
  made_root _ _ _ := trivial
  made_embedded _ _ _ _ _ := trivial

namespace Rooted

variable {root : Option Root} {inquiries : List Inquiry}

/-- Without a root nobody has been asked for one, and nobody has seen one. -/
theorem rootless (rooted : Rooted none inquiries) :
    ∀ inquiry ∈ inquiries, inquiry.point.mode? = none ∧ inquiry.context.root = none := by
  generalize none_eq : (none : Option Root) = root at rooted
  induction rooted with
  | start =>
    intro inquiry member
    contradiction
  | asked _ ordinary seen ih =>
    subst none_eq
    intro inquiry member
    rcases List.mem_cons.mp member with rfl | member
    · exact ⟨ordinary, seen⟩
    · exact ih rfl inquiry member
  | found | embedded => contradiction

theorem modes_cons (inquiry : Inquiry) (inquiries : List Inquiry) :
    modes (inquiry :: inquiries) = modes inquiries ++ inquiry.point.mode?.toList := by
  unfold modes
  rw [List.reverse_cons, List.filterMap_append]
  cases mode : inquiry.point.mode? <;> simp [mode]

/-- With a root, the sourcer was asked for it and then for fragments. -/
theorem modes_eq (rooted : Rooted root inquiries) :
    modes inquiries = [] ∧ root = none ∨
      (∃ n, modes inquiries = .root :: List.replicate n .embedded) ∧ root.isSome = true := by
  induction rooted with
  | start => exact .inl ⟨rfl, rfl⟩
  | asked _ ordinary _ ih =>
    rw [modes_cons, ordinary, Option.toList_none, List.append_nil]
    exact ih
  | found _ asked _ _ ih =>
    rw [modes_cons, asked]
    rcases ih with ⟨none, -⟩ | ⟨-, some⟩
    · rw [none]
      exact .inr ⟨⟨0, rfl⟩, rfl⟩
    · contradiction
  | embedded _ asked _ ih =>
    rw [modes_cons, asked]
    rcases ih with ⟨-, none⟩ | ⟨⟨n, before⟩, -⟩
    · contradiction
    · refine .inr ⟨⟨n + 1, ?_⟩, rfl⟩
      rw [before, List.replicate_succ']
      rfl

/-- Nobody has seen a root before the sourcer was asked for it; everybody has seen the one that it
answered with from then on. -/
theorem at_root (rooted : Rooted root inquiries) {later earlier : List Inquiry} {inquiry : Inquiry}
    (split : inquiries = later ++ inquiry :: earlier)
    (asked : inquiry.point.mode? = some .root) :
    (∀ before ∈ inquiry :: earlier, before.context.root = none) ∧
      ∃ stamp proxy element tree,
        inquiry.answer = .offer (some (.queryable stamp proxy element tree)) ∧
          root = some ⟨proxy, element, tree⟩ ∧
          ∀ after ∈ later, after.context.root = some ⟨proxy, element, tree⟩ := by
  induction rooted generalizing later with
  | start => simp at split
  | asked _ ordinary seen ih =>
    cases later with
    | nil =>
      cases split
      rw [asked] at ordinary
      contradiction
    | cons first later =>
      obtain ⟨rfl, rest⟩ := List.cons.inj split
      obtain ⟨rootless, stamp, proxy, element, tree, answer, same, kept⟩ := ih rest
      exact ⟨rootless, stamp, proxy, element, tree, answer, same,
        List.forall_mem_cons.mpr ⟨seen.trans same, kept⟩⟩
  | found rooted _ seen answer ih =>
    cases later with
    | nil =>
      cases split
      have unseen := fun before member => (rooted.rootless before member).2
      refine ⟨List.forall_mem_cons.mpr ⟨seen, unseen⟩, _, _, _, _, answer, rfl, ?_⟩
      intro after member
      contradiction
    | cons first later =>
      obtain ⟨rfl, rest⟩ := List.cons.inj split
      obtain ⟨-, _, _, _, _, -, none, -⟩ := ih rest
      contradiction
  | embedded _ mode seen ih =>
    cases later with
    | nil =>
      cases split
      rw [asked] at mode
      contradiction
    | cons first later =>
      obtain ⟨rfl, rest⟩ := List.cons.inj split
      obtain ⟨rootless, stamp, proxy, element, tree, answer, same, kept⟩ := ih rest
      exact ⟨rootless, stamp, proxy, element, tree, answer, same,
        List.forall_mem_cons.mpr ⟨seen.trans same, kept⟩⟩

end Rooted

namespace Uprooted

variable {inquiries : List Inquiry}

theorem modes_eq (uprooted : Uprooted inquiries) : modes inquiries = [.root] := by
  obtain ⟨inquiry, earlier, rfl, rooted, asked, -⟩ := uprooted
  rw [Rooted.modes_cons, asked]
  rcases rooted.modes_eq with ⟨none, -⟩ | ⟨-, some⟩
  · rw [none]
    rfl
  · contradiction

theorem at_root (uprooted : Uprooted inquiries) {later earlier : List Inquiry} {inquiry : Inquiry}
    (split : inquiries = later ++ inquiry :: earlier)
    (asked : inquiry.point.mode? = some .root) :
    (∀ before ∈ inquiry :: earlier, before.context.root = none) ∧ later = [] := by
  obtain ⟨last, others, rfl, rooted, -, seen⟩ := uprooted
  cases later with
  | nil =>
    cases split
    exact ⟨List.forall_mem_cons.mpr ⟨seen, fun before member => (rooted.rootless before member).2⟩,
      rfl⟩
  | cons first later =>
    obtain ⟨rfl, rfl⟩ := List.cons.inj split
    have ordinary := (rooted.rootless inquiry (by simp)).1
    rw [asked] at ordinary
    contradiction

end Uprooted

/-- In every walk the sourcer is asked for the root at most once, and for fragments only afterwards.
Nobody has seen a root until then. The walk then ends with an error and without a root, or the
sourcer's answer is the root, which everybody sees from then on and which it still is in the end. A
walk that succeeds has a root if the sourcer was asked at all. -/
theorem rooted_run (registry : Registry) (query : Expr) (model : Model) (request : RequestContext)
    (maxDepth : Nat) (ambient : Ambient) :
    let walked := recorded registry query { model, request, maxDepth } ambient
    run registry query { model, request, maxDepth } ambient = (walked.1, walked.2.toState) ∧
      walked.2.context.journal = walked.2.inquiries.map Inquiry.consultation ∧
      (modes walked.2.inquiries = [] ∧ walked.2.context.root = none ∨
        ∃ n, modes walked.2.inquiries = .root :: List.replicate n .embedded) ∧
      (∀ later inquiry earlier, walked.2.inquiries = later ++ inquiry :: earlier →
        inquiry.point = .source .root →
        (∀ before ∈ inquiry :: earlier, before.context.root = none) ∧
          ((∃ error, walked.1 = .error error ∧ later = [] ∧ walked.2.context.root = none) ∨
            ∃ stamp proxy element tree,
              inquiry.answer = .offer (some (.queryable stamp proxy element tree)) ∧
                walked.2.context.root = some ⟨proxy, element, tree⟩ ∧
                ∀ after ∈ later, after.context.root = some ⟨proxy, element, tree⟩)) ∧
      ∀ tree, walked.1 = .ok tree → modes walked.2.inquiries ≠ [] →
        walked.2.context.root.isSome = true := by
  intro walked
  obtain ⟨same, faithful⟩ := recorded_run registry query { model, request, maxDepth } ambient
  have told : walked.2.Faithful := faithful rfl
  refine ⟨same, told.journal_eq, ?_⟩
  have rootless : (rooting registry model request).holds none [] := .start
  have asked {inquiry : Inquiry} (point : inquiry.point = .source .root) :
      inquiry.point.mode? = some .root := by
    rw [point]
    rfl
  rcases ran : walked with ⟨error | tree, recording⟩
  · have failed := (rooting registry model request).keeps_of_error rootless ran
    rcases failed with rooted | ⟨none, uprooted⟩
    · refine ⟨rooted.modes_eq.imp_right (·.1), fun later inquiry earlier split point => ?_, nofun⟩
      obtain ⟨unseen, found⟩ := rooted.at_root split (asked point)
      exact ⟨unseen, .inr found⟩
    · refine ⟨.inr ⟨0, uprooted.modes_eq⟩, fun later inquiry earlier split point => ?_, nofun⟩
      obtain ⟨unseen, last⟩ := uprooted.at_root split (asked point)
      exact ⟨unseen, .inl ⟨error, rfl, last, none⟩⟩
  · obtain ⟨rooted, -⟩ := (rooting registry model request).keeps_of_ok rootless ran
    refine ⟨rooted.modes_eq.imp_right (·.1), fun later inquiry earlier split point => ?_,
      fun _ _ sourced => ?_⟩
    · obtain ⟨unseen, found⟩ := rooted.at_root split (asked point)
      exact ⟨unseen, .inr found⟩
    · rcases rooted.modes_eq with ⟨none, -⟩ | ⟨-, some⟩
      · exact (sourced none).elim
      · exact some

/-- The orders of a query are its root, and the orders in its predicate a fragment relative to it.
-/
theorem orders_rooted :
    let model : Model := {
      space := "shop"
      entityTypes := [("Order", { name := "Order", fields := [] })]
      elements := [("Orders", .collection "Orders" "Order")] }
    let store : Evaluation.Store := { collections := [("Orders", [])] }
    let orders (id : Nat) : Expr := .source ⟨id, .queryable (.entity "Order")⟩ none "Orders" []
    let query : Expr := .call ⟨0, .queryable (.entity "Order")⟩ .filter [orders 1,
      .lambda ⟨2, .bool⟩ "o" (.call ⟨3, .bool⟩ .any [orders 4])]
    ∃ tree after, recorded { sourcer := some store.sourcer } query
        { model, request := .ofCaller .service, maxDepth := 8 } { supply := ⟨5⟩ } =
          (.ok tree, after) ∧
      modes after.inquiries = [.root, .embedded] ∧ after.context.root.isSome = true := by
  intro model store orders query
  have asked : modes (recorded { sourcer := some store.sourcer } query
      { model, request := .ofCaller .service, maxDepth := 8 } { supply := ⟨5⟩ }).2.inquiries =
        [.root, .embedded] := by
    decide +kernel
  have succeeds : (recorded { sourcer := some store.sourcer } query
      { model, request := .ofCaller .service, maxDepth := 8 } { supply := ⟨5⟩ }).1.isOk = true := by
    decide +kernel
  have rooted := rooted_run { sourcer := some store.sourcer } query model (.ofCaller .service) 8
    { supply := ⟨5⟩ }
  obtain ⟨tree, after, ran⟩ := exists_of_isOk succeeds
  rw [ran] at asked rooted
  obtain ⟨-, -, -, -, rooted⟩ := rooted
  refine ⟨tree, after, ran, asked, rooted tree rfl ?_⟩
  rw [asked]
  exact List.cons_ne_nil _ _

end QueryRewriting.Rewriting
