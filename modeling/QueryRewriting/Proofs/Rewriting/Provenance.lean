import QueryRewriting.Access.RowFilter
import QueryRewriting.Evaluation.Backend
import QueryRewriting.Proofs.Rewriting.Discipline

/-! Where the leaves of a walked tree come from. A walk takes nodes apart and puts them together
again, but every leaf was in the query, in a tree that a hook has offered, or in an answer of the
sourcer. So the native fragments of a tree all belong with its root, and a queryable constant can
only have come inside of a fragment. -/
namespace QueryRewriting

/-- Whether a node is a native fragment. -/
def Expr.isNative : Expr → Bool
  | .native .. => true
  | _ => false

theorem Expr.children_of_isNative {e : Expr} (native : e.isNative = true) : e.children = [] := by
  cases e with
  | native => rfl
  | _ => contradiction

theorem Expr.children_of_isQueryable {e : Expr} (queryable : e.isQueryable = true) :
    e.children = [] := by
  cases e with
  | queryable => rfl
  | _ => contradiction

namespace Rewriting

open Schema

/-- A leaf was brought into a walk: by an offer, with the root, or in a fragment that belongs with
the root. -/
inductive Brought (progress : Progress) (leaf : Expr) : Prop
  | offered {offered : Expr} : progress.Offered offered → leaf ∈ offered.nodes →
      Brought progress leaf
  | rooted {root : Root} : progress.root = some root → leaf ∈ root.expression.nodes →
      Brought progress leaf
  | embedded {root : Root} {fragment : Expr} : progress.root = some root →
      progress.Answered .embedded fragment → fragment.isQueryable = false →
      fragment.hasNode (Walk.checkEmbedded.foreign root.proxy) = false →
      leaf ∈ fragment.nodes → Brought progress leaf

/-- Every leaf of a tree is one of a node or was brought in. -/
def Derived (progress : Progress) (node tree : Expr) : Prop :=
  ∀ leaf ∈ tree.nodes, leaf.children = [] → leaf ∈ node.nodes ∨ Brought progress leaf

/-- No fragment that the sourcer has answered with is a query of its own. -/
def Fragmentary (inquiries : List Inquiry) : Prop :=
  ∀ inquiry ∈ inquiries, inquiry.point = .source .embedded →
    ∀ sourced, inquiry.answer = .offer (some sourced) → sourced.isQueryable = false

/-- A fragment that is a query of its own is why the walk fails. -/
def Refused (error : Error) (inquiries : List Inquiry) : Prop :=
  ∀ inquiry ∈ inquiries, inquiry.point = .source .embedded →
    ∀ sourced, inquiry.answer = .offer (some sourced) → sourced.isQueryable = true →
      ∃ reference, error = .badSource (.standaloneQueryable reference)

section Leaves

variable {before after progress : Progress} {leaf node tree : Expr}

theorem Brought.later (brought : Brought before leaf) (later : Later before after) :
    Brought after leaf := by
  cases brought with
  | offered offers member => exact .offered (later.offered offers) member
  | rooted rooted member => exact .rooted (later.root _ rooted) member
  | embedded rooted answered fragment native member =>
    exact .embedded (later.root _ rooted) (later.answered answered) fragment native member

theorem Derived.later (derived : Derived before node tree) (later : Later before after) :
    Derived after node tree :=
  fun leaf member bare => (derived leaf member bare).imp_right (·.later later)

theorem Derived.refl : Derived progress node node := fun _ member _ => .inl member

theorem Derived.trans {middle : Expr} (first : Derived progress node middle)
    (second : Derived progress middle tree) : Derived progress node tree := by
  intro leaf member bare
  rcases second leaf member bare with inside | brought
  · exact first leaf inside bare
  · exact .inr brought

/-- A tree that was offered in the place of a node has brought its leaves in. -/
theorem Derived.offered {offered : Expr} (derived : Derived progress offered tree)
    (offers : progress.Offered offered) : Derived progress node tree := by
  intro leaf member bare
  rcases derived leaf member bare with inside | brought
  · exact .inr (.offered offers inside)
  · exact .inr brought

theorem derived_rebuilt {given : List Expr} (supply : NodeSupply)
    (made : List.Forall₂ (Derived progress) node.children given) :
    Derived progress node ((node.withChildren given).run supply).1 := by
  intro leaf member bare
  rcases Expr.mem_nodes_withChildren supply made.length_eq.symm bare member with rfl | inside
  · rw [Expr.nodes_eq]
    exact .inl List.mem_cons_self
  · obtain ⟨value, listed, inside⟩ := inside
    obtain ⟨child, below, derived⟩ := Expr.exists_origin made listed
    refine (derived leaf inside bare).imp_left fun held => ?_
    rw [Expr.nodes_eq]
    exact List.mem_cons_of_mem _ (List.mem_flatMap.mpr ⟨child, below, held⟩)

end Leaves

section Fragments

variable {inquiry : Inquiry} {inquiries : List Inquiry}

theorem Fragmentary.refused (fragmentary : Fragmentary inquiries) (error : Error) :
    Refused error inquiries := by
  intro inquiry member point sourced answer standalone
  rw [fragmentary inquiry member point sourced answer] at standalone
  contradiction

theorem Fragmentary.cons (fragmentary : Fragmentary inquiries)
    (fits : inquiry.point = .source .embedded → ∀ sourced,
      inquiry.answer = .offer (some sourced) → sourced.isQueryable = false) :
    Fragmentary (inquiry :: inquiries) :=
  List.forall_mem_cons.mpr ⟨fits, fragmentary⟩

theorem Fragmentary.ordinary (fragmentary : Fragmentary inquiries)
    (ordinary : inquiry.isSourcing = false) : Fragmentary (inquiry :: inquiries) := by
  refine fragmentary.cons fun point => ?_
  rw [Inquiry.isSourcing, point] at ordinary
  contradiction

theorem Fragmentary.root (fragmentary : Fragmentary inquiries)
    (asked : inquiry.point = .source .root) : Fragmentary (inquiry :: inquiries) := by
  refine fragmentary.cons fun point => ?_
  rw [asked] at point
  contradiction

end Fragments

/-- The leaves of whatever stands for a node, or is made of it, are the node's or were brought in.
-/
def provenance (registry : Registry) (model : Model) (request : RequestContext) :
    Discipline registry model request where
  holds _ inquiries := Fragmentary inquiries
  failed error _ inquiries := Refused error inquiries
  stands := Derived
  made := Derived
  failed_of_holds error fragmentary := fragmentary.refused error
  stands_later later derived := derived.later later
  made_later later derived := derived.later later
  stands_source _ _ := .refl
  stands_itself _ := .refl
  stands_made derived := derived
  stands_rebuilt supply _ made := derived_rebuilt supply made
  made_settled derived _ := derived
  made_taken takes derived := derived.offered takes.known
  made_substituted first second := first.trans second
  holds_asked fragmentary ordinary _ _ _ := fragmentary.ordinary ordinary
  failed_mistyped fragmentary ordinary _ _ _ _ := (fragmentary.ordinary ordinary).refused _
  failed_root error fragmentary seeks _ := (fragmentary.root seeks.point).refused error
  holds_root fragmentary seeks _ _ := fragmentary.root seeks.point
  failed_embedded := by
    intro root inquiries inquiry node error fragmentary _ _ named other member point sourced answer
      standalone
    rcases List.mem_cons.mp member with rfl | member
    · exact named sourced answer standalone
    · exact fragmentary.refused error other member point sourced answer standalone
  holds_embedded := by
    intro root inquiries inquiry node tree fragmentary _ _ answer fragment
    refine fragmentary.cons fun _ sourced same => ?_
    cases answer.symm.trans same
    exact fragment
  made_root _ _ _ leaf member _ := .inr (.rooted rfl member)
  made_embedded _ answered _ fragment native leaf member _ :=
    .inr (.embedded rfl answered fragment native member)

/-- Whether an inquiry brings in a node that passes a test, other than with what is sourced. -/
def Inquiry.introduces (test : Expr → Bool) (inquiry : Inquiry) : Bool :=
  match inquiry.answer with
  | .offer (some tree) => !inquiry.isSourcing && tree.hasNode test
  | _ => false

theorem hasNode_offered {test : Expr → Bool} {progress : Progress} {offered : Expr}
    (free : ∀ inquiry ∈ progress.inquiries, inquiry.introduces test = false)
    (offers : progress.Offered offered) : offered.hasNode test = false := by
  obtain ⟨inquiry, member, ordinary, answer⟩ := offers
  simpa [Inquiry.introduces, ordinary, answer] using free inquiry member

section Runs

variable {registry : Registry} {query : Expr} {model : Model} {request : RequestContext}
  {maxDepth : Nat} {ambient : Ambient} {tree : Expr} {after : Recording} {test : Expr → Bool}

/-- A kind of leaves that neither a query nor a hook's offer holds comes from the sourcer alone. -/
theorem sourced_of_run (leaves : ∀ node, test node = true → node.children = [])
    (ran : recorded registry query { model, request, maxDepth } ambient = (.ok tree, after))
    (plain : query.hasNode test = false)
    (free : ∀ inquiry ∈ after.inquiries, inquiry.introduces test = false)
    {leaf : Expr} (member : leaf ∈ tree.nodes) (passes : test leaf = true) :
    ∃ root, after.context.root = some root ∧ (leaf ∈ root.expression.nodes ∨
      ∃ fragment, after.progress.Answered .embedded fragment ∧ fragment.isQueryable = false ∧
        fragment.hasNode (Walk.checkEmbedded.foreign root.proxy) = false ∧
        leaf ∈ fragment.nodes) := by
  have start : (provenance registry model request).holds none [] := by
    intro inquiry member
    contradiction
  have derived : Derived after.progress query tree :=
    ((provenance registry model request).keeps_of_ok start ran).2
  rcases derived leaf member (leaves leaf passes) with inside | brought
  · rw [Expr.test_of_mem_nodes plain inside] at passes
    contradiction
  · cases brought with
    | offered offers inside =>
      rw [Expr.test_of_mem_nodes (hasNode_offered free offers) inside] at passes
      contradiction
    | rooted rooted inside => exact ⟨_, rooted, .inl inside⟩
    | embedded rooted answered fragment native inside =>
      exact ⟨_, rooted, .inr ⟨_, answered, fragment, native, inside⟩⟩

end Runs

/-- Where neither the query nor an offer holds native fragments, and the root holds fragments of its
own proxy only, every fragment of the tree that a walk makes is of the root's proxy. -/
theorem proxied_run (registry : Registry) (query : Expr) (model : Model) (request : RequestContext)
    (maxDepth : Nat) (ambient : Ambient) {tree : Expr} {after : Recording}
    (ran : recorded registry query { model, request, maxDepth } ambient = (.ok tree, after))
    (plain : query.hasNode Expr.isNative = false)
    (free : ∀ inquiry ∈ after.inquiries, inquiry.introduces Expr.isNative = false)
    (owned : ∀ root, after.context.root = some root →
      root.expression.hasNode (Walk.checkEmbedded.foreign root.proxy) = false) :
    run registry query { model, request, maxDepth } ambient = (.ok tree, after.toState) ∧
      ∀ stamp proxy name, .native stamp proxy name ∈ tree.nodes →
        after.context.root.map Root.proxy = some proxy := by
  have same := (recorded_run registry query { model, request, maxDepth } ambient).1
  rw [ran] at same
  refine ⟨same, fun stamp proxy name member => ?_⟩
  have belongs {root : Root} {holder : Expr}
      (own : holder.hasNode (Walk.checkEmbedded.foreign root.proxy) = false)
      (inside : .native stamp proxy name ∈ holder.nodes) : root.proxy = proxy := by
    have same := Expr.test_of_mem_nodes own inside
    simp only [Walk.checkEmbedded.foreign, ne_eq, decide_not, Bool.not_eq_false',
      decide_eq_true_eq] at same
    exact same.symm
  obtain ⟨root, rooted, inside | ⟨fragment, -, -, own, inside⟩⟩ :=
    sourced_of_run (fun _ => Expr.children_of_isNative) ran plain free member rfl
  · rw [rooted, Option.map_some, belongs (owned root rooted) inside]
  · rw [rooted, Option.map_some, belongs own inside]

/-- The filtered orders and the customers in a predicate over them are all of the store. -/
theorem orders_proxied :
    let model : Model := {
      space := "shop"
      entityTypes := [
        ("Customer", { name := "Customer", fields := [] }),
        ("Order", { name := "Order", fields := [("open", { type := .bool })] })]
      elements := [
        ("Customers", .collection "Customers" "Customer"),
        ("Orders", .collection "Orders" "Order")] }
    let store : Evaluation.Store := { collections := [("Customers", []), ("Orders", [])] }
    let opened : Access.CollectionFilter :=
      ⟨[("Orders", fun row => Fresh.member row "open" .bool)]⟩
    let orders : Expr := .source ⟨1, .queryable (.entity "Order")⟩ none "Orders" []
    let customers : Expr := .source ⟨4, .queryable (.entity "Customer")⟩ none "Customers" []
    let query : Expr := .call ⟨0, .queryable (.entity "Order")⟩ .filter [orders,
      .lambda ⟨2, .bool⟩ "o" (.call ⟨3, .bool⟩ .any [customers])]
    ∃ tree after, recorded { filters := [opened.hook], sourcer := some store.sourcer } query
        { model, request := .ofCaller .service, maxDepth := 8 } { supply := ⟨5⟩ } =
          (.ok tree, after) ∧
      tree.hasNode Expr.isNative = true ∧ ∀ stamp proxy name,
        .native stamp proxy name ∈ tree.nodes → after.context.root.map Root.proxy = some proxy := by
  intro model store opened orders customers query
  have native : (recorded { filters := [opened.hook], sourcer := some store.sourcer } query
      { model, request := .ofCaller .service, maxDepth := 8 } { supply := ⟨5⟩ }).1.toOption.any
        (·.hasNode Expr.isNative) = true := by
    decide +kernel
  have free : (recorded { filters := [opened.hook], sourcer := some store.sourcer } query
      { model, request := .ofCaller .service, maxDepth := 8 } { supply := ⟨5⟩ }).2.inquiries.all
        (!·.introduces Expr.isNative) = true := by
    decide +kernel
  have owned : (recorded { filters := [opened.hook], sourcer := some store.sourcer } query
      { model, request := .ofCaller .service, maxDepth := 8 } { supply := ⟨5⟩ }).2.context.root.all
        (fun root => !root.expression.hasNode (Walk.checkEmbedded.foreign root.proxy)) = true := by
    decide +kernel
  rcases ran : recorded { filters := [opened.hook], sourcer := some store.sourcer } query
      { model, request := .ofCaller .service, maxDepth := 8 } { supply := ⟨5⟩ } with ⟨answer, after⟩
  rw [ran] at native free owned
  cases answer with
  | error error => contradiction
  | ok tree =>
    have plain : query.hasNode Expr.isNative = false := by decide +kernel
    refine ⟨tree, after, rfl, native,
      (proxied_run _ query model (.ofCaller .service) 8 _ ran plain ?_ ?_).2⟩
    · intro inquiry member
      simpa using List.all_eq_true.mp free inquiry member
    · intro root rooted
      simpa [rooted] using owned

/-- Where neither the query, nor an offer, nor the root's tree holds queryable constants, the tree
that a walk makes holds them nowhere but inside of the fragments that the sourcer has answered with.
A fragment that is a queryable constant itself is refused. -/
theorem standalone_run (registry : Registry) (query : Expr) (model : Model)
    (request : RequestContext) (maxDepth : Nat) (ambient : Ambient) :
    let walked := recorded registry query { model, request, maxDepth } ambient
    run registry query { model, request, maxDepth } ambient = (walked.1, walked.2.toState) ∧
      (query.hasNode Expr.isQueryable = false →
        (∀ inquiry ∈ walked.2.inquiries, inquiry.introduces Expr.isQueryable = false) →
        (∀ root, walked.2.context.root = some root →
          root.expression.hasNode Expr.isQueryable = false) →
        ∀ tree, walked.1 = .ok tree → ∀ node ∈ tree.nodes, node.isQueryable = true →
          ∃ fragment, walked.2.progress.Answered .embedded fragment ∧
            fragment.isQueryable = false ∧ node ∈ fragment.nodes) ∧
      ∀ sourced, walked.2.progress.Answered .embedded sourced → sourced.isQueryable = true →
        ∃ reference, walked.1 = .error (.badSource (.standaloneQueryable reference)) := by
  intro walked
  refine ⟨(recorded_run registry query { model, request, maxDepth } ambient).1, ?_, ?_⟩
  · intro plain free own tree succeeds node member standalone
    obtain ⟨root, rooted, inside | ⟨fragment, answered, proper, -, inside⟩⟩ :=
      sourced_of_run (fun _ => Expr.children_of_isQueryable) (Prod.ext succeeds rfl) plain free
        member standalone
    · rw [Expr.test_of_mem_nodes (own root rooted) inside] at standalone
      contradiction
    · exact ⟨fragment, answered, proper, inside⟩
  · rintro sourced ⟨inquiry, member, point, answer⟩ standalone
    have start : (provenance registry model request).holds none [] := by
      intro inquiry member
      contradiction
    rcases ran : walked with ⟨error | tree, after⟩
    · rw [ran] at member
      have refused : Refused error after.inquiries :=
        (provenance registry model request).keeps_of_error start ran
      obtain ⟨reference, rfl⟩ := refused inquiry member point sourced answer standalone
      exact ⟨reference, rfl⟩
    · rw [ran] at member
      have fragmentary : Fragmentary after.inquiries :=
        ((provenance registry model request).keeps_of_ok start ran).1
      rw [fragmentary inquiry member point sourced answer] at standalone
      contradiction

/-- Answers with the first row of a query of its own wherever a fragment is asked for. -/
def firstRows (store : Evaluation.Store) : Sourcer where
  name := "first"
  run := fun mode context =>
    match context.binding.reference? with
    | none => return none
    | some reference => some <$> Act.build do
      let query ← nativeFor reference store.proxy .root
      match mode with
      | .root => return query
      | .embedded => Fresh.page .take query 1

/-- A queryable constant in the tree over the orders is one of the fragment's in their predicate. -/
theorem first_orders_answered :
    let model : Model := {
      space := "shop"
      entityTypes := [("Order", { name := "Order", fields := [] })]
      elements := [("Orders", .collection "Orders" "Order")] }
    let store : Evaluation.Store := { collections := [("Orders", [])] }
    let orders (id : Nat) : Expr := .source ⟨id, .queryable (.entity "Order")⟩ none "Orders" []
    let query : Expr := .call ⟨0, .queryable (.entity "Order")⟩ .filter [orders 1,
      .lambda ⟨2, .bool⟩ "o" (.call ⟨3, .bool⟩ .any [orders 4])]
    ∃ tree after, recorded { sourcer := some (firstRows store) } query
        { model, request := .ofCaller .service, maxDepth := 8 } { supply := ⟨5⟩ } =
          (.ok tree, after) ∧
      tree.hasNode Expr.isQueryable = true ∧
      ∀ node ∈ tree.nodes, node.isQueryable = true → ∃ fragment,
        after.progress.Answered .embedded fragment ∧ fragment.isQueryable = false ∧
          node ∈ fragment.nodes := by
  intro model store orders query
  have standalone : (recorded { sourcer := some (firstRows store) } query
      { model, request := .ofCaller .service, maxDepth := 8 } { supply := ⟨5⟩ }).1.toOption.any
        (·.hasNode Expr.isQueryable) = true := by
    decide +kernel
  have free : (recorded { sourcer := some (firstRows store) } query
      { model, request := .ofCaller .service, maxDepth := 8 } { supply := ⟨5⟩ }).2.inquiries.all
        (!·.introduces Expr.isQueryable) = true := by
    decide +kernel
  have own : (recorded { sourcer := some (firstRows store) } query
      { model, request := .ofCaller .service, maxDepth := 8 } { supply := ⟨5⟩ }).2.context.root.all
        (!·.expression.hasNode Expr.isQueryable) = true := by
    decide +kernel
  have answered := (standalone_run { sourcer := some (firstRows store) } query model
    (.ofCaller .service) 8 { supply := ⟨5⟩ }).2.1 (by decide +kernel)
  rcases ran : recorded { sourcer := some (firstRows store) } query
      { model, request := .ofCaller .service, maxDepth := 8 } { supply := ⟨5⟩ } with ⟨answer, after⟩
  rw [ran] at standalone free own answered
  cases answer with
  | error error => contradiction
  | ok tree =>
    refine ⟨tree, after, rfl, standalone, answered ?_ ?_ tree rfl⟩
    · intro inquiry member
      simpa using List.all_eq_true.mp free inquiry member
    · intro root rooted
      rw [rooted] at own
      simpa using own

/-- A queryable constant below the top of a fragment gets into the tree. -/
theorem first_orders_standalone :
    let model : Model := {
      space := "shop"
      entityTypes := [("Order", { name := "Order", fields := [] })]
      elements := [("Orders", .collection "Orders" "Order")] }
    let store : Evaluation.Store := { collections := [("Orders", [])] }
    let orders (id : Nat) : Expr := .source ⟨id, .queryable (.entity "Order")⟩ none "Orders" []
    let query : Expr := .call ⟨0, .queryable (.entity "Order")⟩ .filter [orders 1,
      .lambda ⟨2, .bool⟩ "o" (.call ⟨3, .bool⟩ .any [orders 4])]
    let ran := run { sourcer := some (firstRows store) } query
      { model, request := .ofCaller .service, maxDepth := 8 } { supply := ⟨5⟩ }
    query.hasNode Expr.isQueryable = false ∧
      ran.2.context.root.any (!·.expression.hasNode Expr.isQueryable) = true ∧
      ran.1.toOption.any (·.hasNode Expr.isQueryable) = true := by
  decide +kernel

end Rewriting

end QueryRewriting
