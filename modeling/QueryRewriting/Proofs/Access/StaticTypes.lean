import QueryRewriting.Proofs.Access.Substitution
import QueryRewriting.Proofs.Evaluation.Conformance
import QueryRewriting.Proofs.Rewriting.Discipline

/-! Static types hold through rewriting and evaluation. A walk with collection filters over a store
makes of a typed query a tree that is typed again, with the type of the query, though it holds other
children; so what the tree evaluates to conforms to the type of the query. -/
namespace QueryRewriting.Access.CollectionFilter

open Rewriting Rewriting.Walk Schema Evaluation Json
open QueryRewriting.Expr (Replaces Typed)

/-- The predicates of a filter for the collections of a model are built with the operations of the
model, on a row of the collection. -/
def Fluent (rows : CollectionFilter) (model : Model) : Prop :=
  ∀ name collection entity predicate,
    model.resolve? none name = some (.collection collection entity) →
    Entries.find? rows.predicates collection = some predicate →
    ∀ stamp supply, stamp.type = .entity entity →
      Expr.Fluent model [(rowParameter, .entity entity)] .any
        ((predicate (.parameter stamp rowParameter)).run supply).1

/-- No reference of a tree is one to a function. -/
def Servable (model : Model) (e : Expr) : Prop :=
  ∀ stamp qualifier name args, .source stamp qualifier name args ∈ e.outerReferences →
    ∀ element, model.resolve? qualifier name = some element → element.isFunction = false

/-- A tree that a walk makes of a node. It has no references left, since the store has served those
of the node, and it has the type of the node wherever the node is typed. -/
structure Renders (model : Model) (e tree : Expr) : Prop where
  servable : Servable model e
  free : tree.hasDataReference = false
  replaces : Replaces model e tree

section Trees

variable {model : Model} {node tree : Expr}

theorem Renders.trans {other : Expr} (first : Renders model node tree)
    (second : Renders model tree other) : Renders model node other :=
  ⟨first.servable, second.free, first.replaces.trans second.replaces⟩

/-- A tree without references is what it is. -/
theorem Renders.itself (renders : Renders model node tree) : Renders model tree tree where
  servable := by
    intro stamp qualifier name args member
    rw [Expr.outerReferences_of_free _ renders.free] at member
    contradiction
  free := renders.free
  replaces := .refl _ _

/-- What is made of the children of a node makes up what is made of the node. -/
theorem Renders.rebuilt {given : List Expr} (supply : NodeSupply) (plain : node.isSource = false)
    (each : List.Forall₂ (Renders model) node.children given) :
    Renders model node ((node.withChildren given).run supply).1 where
  servable := by
    intro stamp qualifier name args member
    rw [Expr.outerReferences_eq plain] at member
    obtain ⟨child, below, member⟩ := List.mem_flatMap.mp member
    obtain ⟨tree, -, renders⟩ := Expr.exists_origin each.flip below
    exact renders.servable stamp qualifier name args member
  free := Expr.hasDataReference_withChildren supply plain (each.imp fun _ _ renders => renders.free)
  replaces := .rebuilt supply plain (each.imp fun _ _ renders => renders.replaces)

/-- A reference to a stored collection or singleton is replaced by the fragment of the store. -/
theorem renders_fragment {store : Store} {target : DataReference} {id : NodeId}
    (shape : ∃ stamp, node = .source stamp target.qualifier target.name target.args)
    (resolved : model.resolve? target.qualifier target.name = some target.element)
    (proper : target.element.isFunction = false) :
    Renders model node (.native ⟨id, target.logicalType⟩ store.proxy target.name) := by
  obtain ⟨stamp, rfl⟩ := shape
  refine ⟨?_, rfl, ?_⟩
  · intro stamp' qualifier name args member element found
    cases List.mem_singleton.mp member
    cases resolved.symm.trans found
    exact proper
  · intro scope row typed
    have known := typed.logicalType_eq resolved
    exact ⟨.native (Model.resolve?_unqualified resolved) proper rfl, known.symm⟩

end Trees

section Offers

variable {rows : CollectionFilter} {model : Model} {target : DataReference} {node built : Expr}
  {predicate : RowPredicate} {row : Stamp} {supply later : NodeSupply} {call lambda : NodeId}
  (fluent : rows.Fluent model)
  (shape : ∃ stamp, node = .source stamp target.qualifier target.name target.args)
  (resolved : model.resolve? target.qualifier target.name = some target.element)
  (concerned : rows.restriction? model target node.type = some predicate)
  (ranging : row.type = target.logicalType.elementOrSelf)
  (building : (predicate (.parameter row rowParameter)).run supply = (built, later))
  (truth : built.type = .bool)

include fluent shape resolved concerned ranging building truth

/-- A reference is replaced by the `where` call that a filter offers for its collection. -/
theorem replaces_offered (proper : target.element.isFunction = false) :
    Replaces model node (.call ⟨call, node.type⟩ .filter
      [node, .lambda ⟨lambda, .bool⟩ rowParameter built]) := by
  intro scope place typed
  have known : node.type = target.logicalType ∧ Typed model scope .any node := by
    obtain ⟨stamp, rfl⟩ := shape
    exact ⟨typed.logicalType_eq resolved, typed.anywhere scope .any⟩
  obtain ⟨known, typed⟩ := known
  unfold restriction? at concerned
  rw [known] at concerned
  have found := Model.resolve?_unqualified resolved
  unfold DataReference.logicalType at concerned ranging known
  cases element : target.element with
  | function => simp [element, Element.isFunction] at proper
  | singleton => simp [element, Element.logicalType, Element.isMany, QueryType.isCollection,
      QueryType.element?] at concerned
  | collection collection entity =>
    rw [element] at found ranging known
    have concerned : Entries.find? rows.predicates collection = some predicate := by
      simpa [element, Element.logicalType, Element.isMany, QueryType.isCollection,
        QueryType.element?, Binding.owner?] using concerned
    have body := fluent _ collection entity predicate found concerned row supply ranging
    rw [building] at body
    have body := body.typed.weaken scope
    have selected : ∀ e ∈ [Expr.lambda ⟨lambda, .bool⟩ rowParameter built],
        Typed model scope node.type.rows e := by
      rw [List.forall_mem_singleton, known]
      exact .lambda body truth.symm
    exact ⟨.call typed selected rfl, rfl⟩

/-- What renders the offer of a filter for a reference renders the reference. -/
theorem Renders.of_offered {tree : Expr}
    (renders : Renders model (.call ⟨call, node.type⟩ .filter
      [node, .lambda ⟨lambda, .bool⟩ rowParameter built]) tree) : Renders model node tree := by
  -- The offer holds the reference, so it is rendered only if that is one to no function.
  have servable : Servable model node := by
    intro stamp qualifier name args member
    refine renders.servable stamp qualifier name args ?_
    rw [Expr.outerReferences_eq rfl]
    exact List.mem_flatMap.mpr ⟨node, List.mem_cons_self, member⟩
  have proper : target.element.isFunction = false := by
    obtain ⟨stamp, rfl⟩ := shape
    exact servable stamp _ _ _ (List.mem_singleton.mpr rfl) _ resolved
  exact ⟨servable, renders.free, .trans (replaces_offered fluent shape resolved concerned ranging
    building truth proper) renders.replaces⟩

end Offers

section Walks

variable {model : Model} {request : RequestContext} {filters : List CollectionFilter}
  {store : Store} {progress : Progress} {node offered tree : Expr} {mode : SourceMode}

theorem Renders.of_takes (fluent : ∀ rows ∈ filters, rows.Fluent model)
    (takes : (registry filters store).Takes model request progress node offered)
    (renders : Renders model offered tree) : Renders model node tree := by
  obtain ⟨hook, listed, context, ambient, after, about, ran⟩ := takes.offers
  have listed : hook ∈ filters.map CollectionFilter.hook := by simpa [registry] using listed
  obtain ⟨rows, member, rfl⟩ := List.mem_map.mp listed
  cases refers : context.binding.reference? with
  | none =>
    cases (filter_unbound refers).symm.trans ran
  | some target =>
    obtain ⟨bound, stamp, shape, resolved⟩ := about.reference refers
    rcases filter_restricts bound about.under ran with
      ⟨none, -, -⟩ | ⟨predicate, built, later, concerned, building, truth, offer, -⟩
    · contradiction
    · cases offer
      rw [about.model_eq] at concerned
      exact renders.of_offered (fluent rows member) ⟨stamp, shape⟩ resolved concerned rfl building
        truth

/-- What a store answers with for a node renders it. -/
theorem renders_of_sources {sourced : Expr}
    (sources : (registry filters store).Sources model request mode node sourced) :
    match mode with
    | .root => ∀ stamp proxy element tree, sourced = .queryable stamp proxy element tree →
        Renders model node tree
    | .embedded => Renders model node sourced := by
  obtain ⟨sourcer, registered, context, ambient, after, about, ran⟩ := sources
  cases registered
  obtain ⟨target, id, refers, proper, answer⟩ := store.answer_of_source ran
  obtain ⟨-, stamp, shape, resolved⟩ := about.reference refers
  cases mode with
  | root =>
    obtain ⟨outer, rfl⟩ := answer
    rintro _ _ _ tree ⟨⟩
    exact renders_fragment ⟨stamp, shape⟩ resolved proper
  | embedded =>
    cases answer
    exact renders_fragment ⟨stamp, shape⟩ resolved proper

/-- A walk with fluent filters renders each node. Until then a reference stands for itself. -/
def rendering (fluent : ∀ rows ∈ filters, rows.Fluent model) (store : Store)
    (request : RequestContext) : Discipline (registry filters store) model request where
  holds _ _ := True
  failed _ _ _ := True
  stands _ node tree := node.isSource = true ∧ tree = node ∨ Renders model node tree
  made _ node tree := Renders model node tree
  failed_of_holds _ _ := trivial
  stands_later _ stands := stands
  made_later _ renders := renders
  stands_source source _ := .inl ⟨source, rfl⟩
  stands_itself := by
    rintro _ node tree (⟨source, rfl⟩ | renders)
    · exact .inl ⟨source, rfl⟩
    · exact .inr renders.itself
  stands_made := .inr
  stands_rebuilt supply plain each := .inr (.rebuilt supply plain each)
  made_settled := by
    rintro _ node tree (⟨source, rfl⟩ | renders) settled
    · rw [settled rfl] at source
      contradiction
    · exact renders
  made_taken takes renders := renders.of_takes fluent takes
  made_substituted := by
    rintro _ node substitute tree (⟨-, rfl⟩ | first) second
    · exact second
    · exact first.trans second
  holds_asked _ _ _ _ _ := trivial
  failed_mistyped _ _ _ _ _ _ := trivial
  failed_root _ _ _ _ := trivial
  holds_root _ _ _ _ := trivial
  failed_embedded _ _ _ _ _ := trivial
  holds_embedded _ _ _ _ _ := trivial
  made_root sources _ _ := renders_of_sources sources _ _ _ _ rfl
  made_embedded sources _ _ _ _ := renders_of_sources sources

end Walks

/-- A query that is built with the operations of a model is rewritten into a typed tree of the same
type, by filters whose predicates are built so too. -/
theorem replaces_of_run {filters : List CollectionFilter} {store : Store} {query tree : Expr}
    {model : Model} {request : RequestContext} {maxDepth : Nat} {ambient : Ambient} {after : State}
    (fluent : ∀ rows ∈ filters, rows.Fluent model)
    (ran : run (registry filters store) query { model, request, maxDepth } ambient =
      (.ok tree, after)) : Replaces model query tree := by
  obtain ⟨inquiries, ran⟩ := recorded_of_run ran
  exact ((rendering fluent store request).keeps_of_ok trivial ran).2.replaces

/-- Static types are honest through to the answer. Where the rows of a store conform to their entity
types, and a query and the predicates of filters are built with the operations of the model, what
the rewritten query evaluates to conforms to the type of the query. The model need not be valid. -/
theorem answer_conforms (filters : List CollectionFilter) (store : Store) (query : Expr)
    (model : Model) (request : RequestContext) (maxDepth : Nat) (ambient : Ambient)
    (stored : store.Honest model) (fluent : ∀ rows ∈ filters, rows.Fluent model)
    (built : Expr.Fluent model [] .any query) {tree : Expr} {after : State}
    (ran : run (registry filters store) query { model, request, maxDepth } ambient =
      (.ok tree, after)) {value : Value} (evaluated : evaluate store tree = .ok value) :
    Conforms model query.type value := by
  obtain ⟨typed, same⟩ := replaces_of_run fluent ran [] .any built.typed
  have found : value? store tree [] = some value := by
    unfold value?
    unfold evaluate at evaluated
    rw [evaluated]
    rfl
  have conforms := (honest_of_typed stored typed).value [] .nil value found
  rwa [same] at conforms

/-- The names of those who have placed the open orders are strings, or `null` where none is known.
The filter lets nobody see orders where there are no customers. -/
theorem names_conform :
    let model : Model := {
      space := "shop"
      entityTypes := [
        ("Customer", { name := "Customer", fields := [("name", { type := .string })] }),
        ("Order", {
          name := "Order"
          fields := [("customer", { type := .entity "Customer" }), ("open", { type := .bool })] })]
      elements := [
        ("Customers", .collection "Customers" "Customer"),
        ("Orders", .collection "Orders" "Order")] }
    let ada : Value := .object [("name", .string "Ada")]
    let store : Store := { collections := [
      ("Customers", [ada]),
      ("Orders", [
        .object [("customer", ada), ("open", .bool true)],
        .object [("customer", ada), ("open", .bool false)],
        .object [("customer", .null), ("open", .bool true)]])] }
    let opened : CollectionFilter := ⟨[("Orders", fun row => do
      let shown ← Fresh.member row "open" .bool
      let customers ← Fresh.source none "Customers" [] (.queryable (.entity "Customer"))
      Fresh.binary .and shown (← Fresh.call .any [customers]))]⟩
    let query : Expr := .call ⟨0, .queryable .string⟩ .select [
      .source ⟨1, .queryable (.entity "Order")⟩ none "Orders" [],
      .lambda ⟨2, .string⟩ "o" (.member ⟨3, .string⟩
        (.member ⟨4, .entity "Customer"⟩ (.parameter ⟨5, .entity "Order"⟩ "o") "customer") "name")]
    let answer : Value := .array [.string "Ada", .null]
    ∃ tree after, run (registry [opened] store) query
        { model, request := .ofCaller .service, maxDepth := 16 } { supply := ⟨6⟩ } =
          (.ok tree, after) ∧
      evaluate store tree = .ok answer ∧ Conforms model (.queryable .string) answer := by
  intro model ada store opened query answer
  have person : Conforms model (.entity "Customer") ada := by
    refine .entity fun member listed type declared => ?_
    cases List.mem_singleton.mp listed
    cases declared
    exact .string
  have order (customer shown : Value) (known : Conforms model (.entity "Customer") customer)
      (truth : Conforms model .bool shown) :
      Conforms model (.entity "Order") (.object [("customer", customer), ("open", shown)]) := by
    refine .entity fun member listed type declared => ?_
    simp only [List.mem_cons, List.not_mem_nil, or_false] at listed
    rcases listed with rfl | rfl
    · cases declared
      exact known
    · cases declared
      exact truth
  have stored : store.Honest model := by
    intro name element rows resolved proper found
    have listed := Entries.mem_of_find? found
    simp only [store, List.mem_cons, List.not_mem_nil, or_false, Prod.mk.injEq] at listed
    rcases listed with ⟨rfl, rfl⟩ | ⟨rfl, rfl⟩
    · cases resolved
      exact List.forall_mem_singleton.mpr person
    · cases resolved
      simp only [List.forall_mem_cons, List.not_mem_nil, false_implies, implies_true, and_true]
      exact ⟨order _ _ person .bool, order _ _ person .bool, order _ _ .null .bool⟩
  have fluent : ∀ rows ∈ [opened], rows.Fluent model := by
    rw [List.forall_mem_singleton]
    intro name collection entity predicate resolved found stamp supply ranging
    cases List.mem_singleton.mp (Entries.mem_of_find? found)
    obtain ⟨element, listed, same⟩ := Option.bind_eq_some_iff.mp resolved
    cases same
    have listed := Entries.mem_of_find? listed
    simp only [model, List.mem_cons, List.not_mem_nil, or_false, Prod.mk.injEq,
      Element.collection.injEq] at listed
    rcases listed with ⟨rfl, other, -⟩ | ⟨rfl, -, rfl⟩
    · simp at other
    · obtain ⟨id, type⟩ := stamp
      cases ranging
      let types : Expr.Parameters := [(rowParameter, .entity "Order")]
      have row : Expr.Fluent model types .any (.parameter ⟨id, .entity "Order"⟩ rowParameter) :=
        .parameter rowParameter ⟨id⟩ rfl
      have shown : Expr.Fluent model types .any (.member ⟨supply.next, .bool⟩
          (.parameter ⟨id, .entity "Order"⟩ rowParameter) "open") :=
        .property "open" ⟨supply.next⟩ row rfl
      have customers : Expr.Fluent model types .any
          (.source ⟨supply.next + 1, .queryable (.entity "Customer")⟩ none "Customers" []) :=
        .source "Customers" ⟨supply.next + 1⟩ rfl
      have known : Expr.Fluent model types .any (.call ⟨supply.next + 2, .bool⟩ .any
          [.source ⟨supply.next + 1, .queryable (.entity "Customer")⟩ none "Customers" []]) :=
        .call .any ⟨supply.next + 2⟩ customers (List.forall_mem_nil _)
      exact .binary .and ⟨supply.next + 3⟩ shown known
  have built : Expr.Fluent model [] .any query := by
    have order : Expr.Fluent model [("o", .entity "Order")] .any
        (.parameter ⟨5, .entity "Order"⟩ "o") := .parameter "o" ⟨5⟩ rfl
    have customer : Expr.Fluent model [("o", .entity "Order")] .any
        (.member ⟨4, .entity "Customer"⟩ (.parameter ⟨5, .entity "Order"⟩ "o") "customer") :=
      .property "customer" ⟨4⟩ order rfl
    have orders : Expr.Fluent model [] .any
        (.source ⟨1, .queryable (.entity "Order")⟩ none "Orders" []) := .source "Orders" ⟨1⟩ rfl
    have names : Expr.Fluent model [] (.entity "Order") (.lambda ⟨2, .string⟩ "o"
        (.member ⟨3, .string⟩ (.member ⟨4, .entity "Customer"⟩
          (.parameter ⟨5, .entity "Order"⟩ "o") "customer") "name")) :=
      .lambda "o" ⟨2⟩ (.property "name" ⟨3⟩ customer rfl)
    exact .call .select ⟨0⟩ orders (List.forall_mem_singleton.mpr names)
  have evaluates : (run (registry [opened] store) query
      { model, request := .ofCaller .service, maxDepth := 16 } { supply := ⟨6⟩ }).1.toOption.bind
        (fun tree => (evaluate store tree).toOption) = some answer := by
    decide +kernel
  rcases ran : run (registry [opened] store) query
      { model, request := .ofCaller .service, maxDepth := 16 } { supply := ⟨6⟩ }
    with ⟨outcome, after⟩
  rw [ran] at evaluates
  cases outcome with
  | error error => contradiction
  | ok tree =>
    have evaluated : evaluate store tree = .ok answer := eq_ok_of_toOption evaluates
    exact ⟨tree, after, rfl, evaluated, answer_conforms [opened] store query model _ 16 _ stored
      fluent built ran evaluated⟩

end QueryRewriting.Access.CollectionFilter
