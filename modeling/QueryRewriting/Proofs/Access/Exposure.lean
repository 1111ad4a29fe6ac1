import QueryRewriting.Proofs.Access.RowSecurity

/-! Which rows of a protected collection a rewritten query can see. A fragment is exposed where it
is anything else than the source of a `where` call on the owner of the rows. Rewriting exposes
exactly the references that are annotated with no collection type: what the filter wraps is decided
by the annotation, while every source accepts a reference annotated `any`. -/
namespace QueryRewriting.Access.RowSecurity

open Rewriting Rewriting.Plan Schema

variable (security : RowSecurity) (auth : Auth)

/-- Whether a tree is the row under test. -/
def isRow : Expr → Bool
  | .parameter _ name => name == rowParameter
  | _ => false

/-- Whether a tree is the owner field of the row under test. -/
def isOwner : Expr → Bool
  | .member _ row name => name == security.ownerField && isRow row
  | _ => false

/-- Whether a tree is the identity of the user behind a request. -/
def isUser : Expr → Bool
  | .value _ (.string text) => auth.user?.any fun user => user.text == text
  | _ => false

/-- Whether a tree is the test that the row belongs to the user. -/
def isTest : Expr → Bool
  | .binary _ .eq left right => security.isOwner left && isUser auth right
  | _ => false

/-- Whether a tree is the predicate that lets the rows of the user through. -/
def isOwnership : Expr → Bool
  | .lambda _ param body => param == rowParameter && security.isTest auth body
  | _ => false

/-- Whether a tree is a fragment, or may become one. -/
def isFragment : Expr → Bool
  | .native .. => true
  | .source .. => true
  | _ => false

/-- Whether a tree lets only the rows of the user out of a fragment. -/
def guards : Expr → Bool
  | .call _ .filter (rows :: selector :: _) => isFragment rows && security.isOwnership auth selector
  | _ => false

mutual

/-- Whether a fragment of a collection, or a reference to it that is annotated with no collection
type, is anything else than the source of a `where` call with the owner predicate. The arguments of
references are not looked at. -/
def exposes (name : String) : Expr → Bool
  | .native _ _ stored => stored == name
  | .source stamp _ stored _ => stored == name && !stamp.type.isCollection
  | .queryable _ _ _ expression => exposes name expression
  | .member _ target _ => exposes name target
  | .call stamp method args =>
    match args with
    | [] => false
    | first :: rest =>
      (!security.guards auth (.call stamp method (first :: rest)) && exposes name first) ||
        exposesAny name rest
  | .lambda _ _ body => exposes name body
  | .binary _ _ left right => exposes name left || exposes name right
  | .not _ operand => exposes name operand
  | .value .. | .parameter .. => false

/-- Whether that is so in one of several trees. -/
def exposesAny (name : String) : List Expr → Bool
  | [] => false
  | e :: rest => exposes name e || exposesAny name rest

end

variable {security auth} {plan : Plan} {e tree : Expr}

section Erased

@[simp] theorem isRow_erased (e : Expr) : isRow e.erased = isRow e := by cases e <;> rfl

@[simp] theorem isOwner_erased (e : Expr) : security.isOwner e.erased = security.isOwner e := by
  cases e <;> simp [Expr.erased, isOwner]

@[simp] theorem isUser_erased (e : Expr) : isUser auth e.erased = isUser auth e := by
  cases e with
  | value stamp content => cases content <;> rfl
  | _ => rfl

@[simp] theorem isTest_erased (e : Expr) :
    security.isTest auth e.erased = security.isTest auth e := by
  cases e with
  | binary stamp op => cases op <;> simp [Expr.erased, isTest]
  | _ => rfl

@[simp] theorem isOwnership_erased (e : Expr) :
    security.isOwnership auth e.erased = security.isOwnership auth e := by
  cases e <;> simp [Expr.erased, isOwnership]

@[simp] theorem isFragment_erased (e : Expr) : isFragment e.erased = isFragment e := by
  cases e <;> rfl

@[simp] theorem guards_erased (e : Expr) :
    security.guards auth e.erased = security.guards auth e := by
  cases e with
  | call stamp method args =>
    match method, args with
    | .filter, [] | .filter, [_] => rfl
    | .filter, rows :: selector :: rest => simp [Expr.erased, Expr.erasedAll, guards]
    | .select, _ | .orderBy, _ | .orderByDescending, _ | .skip, _ | .take, _ | .count, _
    | .first, _ | .any, _ => rfl
  | _ => rfl

mutual

@[simp] theorem exposes_erased (name : String) :
    (e : Expr) → security.exposes auth name e.erased = security.exposes auth name e
  | .value .. | .parameter .. | .native .. | .source .. => rfl
  | .queryable _ _ _ expression => exposes_erased name expression
  | .member _ target _ => exposes_erased name target
  | .call _ _ [] => rfl
  | .call stamp method (first :: rest) => by
    have guarded : security.guards auth (Expr.erased (.call stamp method (first :: rest))) =
        security.guards auth (.call stamp method (first :: rest)) := guards_erased _
    simp only [Expr.erased, Expr.erasedAll] at guarded
    simp only [Expr.erased, Expr.erasedAll, exposes, guarded, exposes_erased name first,
      exposesAny_erased name rest]
  | .lambda _ _ body => exposes_erased name body
  | .binary _ _ left right => by
    simp only [Expr.erased, exposes, exposes_erased name left, exposes_erased name right]
  | .not _ operand => exposes_erased name operand

theorem exposesAny_erased (name : String) :
    (es : List Expr) → security.exposesAny auth name (Expr.erasedAll es) =
      security.exposesAny auth name es
  | [] => rfl
  | e :: rest => by
    simp only [Expr.erasedAll, exposesAny, exposes_erased name e, exposesAny_erased name rest]

end

end Erased

/-- Nothing is exposed by the rows of the user in a fragment. -/
theorem exposes_restricted {user : Uuid} (known : auth.user? = some user)
    (name stored entity : String)
    (call fragment : Stamp) (proxy : ProxyId) (field : QueryType) :
    security.exposes auth name (.call call .filter
      [.native fragment proxy stored, security.selector entity field user]) = false := by
  have ownership : security.isOwnership auth (security.selector entity field user) = true := by
    simp [selector, isOwnership, isTest, isOwner, isRow, isUser, known]
  have guarded : security.guards auth (.call call .filter
      [.native fragment proxy stored, security.selector entity field user]) = true := by
    simp [guards, isFragment, ownership]
  rw [exposes, guarded]
  rfl

theorem exposesAny_congr {name : String} {relation : Expr → Expr → Prop} {es trees : List Expr}
    (each : List.Forall₂ relation es trees)
    (alike : ∀ e ∈ es, ∀ tree, relation e tree →
      security.exposes auth name tree = security.exposes auth name e) :
    security.exposesAny auth name trees = security.exposesAny auth name es := by
  induction each with
  | nil => rfl
  | cons related _ ih =>
    rw [exposesAny, exposesAny, alike _ List.mem_cons_self _ related,
      ih fun e member => alike e (List.mem_cons_of_mem _ member)]

section Resolved

variable (unrooted : plan.root = none)
  (secured : plan.rules = [security.rule plan.model plan.request])
  (guarded : plan.request.bypassesRowSecurity = false)

include unrooted

theorem role_unrooted (proper : e.isSource = false) : plan.role e = .plain :=
  role_plain proper (by simp [unrooted])

include secured guarded

/-- What becomes of a reference: a fragment, or the rows of the user in it. -/
theorem resolved_source {stamp : Stamp} {qualifier : Option String} {stored : String}
    {args : List Expr} (resolved : plan.resolve? [] (.source stamp qualifier stored args) =
      some tree) :
    ∃ element fragment proxy, plan.model.resolve? qualifier stored = some element ∧
      ((¬(security.Covers plan.model ⟨qualifier, stored, args, element⟩ ∧
          stamp.type.isCollection = true) ∧ tree = .native fragment proxy stored) ∨
        (security.Covers plan.model ⟨qualifier, stored, args, element⟩ ∧
          stamp.type.isCollection = true) ∧ ∃ user field,
          plan.request.auth.user? = some user ∧
          tree = .call (.anonymous stamp.type) .filter
            [.native fragment proxy stored, security.selector element.entity field user]) := by
  have uncaptured : security.Uncaptured plan.model plan.root := by simp [Uncaptured, unrooted]
  cases found : plan.model.resolve? qualifier stored with
  | none => rw [resolve?_broken rfl (by simp [Plan.role, found])] at resolved; contradiction
  | some element =>
    rw [resolve?_reference rfl (by simp [Plan.role, found]; exact ⟨rfl, rfl⟩)] at resolved
    refine ⟨element, .anonymous element.logicalType, plan.store.proxy, rfl, ?_⟩
    rcases sourced?_cases uncaptured secured guarded resolved with
      free | ⟨covered, user, field, known, -, wrapped⟩
    · exact .inl free
    · exact .inr ⟨covered, user, field, known, wrapped⟩

/-- A reference becomes a fragment or a call. -/
theorem shape_of_source (reference : e.isSource = true)
    (resolved : plan.resolve? [] e = some tree) :
    (∃ stamp proxy name, tree = .native stamp proxy name) ∨
      ∃ stamp args, tree = .call stamp .filter args := by
  cases e with
  | source =>
    obtain ⟨_, _, _, -, ⟨-, rfl⟩ | ⟨-, _, _, -, rfl⟩⟩ :=
      resolved_source unrooted secured guarded resolved
    · exact .inl ⟨_, _, _, rfl⟩
    · exact .inr ⟨_, _, rfl⟩
  | _ => contradiction

/-- A test that neither fragments nor calls pass, and no references, holds after as before if it
does so for all other nodes. -/
theorem test_resolved {test : Expr → Bool}
    (natives : ∀ stamp proxy name, test (.native stamp proxy name) = false)
    (calls : ∀ stamp args, test (.call stamp .filter args) = false)
    (sources : ∀ stamp qualifier name args, test (.source stamp qualifier name args) = false)
    (others : e.isSource = false → test tree = test e)
    (resolved : plan.resolve? [] e = some tree) : test tree = test e := by
  cases reference : e.isSource with
  | false => exact others reference
  | true =>
    have before : test e = false := by
      cases e with
      | source => exact sources ..
      | _ => contradiction
    rw [before]
    obtain ⟨_, _, _, rfl⟩ | ⟨_, _, rfl⟩ :=
      shape_of_source unrooted secured guarded reference resolved
    · exact natives ..
    · exact calls ..

theorem isRow_resolved (resolved : plan.resolve? [] e = some tree) : isRow tree = isRow e := by
  refine test_resolved unrooted secured guarded (fun _ _ _ => rfl) (fun _ _ => rfl)
    (fun _ _ _ _ => rfl) (fun proper => ?_) resolved
  have role := role_unrooted unrooted proper
  rw [resolve?_plain rfl role, Option.map_eq_some_iff] at resolved
  obtain ⟨given, -, rfl⟩ := resolved
  cases e <;> rfl

theorem isUser_resolved (resolved : plan.resolve? [] e = some tree) :
    isUser auth tree = isUser auth e := by
  refine test_resolved unrooted secured guarded (fun _ _ _ => rfl) (fun _ _ => rfl)
    (fun _ _ _ _ => rfl) (fun proper => ?_) resolved
  have role := role_unrooted unrooted proper
  rw [resolve?_plain rfl role, Option.map_eq_some_iff] at resolved
  obtain ⟨given, -, rfl⟩ := resolved
  cases e with
  | value stamp content => cases content <;> rfl
  | _ => rfl

theorem isOwner_resolved (resolved : plan.resolve? [] e = some tree) :
    security.isOwner tree = security.isOwner e := by
  refine test_resolved unrooted secured guarded (fun _ _ _ => rfl) (fun _ _ => rfl)
    (fun _ _ _ _ => rfl) (fun proper => ?_) resolved
  have role := role_unrooted unrooted proper
  cases e with
  | member stamp row name =>
    rw [resolve?, resolving_member rfl role, Option.map_eq_some_iff] at resolved
    obtain ⟨row', resolved, rfl⟩ := resolved
    simp only [isOwner, isRow_resolved unrooted secured guarded resolved]
  | _ =>
    rw [resolve?_plain rfl role, Option.map_eq_some_iff] at resolved
    obtain ⟨given, -, rfl⟩ := resolved
    rfl

theorem isTest_resolved (resolved : plan.resolve? [] e = some tree) :
    security.isTest auth tree = security.isTest auth e := by
  refine test_resolved unrooted secured guarded (fun _ _ _ => rfl) (fun _ _ => rfl)
    (fun _ _ _ _ => rfl) (fun proper => ?_) resolved
  have role := role_unrooted unrooted proper
  cases e with
  | binary stamp op left right =>
    simp only [resolve?, resolving_binary, Option.bind_eq_some_iff,
      Option.map_eq_some_iff] at resolved
    obtain ⟨left', leftward, right', rightward, rfl⟩ := resolved
    cases op with
    | eq =>
      simp only [isTest, isOwner_resolved unrooted secured guarded leftward,
        isUser_resolved unrooted secured guarded rightward]
    | _ => rfl
  | _ =>
    rw [resolve?_plain rfl role, Option.map_eq_some_iff] at resolved
    obtain ⟨given, -, rfl⟩ := resolved
    rfl

theorem isOwnership_resolved (resolved : plan.resolve? [] e = some tree) :
    security.isOwnership auth tree = security.isOwnership auth e := by
  refine test_resolved unrooted secured guarded (fun _ _ _ => rfl) (fun _ _ => rfl)
    (fun _ _ _ _ => rfl) (fun proper => ?_) resolved
  have role := role_unrooted unrooted proper
  cases e with
  | lambda stamp param body =>
    rw [resolve?, resolving_lambda, Option.map_eq_some_iff] at resolved
    obtain ⟨body', resolved, rfl⟩ := resolved
    simp only [isOwnership, isTest_resolved unrooted secured guarded resolved]
  | _ =>
    rw [resolve?_plain rfl role, Option.map_eq_some_iff] at resolved
    obtain ⟨given, -, rfl⟩ := resolved
    rfl

/-- What is exposed has not been wrapped. -/
theorem isFragment_resolved {name : String} (resolved : plan.resolve? [] e = some tree)
    (exposed : security.exposes plan.request.auth name tree = true) :
    isFragment tree = isFragment e := by
  cases reference : e.isSource with
  | false =>
    rw [resolve?_plain rfl (role_unrooted unrooted reference), Option.map_eq_some_iff] at resolved
    obtain ⟨given, -, rfl⟩ := resolved
    cases e <;> rfl
  | true =>
    cases e with
    | source =>
      obtain ⟨_, _, _, -, ⟨-, rfl⟩ | ⟨-, user, _, known, rfl⟩⟩ :=
        resolved_source unrooted secured guarded resolved
      · rfl
      · rw [exposes_restricted known] at exposed
        contradiction
    | _ => contradiction

variable {first first' : Expr} {rest rest' : List Expr}

/-- A call that guards what comes first still does so where that is still as much a fragment. -/
theorem guards_resolved (stamp : Stamp) (method : Method)
    (fragments : isFragment first' = isFragment first)
    (others : List.Forall₂ (fun e tree => plan.resolve? [] e = some tree) rest rest') :
    security.guards auth (.call (.anonymous stamp.type) method (first' :: rest')) =
      security.guards auth (.call stamp method (first :: rest)) := by
  cases others with
  | nil => cases method <;> rfl
  | cons selected others =>
    cases method with
    | filter =>
      simp only [guards, fragments, isOwnership_resolved unrooted secured guarded selected]
    | _ => rfl

variable {name entity : String} (covered : security.isProtected name = true)
  (named : plan.model.resolve? none name = some (.collection name entity))

include covered named

/-- What becomes of a reference is exposed where it was annotated with no collection type. -/
theorem exposes_source {stamp : Stamp} {qualifier : Option String} {stored : String}
    {args : List Expr} (resolved : plan.resolve? [] (.source stamp qualifier stored args) =
      some tree) :
    security.exposes plan.request.auth name tree =
      security.exposes plan.request.auth name (.source stamp qualifier stored args) := by
  obtain ⟨element, fragment, proxy, found, ⟨free, rfl⟩ | ⟨⟨-, many⟩, user, field, known, rfl⟩⟩ :=
    resolved_source unrooted secured guarded resolved
  · by_cases same : stored = name
    · subst same
      cases named.symm.trans (Model.resolve?_unqualified found)
      have single : stamp.type.isCollection = false := by
        rw [← Bool.not_eq_true]
        exact fun many => free ⟨covered, many⟩
      simp [exposes, single]
    · simp [exposes, same]
  · rw [exposes_restricted known]
    simp [exposes, many]

/-- Rewriting exposes what was exposed by its annotations, and nothing else. -/
theorem exposes_resolved (resolved : plan.resolve? [] e = some tree) :
    security.exposes plan.request.auth name tree = security.exposes plan.request.auth name e := by
  induction e using Expr.ofChildren generalizing tree with
  | step e ih =>
    cases e with
    | source => exact exposes_source unrooted secured guarded covered named resolved
    | value | parameter | native | queryable =>
      rw [resolve?, resolving_leaf (role_unrooted unrooted rfl) rfl] at resolved
      cases resolved
      exact exposes_erased name _
    | member stamp target field =>
      rw [resolve?, resolving_member rfl (role_unrooted unrooted rfl),
        Option.map_eq_some_iff] at resolved
      obtain ⟨target', resolved, rfl⟩ := resolved
      have same := ih target (by simp [Expr.children]) resolved
      exact same
    | lambda stamp param body =>
      rw [resolve?, resolving_lambda, Option.map_eq_some_iff] at resolved
      obtain ⟨body', resolved, rfl⟩ := resolved
      have same := ih body (by simp [Expr.children]) resolved
      exact same
    | not stamp operand =>
      rw [resolve?, resolving_not, Option.map_eq_some_iff] at resolved
      obtain ⟨operand', resolved, rfl⟩ := resolved
      have same := ih operand (by simp [Expr.children]) resolved
      exact same
    | binary stamp op left right =>
      simp only [resolve?, resolving_binary, Option.bind_eq_some_iff,
        Option.map_eq_some_iff] at resolved
      obtain ⟨left', leftward, right', rightward, rfl⟩ := resolved
      simp only [exposes, ih left (by simp [Expr.children]) leftward,
        ih right (by simp [Expr.children]) rightward]
    | call stamp method args =>
      rw [resolve?, resolving_call, Option.map_eq_some_iff] at resolved
      obtain ⟨trees, each, rfl⟩ := resolved
      have each := mapM_eq_some_iff.mp each
      cases each with
      | nil => rfl
      | cons leading others =>
        next first first' rest rest' =>
        have same := ih first (by simp [Expr.children]) leading
        have alike : security.exposesAny plan.request.auth name rest' =
            security.exposesAny plan.request.auth name rest := by
          refine exposesAny_congr others fun child member value known => ?_
          exact ih child (by simp [Expr.children, member]) known
        simp only [exposes, alike]
        congr 1
        cases exposed : security.exposes plan.request.auth name first with
        | false => simp [same, exposed]
        | true =>
          have fragments :=
            isFragment_resolved unrooted secured guarded leading (same.trans exposed)
          rw [same, exposed, guards_resolved unrooted secured guarded stamp method fragments others]

omit covered named in
/-- No reference is left in what a tree becomes. -/
theorem hasDataReference_resolved (resolved : plan.resolve? [] e = some tree) :
    tree.hasDataReference = false := by
  induction e using Expr.ofChildren generalizing tree with
  | step e ih =>
    cases reference : e.isSource with
    | true =>
      cases e with
      | source =>
        obtain ⟨_, _, _, -, ⟨-, rfl⟩ | ⟨-, _, _, -, rfl⟩⟩ :=
          resolved_source unrooted secured guarded resolved <;> rfl
      | _ => contradiction
    | false =>
      rw [resolve?_plain rfl (role_unrooted unrooted reference), Option.map_eq_some_iff] at resolved
      obtain ⟨given, each, rfl⟩ := resolved
      have each := mapM_eq_some_iff.mp each
      refine Expr.hasDataReference_replaceChildren _ ?_ ?_ ?_
      · simpa using each.length_eq.symm
      · simpa using reference
      · intro value member
        obtain ⟨place, inside, rfl⟩ := List.getElem_of_mem member
        have inside' : place < e.children.length := each.length_eq ▸ inside
        exact ih _ (List.getElem_mem inside') (each.get inside' inside)

omit covered named in
/-- Without a user no reference to protected rows is resolved if it stands for many of them. -/
theorem single_of_anonymous (anonymous : plan.request.auth.user? = none)
    (resolved : plan.resolve? [] e = some tree) :
    ∀ entry ∈ plan.reached e,
      security.Covers plan.model entry.1 → entry.2.isCollection = false := by
  induction e using Expr.ofChildren generalizing tree with
  | step e ih =>
    cases reference : e.isSource with
    | true =>
      cases e with
      | source stamp qualifier stored args =>
        obtain ⟨element, _, _, found, ⟨free, -⟩ | ⟨-, _, _, known, -⟩⟩ :=
          resolved_source unrooted secured guarded resolved
        · rw [reached_reference (by simp [Plan.role, found]; exact ⟨rfl, rfl⟩)]
          intro entry member covered
          cases List.mem_singleton.mp member
          rw [← Bool.not_eq_true]
          exact fun many => free ⟨covered, many⟩
        · rw [anonymous] at known
          contradiction
      | _ => contradiction
    | false =>
      have role := role_unrooted unrooted reference
      rw [resolve?_plain rfl role, Option.map_eq_some_iff] at resolved
      obtain ⟨given, each, rfl⟩ := resolved
      intro entry member
      rw [reached_plain role, List.mem_flatMap] at member
      obtain ⟨child, listed, member⟩ := member
      have all : (e.children.mapM (plan.resolve? [])).isSome = true := by rw [each]; rfl
      obtain ⟨value, known⟩ := Option.isSome_iff_exists.mp (isSome_of_mapM all listed)
      exact ih child listed known entry member

end Resolved

/-- Row security exposes the rows of a protected collection exactly where a query refers to it by a
reference that is annotated with no collection type. Without a user there is no other way to read
from it. -/
theorem exposes_rewritten {security : RowSecurity} {model : Model} {request : RequestContext}
    {store : Evaluation.Store} {inspectors : List (Hook Bool)} {name entity : String}
    (named : model.resolve? none name = some (.collection name entity))
    (covered : security.isProtected name = true) (guarded : request.bypassesRowSecurity = false)
    (query tree : Expr) (maxDepth : Nat) (ambient : Ambient)
    (rewritten : (run { inspectors, filters := [security.hook], sourcer := some store.sourcer }
      query { model, request, maxDepth } ambient).1 = .ok tree) :
    tree.hasDataReference = false ∧
      security.exposes request.auth name tree = security.exposes request.auth name query ∧
      (request.auth.user? = none →
        ∀ entry ∈ Plan.reached
            { model, request, store, rules := [security.rule model request] } query,
          security.Covers model entry.1 → entry.2.isCollection = false) := by
  let plan : Plan := { model, request, store, rules := [security.rule model request] }
  have uncaptured : security.Uncaptured plan.model plan.root := by simp [Uncaptured, plan]
  have realizes : plan.Realizes
      { inspectors, filters := [security.hook], sourcer := some store.sourcer } :=
    ⟨rfl, rfl, .cons (applies uncaptured) .nil, rfl⟩
  have resolves := run_resolves realizes query maxDepth ambient
  rw [show run _ query _ ambient = (.ok tree, _) from Prod.ext rewritten rfl] at resolves
  have resolved := resolves.1
  refine ⟨?_, ?_, fun anonymous => single_of_anonymous rfl rfl guarded anonymous resolved⟩
  · rw [← Expr.hasDataReference_erased]
    exact hasDataReference_resolved rfl rfl guarded resolved
  · rw [← exposes_erased]
    exact exposes_resolved rfl rfl guarded covered named resolved

/-- The rows of a user are not exposed by a reference that is annotated with what it stands for. -/
theorem own_customers_covered :
    let model : Model := {
      space := "shop"
      entityTypes := [
        ("Customer", { name := "Customer", fields := [("owner_id", ⟨.string, true⟩)] })]
      elements := [("Customers", .collection "Customers" "Customer")] }
    let security : RowSecurity := { protectedNames := ["Customers"] }
    let store : Evaluation.Store := { collections := [("Customers", [])] }
    let request : RequestContext := .ofCaller (.user ⟨7⟩)
    let query : Expr := .source ⟨0, .queryable (.entity "Customer")⟩ none "Customers" []
    ∃ tree, (run { filters := [security.hook], sourcer := some store.sourcer } query
        { model, request, maxDepth := 8 } {}).1 = .ok tree ∧
      security.exposes request.auth "Customers" tree = false := by
  intro model security store request query
  have succeeds : (run { filters := [security.hook], sourcer := some store.sourcer } query
      { model, request, maxDepth := 8 } {}).1.toOption.isSome = true := by decide +kernel
  cases rewritten : (run { filters := [security.hook], sourcer := some store.sourcer } query
      { model, request, maxDepth := 8 } {}).1 with
  | error error =>
    rw [rewritten] at succeeds
    contradiction
  | ok tree =>
    have named : model.resolve? none "Customers" = some (.collection "Customers" "Customer") := rfl
    have covered : security.isProtected "Customers" = true := by decide
    exact ⟨tree, rfl, (exposes_rewritten named covered rfl query tree 8 {} rewritten).2.1⟩

/-- A reference to the same rows that is annotated `any` lets everyone see all of them. -/
theorem any_customers_exposed :
    let model : Model := {
      space := "shop"
      entityTypes := [
        ("Customer", { name := "Customer", fields := [("owner_id", ⟨.string, true⟩)] })]
      elements := [("Customers", .collection "Customers" "Customer")] }
    let security : RowSecurity := { protectedNames := ["Customers"] }
    let store : Evaluation.Store := { collections := [("Customers", [])] }
    let request : RequestContext := .ofCaller .anonymous
    (run { filters := [security.hook], sourcer := some store.sourcer }
        (.source ⟨0, .any⟩ none "Customers" []) { model, request, maxDepth := 8 } {}).1.toOption.any
      (security.exposes request.auth "Customers") = true := by
  decide +kernel

end QueryRewriting.Access.RowSecurity
