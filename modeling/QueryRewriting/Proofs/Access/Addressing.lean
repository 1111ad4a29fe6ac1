import QueryRewriting.Proofs.Rewriting.Sights

/-! Sources addressed as members of the root parameter against sources referred to directly. Hooks
are shown the same bindings for both, except for what is bound through a reference by the nodes
around it: these are shown as they were submitted, and a member of the root means nothing to them. -/
namespace QueryRewriting

open Rewriting Schema

namespace DataReference

/-- Whether a reference can be written as a member of the root: it has no arguments and names a
collection or a singleton. -/
def isAddressable (reference : DataReference) : Bool :=
  reference.args.isEmpty && !reference.element.isFunction

end DataReference

namespace Binding

/-- The data reference that a binding goes back to. -/
def ground? : Binding → Option DataReference
  | .unbound => none
  | .reference target => some target
  | .property of _ _ => ground? of
  | .element of _ => ground? of

/-- Whether a binding goes back to a reference that can be written as a member of the root. -/
def isAddressable (binding : Binding) : Bool := binding.ground?.any DataReference.isAddressable

/-- A binding without the qualifier and the arguments of the reference it goes back to. -/
def bare : Binding → Binding
  | .unbound => .unbound
  | .reference target => .reference { target with qualifier := none, args := [] }
  | .property of name type => .property (bare of) name type
  | .element of type => .element (bare of) type

variable {model : Model}

@[simp] theorem kind_bare (binding : Binding) : binding.bare.kind = binding.kind := by
  cases binding <;> rfl

@[simp] theorem logicalType?_bare (binding : Binding) :
    binding.bare.logicalType? = binding.logicalType? := by
  cases binding <;> rfl

@[simp] theorem owner?_bare (binding : Binding) :
    binding.bare.owner? model = binding.owner? model := by
  induction binding with
  | element of type ih => exact ih
  | _ => rfl

theorem bare_propertyOf (binding : Binding) (name : String) :
    (propertyOf model binding name).bare = propertyOf model binding.bare name := by
  unfold propertyOf
  rw [logicalType?_bare]
  split
  · split <;> rfl
  · rfl

theorem bare_elementOf (binding : Binding) : binding.elementOf.bare = binding.bare.elementOf := by
  unfold elementOf
  rw [logicalType?_bare]
  split <;> rfl

theorem isAddressable_propertyOf {binding : Binding} {name : String} :
    propertyOf model binding name = .unbound ∨
      (propertyOf model binding name).isAddressable = binding.isAddressable := by
  unfold propertyOf
  split
  · split
    · exact .inr rfl
    · exact .inl rfl
  · exact .inl rfl

theorem isAddressable_elementOf {binding : Binding} :
    binding.elementOf = .unbound ∨ binding.elementOf.isAddressable = binding.isAddressable := by
  unfold elementOf
  split
  · exact .inr rfl
  · exact .inl rfl

/-- How a binding shows where its references are written as members of the root and not normalized:
not at all if it goes back to one of these, and the same but for qualifiers and arguments if not. -/
def Shows (binding shown : Binding) : Prop :=
  if binding.isAddressable then shown = .unbound else shown.bare = binding.bare

theorem Shows.derived {binding shown : Binding} (shows : Shows binding shown)
    (derive : Binding → Binding) (nothing : derive .unbound = .unbound)
    (bare : ∀ source, (derive source).bare = derive source.bare)
    (ground : derive binding = .unbound ∨ (derive binding).isAddressable = binding.isAddressable) :
    Shows (derive binding) (derive shown) := by
  unfold Shows at *
  by_cases addressable : binding.isAddressable = true
  · rw [if_pos addressable] at shows
    subst shows
    rcases ground with unbound | same
    · rw [unbound, nothing]
      rfl
    · rw [same, if_pos addressable, nothing]
  · rw [if_neg addressable] at shows
    have kept : (derive shown).bare = (derive binding).bare := by rw [bare, shows, ← bare]
    rcases ground with unbound | same
    · rw [kept, unbound]
      rfl
    · rw [same, if_neg addressable, kept]

theorem Shows.propertyOf {binding shown : Binding} (shows : Shows binding shown) (name : String) :
    Shows (propertyOf model binding name) (propertyOf model shown name) :=
  shows.derived (fun source => Binding.propertyOf model source name) rfl
    (fun _ => bare_propertyOf _ _) isAddressable_propertyOf

theorem Shows.elementOf {binding shown : Binding} (shows : Shows binding shown) :
    Shows binding.elementOf shown.elementOf :=
  shows.derived Binding.elementOf rfl bare_elementOf isAddressable_elementOf

theorem Shows.same {binding shown : Binding} (plain : binding.isAddressable = false)
    (same : shown.bare = binding.bare) : Shows binding shown := by
  unfold Shows
  rw [plain]
  exact same

end Binding

namespace Access.RootMember

open Binding

/-- A query with each of its references that can be written as a member of the root written so. The
query itself has no access to the root, and no lambda over a parameter of its name. -/
inductive Addressed (access : RootMember) (model : Model) : Expr → Expr → Prop
  | rooted {stamp stamp' below : Stamp} {qualifier : Option String} {name : String}
    {element : Element} :
    model.resolve? qualifier name = some element → element.isFunction = false →
      stamp'.type = stamp.type →
      Addressed access model (.source stamp qualifier name [])
        (.member stamp' (.parameter below access.root) name)
  | source {stamp stamp' : Stamp} {qualifier : Option String} {name : String}
    {args args' : List Expr} :
    (∀ element, model.resolve? qualifier name = some element →
      DataReference.isAddressable ⟨qualifier, name, args, element⟩ = false) →
      stamp'.type = stamp.type → List.Forall₂ (Addressed access model) args args' →
      Addressed access model (.source stamp qualifier name args)
        (.source stamp' qualifier name args')
  | member {stamp stamp' : Stamp} {target target' : Expr} {name : String} :
    access.accessed? (.member stamp target name) = none → stamp'.type = stamp.type →
      Addressed access model target target' →
      Addressed access model (.member stamp target name) (.member stamp' target' name)
  | lambda {stamp stamp' : Stamp} {param : String} {body body' : Expr} :
    param ≠ access.root → stamp'.type = stamp.type → Addressed access model body body' →
      Addressed access model (.lambda stamp param body) (.lambda stamp' param body')
  | call {stamp stamp' : Stamp} {method : Method} {args args' : List Expr} :
    stamp'.type = stamp.type → List.Forall₂ (Addressed access model) args args' →
      Addressed access model (.call stamp method args) (.call stamp' method args')
  | binary {stamp stamp' : Stamp} {op : BinaryOp} {left left' right right' : Expr} :
    stamp'.type = stamp.type → Addressed access model left left' →
      Addressed access model right right' →
      Addressed access model (.binary stamp op left right) (.binary stamp' op left' right')
  | not {stamp stamp' : Stamp} {operand operand' : Expr} :
    stamp'.type = stamp.type → Addressed access model operand operand' →
      Addressed access model (.not stamp operand) (.not stamp' operand')
  | parameter {stamp stamp' : Stamp} {name : String} : stamp'.type = stamp.type →
      Addressed access model (.parameter stamp name) (.parameter stamp' name)
  | value {stamp stamp' : Stamp} {content : Json.Value} : stamp'.type = stamp.type →
      Addressed access model (.value stamp content) (.value stamp' content)
  | queryable {stamp stamp' : Stamp} {proxy : ProxyId} {element : QueryType} {expression : Expr} :
    stamp'.type = stamp.type →
      Addressed access model (.queryable stamp proxy element expression)
        (.queryable stamp' proxy element expression)
  | native {stamp stamp' : Stamp} {proxy : ProxyId} {name : String} : stamp'.type = stamp.type →
      Addressed access model (.native stamp proxy name) (.native stamp' proxy name)

variable {access : RootMember} {model : Model} {e e' : Expr}

/-- What a node is bound to in the one query, and what it shows as in the other. -/
theorem shows_ofNode {parameter parameter' : String → Except UnknownSource Binding}
    (root : parameter' access.root = .ok .unbound)
    (parameters : ∀ name binding shown, parameter name = .ok binding →
      parameter' name = .ok shown → Shows binding shown)
    {e e' : Expr} {binding shown : Binding} (addressed : Addressed access model e e')
    (bound : ofNode model parameter e = .ok binding)
    (bound' : ofNode model parameter' e' = .ok shown) : Shows binding shown := by
  induction e using Expr.ofChildren generalizing e' binding shown with
  | step e ih =>
    cases addressed with
    | @rooted _ _ _ qualifier name element resolved proper =>
      simp only [ofNode, resolved] at bound
      simp only [ofNode, root] at bound'
      cases bound
      cases bound'
      unfold Shows
      rw [if_pos (by simp [isAddressable, ground?, DataReference.isAddressable, proper])]
      rfl
    | @source _ _ qualifier name args args' plain =>
      simp only [ofNode] at bound bound'
      cases resolved : model.resolve? qualifier name with
      | none =>
        rw [resolved] at bound
        contradiction
      | some element =>
        rw [resolved] at bound bound'
        cases bound
        cases bound'
        exact .same (plain element resolved) rfl
    | @member stamp stamp' target target' name _ _ related =>
      obtain ⟨owner, of, rfl⟩ := ofNode_member bound
      obtain ⟨owner', of', rfl⟩ := ofNode_member bound'
      exact (ih target List.mem_cons_self related of of').propertyOf name
    | parameter => exact parameters _ _ _ bound bound'
    | _ =>
      cases bound
      cases bound'
      exact .same rfl rfl

theorem Addressed.children {e e' : Expr} (addressed : Addressed access model e e') :
    (∃ stamp qualifier name, e = .source stamp qualifier name []) ∨
      List.Forall₂ (Addressed access model) e.children e'.children := by
  cases addressed with
  | rooted => exact .inl ⟨_, _, _, rfl⟩
  | source _ _ related | call _ related => exact .inr related
  | member _ _ related | lambda _ _ related | not _ related => exact .inr (.cons related .nil)
  | binary _ left right => exact .inr (.cons left (.cons right .nil))
  | parameter | value | queryable | native => exact .inr .nil

theorem Addressed.declares_eq {e e' : Expr} (addressed : Addressed access model e e')
    (name : String) : declares name e' = declares name e := by
  cases addressed <;> rfl

theorem Addressed.undeclared {e e' : Expr} (addressed : Addressed access model e e') :
    declares access.root e' = false := by
  cases addressed with
  | lambda other => simpa [declares] using other
  | _ => rfl

/-- Corresponding places of two queries: a node of each and the nodes around them, the innermost
first. -/
inductive Descent (access : RootMember) (model : Model) : List Expr → List Expr → Prop
  | nil : Descent access model [] []
  | whole {e e' : Expr} : Addressed access model e e' → Descent access model [e] [e']
  | child {e e' child child' : Expr} {around around' : List Expr} :
    Descent access model (e :: around) (e' :: around') →
      child ∈ e.children → child' ∈ e'.children → Addressed access model child child' →
      Descent access model (child :: e :: around) (child' :: e' :: around')

theorem Descent.tail {around around' : List Expr} (descent : Descent access model around around') :
    Descent access model around.tail around'.tail := by
  cases descent with
  | nil => exact .nil
  | whole => exact .nil
  | child outer => exact outer

theorem Descent.unrooted {around around' : List Expr}
    (descent : Descent access model around around') :
    ofParameter model around' access.root = .ok .unbound := by
  induction descent with
  | nil => rfl
  | whole addressed =>
    unfold ofParameter
    rw [addressed.undeclared]
    rfl
  | child _ _ _ addressed ih =>
    unfold ofParameter
    rw [addressed.undeclared]
    exact ih

theorem Descent.length_eq {around around' : List Expr}
    (descent : Descent access model around around') : around'.length = around.length := by
  induction descent with
  | nil => rfl
  | whole => rfl
  | child _ _ _ _ ih => simpa using ih

theorem Descent.head {e e' : Expr} {around around' : List Expr}
    (descent : Descent access model (e :: around) (e' :: around')) :
    Addressed access model e e' := by
  cases descent with
  | whole addressed => exact addressed
  | child _ _ _ addressed => exact addressed

/-- What parameters are bound to. The lambda that declares one is an argument of the call around it
in both queries, so it is the first argument of the call that decides. -/
theorem Descent.shows_ofParameter {around around' : List Expr} {name : String}
    {binding shown : Binding} (descent : Descent access model around around')
    (bound : ofParameter model around name = .ok binding)
    (bound' : ofParameter model around' name = .ok shown) : Shows binding shown := by
  fun_induction ofParameter model around name generalizing around' binding shown with
  | case1 =>
    cases descent
    cases bound
    cases bound'
    exact .same rfl rfl
  | case2 frame name declared stamp method source more around found ih =>
    cases descent with
    | child outer _ inside' addressed =>
      have beyond := outer.tail
      cases outer.head with
      | call _ related =>
        cases related with
        | cons first others =>
          unfold ofParameter at bound'
          rw [addressed.declares_eq, if_pos declared] at bound'
          simp only [Expr.children] at inside'
          simp only [if_pos inside'] at bound'
          obtain ⟨owner, of, rfl⟩ := exists_of_map bound
          obtain ⟨owner', of', rfl⟩ := exists_of_map bound'
          refine (shows_ofNode beyond.unrooted ?_ first of of').elementOf
          intro inner binding shown bound bound'
          exact ih inner beyond bound bound'
  | case3 frame name declared stamp method source more around absent =>
    cases descent with
    | child _ inside => exact (absent inside).elim
  | case4 frame outer name declared other =>
    cases bound
    have unbound : shown = .unbound := by
      cases descent with
      | whole addressed =>
        unfold ofParameter at bound'
        rw [addressed.declares_eq, if_pos declared] at bound'
        exact (Except.ok.inj bound').symm
      | child outer _ _ addressed =>
        unfold ofParameter at bound'
        rw [addressed.declares_eq, if_pos declared] at bound'
        cases outer.head with
        | call _ related =>
          cases related with
          | nil => exact (Except.ok.inj bound').symm
          | cons => exact (other _ _ _ _ _ rfl).elim
        | _ => exact (Except.ok.inj bound').symm
    subst unbound
    exact .same rfl rfl
  | case5 frame outer name other ih =>
    cases around' with
    | nil => cases descent
    | cons frame' outer' =>
      unfold ofParameter at bound'
      rw [descent.head.declares_eq, if_neg other] at bound'
      exact ih descent.tail bound bound'

theorem Addressed.accessed?_eq {stamp stamp' : Stamp} {target target' : Expr} {name : String}
    (addressed : Addressed access model target target') :
    access.accessed? (.member stamp' target' name) = access.accessed? (.member stamp target name) := by
  cases addressed <;> rfl

/-- A walk that knows no root. -/
def direct (model : Model) : Plan := { model, request := {}, store := {} }

/-- A walk that normalizes members of the root. -/
def rooted (access : RootMember) (model : Model) : Plan :=
  { model, request := {}, root := some access, store := {} }

theorem Addressed.role_plain {e e' : Expr} (addressed : Addressed access model e e')
    (plain : e.isSource = false) :
    (direct model).role e = .plain ∧ (access.rooted model).role e' = .plain := by
  constructor
  · apply Plan.role_plain plain
    intro other none
    contradiction
  · apply Plan.role_plain
    · cases addressed with
      | source => contradiction
      | _ => rfl
    · rintro _ ⟨⟩
      cases addressed with
      | rooted => contradiction
      | member unaccessed _ related => rw [related.accessed?_eq, unaccessed]
      | _ => rfl

/-- What a reference stands for, directly or as a member of the root. -/
theorem Addressed.role_source {e e' : Expr} (addressed : Addressed access model e e')
    (source : e.isSource = true) :
    (direct model).role e ≠ .plain ∧ (access.rooted model).role e' ≠ .plain ∧
      ∀ target target' type type', (direct model).role e = .reference target type →
        (access.rooted model).role e' = .reference target' type' →
        target'.name = target.name ∧ target'.element = target.element := by
  have referring : (direct model).role e ≠ .plain := by
    intro plain
    rw [Plan.isSource_of_plain plain] at source
    contradiction
  refine ⟨referring, ?_⟩
  cases addressed with
  | @rooted stamp stamp' below qualifier name element resolved proper =>
    have found := Model.resolve?_unqualified resolved
    have role : (direct model).role (.source stamp qualifier name []) =
        .reference ⟨qualifier, name, [], element⟩ stamp.type := by
      simp [Plan.role, direct, resolved]
    have role' : (access.rooted model).role (.member stamp' (.parameter below access.root) name) =
        if stamp'.type.accepts element.logicalType then
          .reference ⟨none, name, [], element⟩ element.logicalType
        else .broken := by
      simp [Plan.role, Plan.accessRole, RootMember.rooted, accessed?, found, proper]
      rfl
    rw [role, role']
    constructor
    · split <;> simp
    · rintro _ _ _ _ ⟨⟩ same
      split at same <;> cases same
      exact ⟨rfl, rfl⟩
  | @source stamp stamp' qualifier name args args' _ _ _ =>
    have role (plan : Plan) (stamp : Stamp) (args : List Expr) (known : plan.model = model) :
        plan.role (.source stamp qualifier name args) =
          ((model.resolve? qualifier name).map fun found =>
            .reference ⟨qualifier, name, args, found⟩ stamp.type).getD .broken := by
      rw [← known]
      cases resolved : plan.model.resolve? qualifier name <;> simp [Plan.role, resolved]
    rw [role (direct model) _ _ rfl, role (access.rooted model) _ _ rfl]
    constructor
    · cases model.resolve? qualifier name <;> simp
    · intro _ _ _ _ same same'
      cases resolved : model.resolve? qualifier name with
      | none =>
        rw [resolved] at same
        contradiction
      | some found =>
        rw [resolved] at same same'
        cases same
        cases same'
        exact ⟨rfl, rfl⟩
  | _ => contradiction

/-- The same places are inspected of both queries. -/
theorem Descent.places {e e' : Expr} {around around' : List Expr}
    (descent : Descent access model (e :: around) (e' :: around')) :
    List.Forall₂ (Descent access model) ((direct model).places around e)
      ((access.rooted model).places around' e') := by
  induction e using Expr.ofChildren generalizing e' around around' with
  | step e ih =>
    have addressed := descent.head
    by_cases source : e.isSource = true
    · obtain ⟨leaf, leaf', -⟩ := addressed.role_source source
      rw [Plan.places_leaf leaf, Plan.places_leaf leaf']
      exact .cons descent .nil
    · obtain ⟨plain, plain'⟩ := addressed.role_plain (by simpa using source)
      rw [Plan.places_plain plain, Plan.places_plain plain']
      refine List.rel_append ?_ (.cons descent .nil)
      rcases addressed.children with ⟨_, _, _, rfl⟩ | related
      · exact (source rfl).elim
      · apply List.rel_flatMap (Expr.forall₂_mem related)
        rintro child child' ⟨below, below', related⟩
        exact ih child below (.child descent below below' related)

/-- What an inspector is shown at a place of a query, and what it is shown there where references are
written as members of the root. A binding that goes back to such a reference is lost, other than
that of the reference itself; every other binding is of the same kind, type and owner. -/
structure Pictured (access : RootMember) (model : Model) (entry entry' : Consultation) : Prop where
  hook : entry'.hook = entry.hook
  depth : entry'.depth = entry.depth
  place : (∃ node node', entry.frame.node = some node ∧ entry'.frame.node = some node' ∧
      Addressed access model node node') ∨
    ∃ target target', entry.frame.binding = .reference target ∧
      entry'.frame.binding = .reference target' ∧ target'.name = target.name ∧
      target'.element = target.element
  binding : if entry.frame.binding.isAddressable ∧ entry.frame.binding.isReference = false then
      entry'.frame.binding = .unbound
    else entry'.frame.binding.kind = entry.frame.binding.kind ∧
      entry'.frame.binding.logicalType? = entry.frame.binding.logicalType? ∧
      entry'.frame.binding.owner? model = entry.frame.binding.owner? model

theorem Descent.pictured {place place' : List Expr} {name : String}
    {entry entry' : Consultation} (descent : Descent access model place place')
    (shown : (direct model).Shown (name, place) entry)
    (shown' : (access.rooted model).Shown (name, place') entry') :
    Pictured access model entry entry' := by
  obtain ⟨e, around, node, rfl, under, normal, bound⟩ := shown.frame
  obtain ⟨e', around', node', rfl, under', normal', bound'⟩ := shown'.frame
  have addressed := descent.head
  have depth : entry'.depth = entry.depth := by
    rw [shown.depth, shown'.depth, descent.length_eq]
  have hook : entry'.hook = entry.hook := shown'.hook.trans shown.hook.symm
  unfold Plan.Normal at normal normal'
  by_cases source : e.isSource = true
  · obtain ⟨leaf, leaf', alike⟩ := addressed.role_source source
    cases role : (direct model).role e with
    | plain => exact (leaf role).elim
    | broken => simp [role] at normal
    | reference target type =>
      cases role' : (access.rooted model).role e' with
      | plain => exact (leaf' role').elim
      | broken => simp [role'] at normal'
      | reference target' type' =>
        rw [role] at normal
        rw [role'] at normal'
        obtain ⟨named, element⟩ := alike _ _ _ _ role role'
        refine ⟨hook, depth, .inr ⟨target, target', normal.1, normal'.1, named, element⟩, ?_⟩
        rw [normal.1, normal'.1, if_neg (by simp [isReference, reference?])]
        refine ⟨rfl, ?_, ?_⟩
        · simp [logicalType?, DataReference.logicalType, element]
        · simp [owner?, DataReference.logicalType, element]
  · obtain ⟨plain, plain'⟩ := addressed.role_plain (by simpa using source)
    rw [plain] at normal
    rw [plain'] at normal'
    obtain ⟨rfl, unreferenced⟩ := normal
    obtain ⟨rfl, -⟩ := normal'
    refine ⟨hook, depth, .inl ⟨node, node', under, under', addressed⟩, ?_⟩
    have shows : Shows entry.frame.binding entry'.frame.binding := by
      refine shows_ofNode descent.tail.unrooted ?_ addressed bound bound'
      intro name binding shown bound bound'
      exact descent.tail.shows_ofParameter bound bound'
    have unreferenced : entry.frame.binding.isReference = false := by
      rw [isReference, unreferenced]
      rfl
    unfold Shows at shows
    by_cases lost : entry.frame.binding.isAddressable = true
    · rw [if_pos lost] at shows
      rw [if_pos ⟨lost, unreferenced⟩]
      exact shows
    · rw [if_neg lost] at shows
      rw [if_neg fun both => lost both.1, ← kind_bare, shows, kind_bare, ← logicalType?_bare, shows,
        logicalType?_bare, ← owner?_bare, shows, owner?_bare]
      exact ⟨rfl, rfl, rfl⟩

theorem Descent.sights (descent : Descent access model [e] [e']) (names : List String) :
    List.Forall₂ (fun sight sight' => sight'.1 = sight.1 ∧ Descent access model sight.2 sight'.2)
      ((direct model).sights names [] e) ((access.rooted model).sights names [] e') := by
  apply List.rel_flatMap descent.places
  intro place place' descent
  induction names with
  | nil => exact .nil
  | cons name rest ih => exact .cons ⟨rfl, descent⟩ ih

/-- What stands in a place of a list, where another list is related to it. -/
theorem exists_of_getElem? {α β : Type} {related : α → β → Prop} {items : List α}
    {others : List β} (each : List.Forall₂ related items others) {place : Nat} {other : β}
    (found : others[place]? = some other) : ∃ item, items[place]? = some item ∧ related item other := by
  induction each generalizing place with
  | nil => contradiction
  | cons first _ ih =>
    cases place with
    | zero =>
      cases found
      exact ⟨_, rfl, first⟩
    | succ place => exact ih found

theorem getElem?_of_prefix {α : Type} {part whole : List α} (early : part <+: whole) {place : Nat}
    {item : α} (found : part[place]? = some item) : whole[place]? = some item := by
  obtain ⟨rest, rfl⟩ := early
  rw [List.getElem?_append_left (List.getElem?_eq_some_iff.mp found).1]
  exact found

/-- Where sources are addressed as members of the root, inspectors are shown the same nodes in the
same order, with the same bindings but for those that go back to such a member through nodes around
it: these are lost. -/
theorem addressed_pictured (access : RootMember) (model : Model) {query query' : Expr}
    (addressed : Addressed access model query query') (inspectors : List (Hook Bool))
    (sourcer : Option Sourcer) (request : RequestContext) (maxDepth : Nat)
    (ambient ambient' : Ambient) :
    let walked := run { inspectors, sourcer } query { model, request, maxDepth } ambient
    let walked' := run { normalizers := [access.hook], inspectors, sourcer } query'
      { model, request, maxDepth } ambient'
    (∀ (place : Nat) entry entry', walked.2.context.inspections[place]? = some entry →
        walked'.2.context.inspections[place]? = some entry' →
        Pictured access model entry entry') ∧
      (walked.1.isOk = true → walked'.1.isOk = true →
        walked'.2.context.inspections.length = walked.2.context.inspections.length) := by
  intro walked walked'
  have inspecting : (direct model).Inspecting { inspectors, sourcer } := ⟨rfl, rfl, rfl⟩
  have inspecting' : (access.rooted model).Inspecting
      { normalizers := [access.hook], inspectors, sourcer } := ⟨rfl, rfl, rfl⟩
  obtain ⟨part, early, shown, complete⟩ :=
    Plan.inspections_of_run inspecting query request maxDepth ambient
  obtain ⟨part', early', shown', complete'⟩ :=
    Plan.inspections_of_run inspecting' query' request maxDepth ambient'
  have related := (Descent.whole addressed).sights (inspectors.reverse.map Hook.name)
  constructor
  · intro place entry entry' found found'
    obtain ⟨sight, listed, shows⟩ := exists_of_getElem? shown found
    obtain ⟨sight', listed', shows'⟩ := exists_of_getElem? shown' found'
    have listed := getElem?_of_prefix early listed
    have listed' := getElem?_of_prefix early' listed'
    obtain ⟨other, same, named, descent⟩ := exists_of_getElem? related listed'
    cases listed.symm.trans same
    obtain ⟨name, place⟩ := sight
    obtain ⟨name', place'⟩ := sight'
    cases named
    exact descent.pictured shows shows'
  · intro succeeds succeeds'
    calc walked'.2.context.inspections.length
        = part'.length := shown'.length_eq.symm
      _ = part.length := by rw [complete succeeds, complete' succeeds']; exact related.length_eq.symm
      _ = walked.2.context.inspections.length := shown.length_eq

/-- Customers by their number, with the customers as a member of the root and without: the reference
and the nodes that are bound to nothing look the same. -/
theorem customers_pictured :
    let model : Model := {
      space := "shop"
      entityTypes := [("Customer", { name := "Customer", fields := [("id", { type := .int })] })]
      elements := [("Customers", .collection "Customers" "Customer")] }
    let store : Evaluation.Store := { collections := [("Customers", [])] }
    let watch : Hook Bool := ⟨"watch", fun _ => return true⟩
    let query (customers : Expr) : Expr := .call ⟨0, .queryable (.entity "Customer")⟩ .filter
      [customers, .lambda ⟨1, .bool⟩ "o" (.binary ⟨2, .bool⟩ .eq
        (.member ⟨3, .int⟩ (.parameter ⟨4, .entity "Customer"⟩ "o") "id")
        (.value ⟨5, .int⟩ (.ofUInt64 1)))]
    ∃ walked walked' : Except Rewriting.Error Expr × Walk.State,
      run { inspectors := [watch], sourcer := some store.sourcer }
        (query (.source ⟨6, .queryable (.entity "Customer")⟩ none "Customers" []))
        { model, request := {}, maxDepth := 8 } { supply := ⟨8⟩ } = walked ∧
      run { normalizers := [hook {}], inspectors := [watch], sourcer := some store.sourcer }
        (query (.member ⟨6, .queryable (.entity "Customer")⟩ (.parameter ⟨7, .any⟩ "api")
          "Customers"))
        { model, request := {}, maxDepth := 8 } { supply := ⟨8⟩ } = walked' ∧
      walked'.2.context.inspections.length = 7 ∧
      ∀ (place : Nat) entry entry', walked.2.context.inspections[place]? = some entry →
        walked'.2.context.inspections[place]? = some entry' → Pictured {} model entry entry' := by
  intro model store watch query
  have addressed : Addressed {} model
      (query (.source ⟨6, .queryable (.entity "Customer")⟩ none "Customers" []))
      (query (.member ⟨6, .queryable (.entity "Customer")⟩ (.parameter ⟨7, .any⟩ "api")
        "Customers")) := by
    apply Addressed.call rfl
    apply List.Forall₂.cons (.rooted rfl rfl rfl)
    apply List.Forall₂.cons _ .nil
    apply Addressed.lambda (by decide) rfl
    apply Addressed.binary rfl _ (.value rfl)
    exact .member (by decide) rfl (.parameter rfl)
  obtain ⟨pictured, -⟩ := addressed_pictured {} model addressed [watch] (some store.sourcer)
    {} 8 { supply := ⟨8⟩ } { supply := ⟨8⟩ }
  generalize ran : run _ _ _ _ = walked at pictured
  generalize ran' : run _ _ _ _ = walked' at pictured
  exact ⟨walked, walked', rfl, rfl, by rw [← ran']; decide +kernel, pictured⟩

/-- The parameter of the same query ranges over customers only where these are referred to directly.
-/
theorem customers_lost :
    let model : Model := {
      space := "shop"
      entityTypes := [("Customer", { name := "Customer", fields := [("id", { type := .int })] })]
      elements := [("Customers", .collection "Customers" "Customer")] }
    let store : Evaluation.Store := { collections := [("Customers", [])] }
    let watch : Hook Bool := ⟨"watch", fun _ => return true⟩
    let query (customers : Expr) : Expr := .call ⟨0, .queryable (.entity "Customer")⟩ .filter
      [customers, .lambda ⟨1, .bool⟩ "o" (.binary ⟨2, .bool⟩ .eq
        (.member ⟨3, .int⟩ (.parameter ⟨4, .entity "Customer"⟩ "o") "id")
        (.value ⟨5, .int⟩ (.ofUInt64 1)))]
    ∃ walked walked' : Except Rewriting.Error Expr × Walk.State,
      run { inspectors := [watch], sourcer := some store.sourcer }
        (query (.source ⟨6, .queryable (.entity "Customer")⟩ none "Customers" []))
        { model, request := {}, maxDepth := 8 } { supply := ⟨8⟩ } = walked ∧
      run { normalizers := [hook {}], inspectors := [watch], sourcer := some store.sourcer }
        (query (.member ⟨6, .queryable (.entity "Customer")⟩ (.parameter ⟨7, .any⟩ "api")
          "Customers"))
        { model, request := {}, maxDepth := 8 } { supply := ⟨8⟩ } = walked' ∧
      ¬∀ (place : Nat) entry entry', walked.2.context.inspections[place]? = some entry →
        walked'.2.context.inspections[place]? = some entry' →
        entry'.frame.binding.kind = entry.frame.binding.kind ∧
          entry'.frame.binding.logicalType? = entry.frame.binding.logicalType? ∧
          entry'.frame.binding.owner? model = entry.frame.binding.owner? model := by
  intro model store watch query
  generalize ran : run _ _ _ _ = walked
  generalize ran' : run _ _ _ _ = walked'
  refine ⟨walked, walked', rfl, rfl, ?_⟩
  intro same
  have seen : walked.2.context.inspections[1]?.map (·.frame.binding.kind) = some "element" := by
    rw [← ran]
    decide +kernel
  have seen' : walked'.2.context.inspections[1]?.map (·.frame.binding.kind) = some "none" := by
    rw [← ran']
    decide +kernel
  obtain ⟨entry, found, kind⟩ := Option.map_eq_some_iff.mp seen
  obtain ⟨entry', found', kind'⟩ := Option.map_eq_some_iff.mp seen'
  obtain ⟨equal, -⟩ := same 1 entry entry' found found'
  rw [kind, kind'] at equal
  exact absurd equal (by decide)

end Access.RootMember

end QueryRewriting
