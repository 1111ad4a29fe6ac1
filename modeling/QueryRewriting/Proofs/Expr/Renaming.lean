import QueryRewriting.Proofs.Binding
import QueryRewriting.Proofs.Expr.Erasure

/-! Trees that are the same but for the names of lambda parameters and for identities. Under lambdas
that correspond to each other, names correspond if the same lambda declares them or none does. Such
trees stay the same when they are put together again, and their nodes can be bound alike. -/
namespace QueryRewriting

open Schema

/-- The parameters of the lambdas around two trees, pair by pair, the innermost first. -/
abbrev Scopes := List (String × String)

/-- Two names mean the same parameter: that of one lambda around both trees, or a free one. -/
inductive Corresponds : Scopes → String → String → Prop
  | free (name : String) : Corresponds [] name name
  | bound (scopes : Scopes) (name other : String) : Corresponds ((name, other) :: scopes) name other
  | outer {scopes : Scopes} {param param' name other : String} (apart : name ≠ param)
      (apart' : other ≠ param') (around : Corresponds scopes name other) :
      Corresponds ((param, param') :: scopes) name other

/-- The lambdas around the children of two nodes that correspond to each other. -/
def Scopes.inside (scopes : Scopes) : Expr → Expr → Scopes
  | .lambda _ param _, .lambda _ param' _ => (param, param') :: scopes
  | _, _ => scopes

theorem Corresponds.symm {scopes : Scopes} {name other : String}
    (same : Corresponds scopes name other) : Corresponds (scopes.map Prod.swap) other name := by
  induction same with
  | free name => exact .free name
  | bound scopes name other => exact .bound _ other name
  | outer apart apart' _ ih => exact .outer apart' apart ih

/-- A name that no lambda around the one tree declares stands for itself in the other. -/
theorem Corresponds.eq_of_free {scopes : Scopes} {name other : String}
    (same : Corresponds scopes name other) (free : name ∉ scopes.map Prod.fst) :
    other = name ∧ name ∉ scopes.map Prod.snd := by
  induction same with
  | free name => exact ⟨rfl, List.not_mem_nil⟩
  | bound scopes name other => exact (free List.mem_cons_self).elim
  | @outer scopes param param' name other apart apart' _ ih =>
    obtain ⟨rfl, unbound⟩ := ih fun member => free (List.mem_cons_of_mem _ member)
    exact ⟨rfl, List.not_mem_cons_of_ne_of_not_mem apart' unbound⟩

theorem Corresponds.refl {scopes : Scopes} (same : ∀ pair ∈ scopes, pair.1 = pair.2)
    (name : String) : Corresponds scopes name name := by
  induction scopes with
  | nil => exact .free name
  | cons pair rest ih =>
    obtain ⟨param, param'⟩ := pair
    obtain ⟨first, others⟩ := List.forall_mem_cons.mp same
    cases (first : param = param')
    by_cases declared : name = param
    · cases declared
      exact .bound rest name name
    · exact .outer declared declared (ih others)

namespace Expr

/-- Two trees that differ in identities and in the names of lambda parameters only. A queryable
constant is one of the backend, and no parameter in its tree is that of a lambda around it. -/
inductive Renamed : Scopes → Expr → Expr → Prop
  | value {scopes stamp stamp'} (typed : stamp.type = stamp'.type) (content : Json.Value) :
      Renamed scopes (.value stamp content) (.value stamp' content)
  | queryable {scopes stamp stamp'} (typed : stamp.type = stamp'.type) (proxy : ProxyId)
      (element : QueryType) (expression : Expr) :
      Renamed scopes (.queryable stamp proxy element expression)
        (.queryable stamp' proxy element expression)
  | parameter {scopes stamp stamp' name name'} (typed : stamp.type = stamp'.type)
      (same : Corresponds scopes name name') :
      Renamed scopes (.parameter stamp name) (.parameter stamp' name')
  | member {scopes stamp stamp' target target'} (typed : stamp.type = stamp'.type)
      (below : Renamed scopes target target') (name : String) :
      Renamed scopes (.member stamp target name) (.member stamp' target' name)
  | source {scopes stamp stamp' args args'} (typed : stamp.type = stamp'.type)
      (qualifier : Option String) (name : String) (many : args.length = args'.length)
      (below : ∀ pair ∈ args.zip args', Renamed scopes pair.1 pair.2) :
      Renamed scopes (.source stamp qualifier name args) (.source stamp' qualifier name args')
  | native {scopes stamp stamp'} (typed : stamp.type = stamp'.type) (proxy : ProxyId)
      (name : String) : Renamed scopes (.native stamp proxy name) (.native stamp' proxy name)
  | call {scopes stamp stamp' args args'} (typed : stamp.type = stamp'.type) (method : Method)
      (many : args.length = args'.length)
      (below : ∀ pair ∈ args.zip args', Renamed scopes pair.1 pair.2) :
      Renamed scopes (.call stamp method args) (.call stamp' method args')
  | lambda {scopes stamp stamp' param param' body body'} (typed : stamp.type = stamp'.type)
      (below : Renamed ((param, param') :: scopes) body body') :
      Renamed scopes (.lambda stamp param body) (.lambda stamp' param' body')
  | binary {scopes stamp stamp' left left' right right'} (typed : stamp.type = stamp'.type)
      (op : BinaryOp) (first : Renamed scopes left left') (second : Renamed scopes right right') :
      Renamed scopes (.binary stamp op left right) (.binary stamp' op left' right')
  | not {scopes stamp stamp' operand operand'} (typed : stamp.type = stamp'.type)
      (below : Renamed scopes operand operand') :
      Renamed scopes (.not stamp operand) (.not stamp' operand')

variable {scopes : Scopes} {e other : Expr}

theorem forall₂_of_zip {related : Expr → Expr → Prop} {es others : List Expr}
    (many : es.length = others.length) (each : ∀ pair ∈ es.zip others, related pair.1 pair.2) :
    List.Forall₂ related es others :=
  List.forall₂_iff_zip.mpr ⟨many, fun member => each _ member⟩

theorem zip_of_forall₂ {related : Expr → Expr → Prop} {es others : List Expr}
    (each : List.Forall₂ related es others) :
    es.length = others.length ∧ ∀ pair ∈ es.zip others, related pair.1 pair.2 := by
  obtain ⟨many, each⟩ := List.forall₂_iff_zip.mp each
  exact ⟨many, fun pair member => each member⟩

namespace Renamed

theorem type_eq (renamed : Renamed scopes e other) : e.type = other.type := by
  cases renamed <;> assumption

theorem isSource_eq (renamed : Renamed scopes e other) : e.isSource = other.isSource := by
  cases renamed <;> rfl

theorem children (renamed : Renamed scopes e other) :
    List.Forall₂ (Renamed (scopes.inside e other)) e.children other.children := by
  cases renamed with
  | value | queryable | parameter | native => exact .nil
  | member typed below => exact .cons below .nil
  | source typed qualifier name many below => exact forall₂_of_zip many below
  | call typed method many below => exact forall₂_of_zip many below
  | lambda typed below => exact .cons below .nil
  | binary typed op first second => exact .cons first (.cons second .nil)
  | not typed below => exact .cons below .nil

/-- Nodes that are put together again over children that are the same are the same again. -/
theorem replaceChildren (renamed : Renamed scopes e other) {given given' : List Expr}
    (each : List.Forall₂ (Renamed (scopes.inside e other)) given given')
    (complete : given.length = e.children.length) {stamp stamp' : Stamp}
    (typed : stamp.type = stamp'.type) :
    Renamed scopes (e.replaceChildren stamp given) (other.replaceChildren stamp' given') := by
  have complete' : given'.length = other.children.length := by
    rw [← each.length_eq, complete, renamed.children.length_eq]
  cases renamed with
  | value kept content => exact .value kept content
  | queryable kept proxy element expression => exact .queryable kept proxy element expression
  | parameter kept same => exact .parameter kept same
  | native kept proxy name => exact .native kept proxy name
  | member _ _ name =>
    cases each with
    | nil => contradiction
    | cons first _ => exact .member typed first name
  | @source _ _ _ args args' _ qualifier name =>
    have complete : given.length = args.length := complete
    have complete' : given'.length = args'.length := complete'
    rw [Expr.replaceChildren, Expr.replaceChildren, overlay_of_length_eq complete,
      overlay_of_length_eq complete']
    obtain ⟨many, each⟩ := zip_of_forall₂ each
    exact .source typed qualifier name many each
  | @call _ _ _ args args' _ method =>
    have complete : given.length = args.length := complete
    have complete' : given'.length = args'.length := complete'
    rw [Expr.replaceChildren, Expr.replaceChildren, overlay_of_length_eq complete,
      overlay_of_length_eq complete']
    obtain ⟨many, each⟩ := zip_of_forall₂ each
    exact .call typed method many each
  | lambda =>
    cases each with
    | nil => contradiction
    | cons first _ => exact .lambda typed first
  | binary _ op =>
    obtain ⟨left, right, rfl⟩ := List.length_eq_two.mp complete
    cases each with
    | cons first rest =>
      cases rest with
      | cons second _ => exact .binary typed op first second
  | not =>
    cases each with
    | nil => contradiction
    | cons first _ => exact .not typed first

end Renamed

/-- A node that is put together again has other children at most. -/
theorem exists_replaceChildren (e : Expr) (given : List Expr) (supply : NodeSupply) :
    ∃ stamp, stamp.type = e.type ∧
      ((e.withChildren given).run supply).1 = e.replaceChildren stamp given := by
  unfold withChildren
  split
  · next same =>
    refine ⟨e.stamp, rfl, ?_⟩
    rw [← same, replaceChildren_self]
    rfl
  · exact ⟨⟨supply.next, e.type⟩, rfl, rfl⟩

theorem Renamed.withChildren (renamed : Renamed scopes e other) {given given' : List Expr}
    (each : List.Forall₂ (Renamed (scopes.inside e other)) given given')
    (complete : given.length = e.children.length) (supply supply' : NodeSupply) :
    Renamed scopes ((e.withChildren given).run supply).1
      ((other.withChildren given').run supply').1 := by
  obtain ⟨stamp, typed, same⟩ := exists_replaceChildren e given supply
  obtain ⟨stamp', typed', same'⟩ := exists_replaceChildren other given' supply'
  rw [same, same']
  apply renamed.replaceChildren each complete
  rw [typed, typed', renamed.type_eq]

/-- A tree is the same as itself. -/
theorem Renamed.refl (e : Expr) {scopes : Scopes} (same : ∀ pair ∈ scopes, pair.1 = pair.2) :
    Renamed scopes e e := by
  induction e using ofChildren generalizing scopes with
  | step e ih =>
    have each (es : List Expr) (below : ∀ child ∈ es, child ∈ e.children) :
        ∀ pair ∈ es.zip es, Renamed scopes pair.1 pair.2 :=
      (zip_of_forall₂ (List.forall₂_same.mpr fun child member =>
        ih child (below child member) same)).2
    cases e with
    | value => exact .value rfl _
    | queryable => exact .queryable rfl _ _ _
    | parameter => exact .parameter rfl (.refl same _)
    | native => exact .native rfl _ _
    | member stamp target => exact .member rfl (ih target List.mem_cons_self same) _
    | source stamp _ _ args => exact .source rfl _ _ rfl (each args fun _ member => member)
    | call stamp _ args => exact .call rfl _ rfl (each args fun _ member => member)
    | lambda stamp param body =>
      exact .lambda rfl (ih body List.mem_cons_self (List.forall_mem_cons.mpr ⟨rfl, same⟩))
    | binary stamp _ left right =>
      exact .binary rfl _ (ih left List.mem_cons_self same)
        (ih right (List.mem_cons_of_mem _ List.mem_cons_self) same)
    | not stamp operand => exact .not rfl (ih operand List.mem_cons_self same)

end Expr

/-- A node is an argument of the node right around it, if there is one. -/
def Placed (e : Expr) (around : List Expr) : Prop := ∀ parent ∈ around.head?, e ∈ parent.children

theorem placed_outermost (e : Expr) : Placed e [] := by
  intro parent member
  contradiction

theorem placed_of_child {e child : Expr} {around : List Expr} (below : child ∈ e.children) :
    Placed child (e :: around) := by
  rintro parent ⟨⟩
  exact below

/-- The nodes around two trees that are the same under corresponding lambdas, the innermost first.
-/
inductive Enclosed : Scopes → List Expr → List Expr → Prop
  | nil : Enclosed [] [] []
  | cons {scopes e other around around'} (outside : Enclosed scopes around around')
      (renamed : e.Renamed scopes other)
      (placed : e.isLambda = true → Placed e around ∧ Placed other around') :
      Enclosed (scopes.inside e other) (e :: around) (other :: around')

theorem Enclosed.uncons {scopes : Scopes} {e : Expr} {around around' : List Expr}
    (enclosed : Enclosed scopes (e :: around) around') :
    ∃ outer other rest, scopes = outer.inside e other ∧ around' = other :: rest ∧
      Enclosed outer around rest ∧ e.Renamed outer other ∧
      (e.isLambda = true → Placed e around ∧ Placed other rest) := by
  cases enclosed with
  | cons outside renamed placed => exact ⟨_, _, _, rfl, rfl, outside, renamed, placed⟩

namespace Binding

variable {model : Model} {scopes : Scopes}

/-- Two nodes are both bound, or neither is, for the same unknown source. -/
def BoundAlike : Except UnknownSource Binding → Except UnknownSource Binding → Prop
  | .ok _, .ok _ => True
  | .error unknown, .error unknown' => unknown = unknown'
  | _, _ => False

theorem BoundAlike.map {result result' : Except UnknownSource Binding}
    (alike : BoundAlike result result') (f f' : Binding → Binding) :
    BoundAlike (f <$> result) (f' <$> result') := by
  cases result <;> cases result' <;> exact alike

theorem ofNode_alike {parameter parameter' : String → Except UnknownSource Binding}
    {e other : Expr} (renamed : e.Renamed scopes other)
    (alike : ∀ name name', Corresponds scopes name name' →
      BoundAlike (parameter name) (parameter' name')) :
    BoundAlike (ofNode model parameter e) (ofNode model parameter' other) := by
  induction renamed with
  | parameter typed same => exact alike _ _ same
  | member typed below name ih => exact (ih alike).map _ _
  | source typed qualifier name =>
    simp only [ofNode]
    cases model.resolve? qualifier name with
    | none => rfl
    | some element => trivial
  | _ => trivial

/-- The same lambdas declare parameters that mean the same. -/
theorem declares_alike {frame other : Expr} (renamed : frame.Renamed scopes other)
    {name name' : String} (same : Corresponds (scopes.inside frame other) name name') :
    declares name' other = declares name frame ∧
      (declares name frame = false → Corresponds scopes name name') := by
  cases renamed with
  | lambda =>
    cases same with
    | bound => simp [declares]
    | outer apart apart' around => exact ⟨by simp [declares, apart.symm, apart'.symm], fun _ => around⟩
  | _ => exact ⟨rfl, fun _ => same⟩

/-- Under corresponding lambdas parameters that mean the same are bound alike. -/
theorem ofParameter_alike {around around' : List Expr} {name name' : String}
    (enclosed : Enclosed scopes around around') (same : Corresponds scopes name name') :
    BoundAlike (ofParameter model around name) (ofParameter model around' name') := by
  fun_induction ofParameter model around name generalizing scopes around' name' with
  | case1 =>
    cases enclosed
    trivial
  | case2 frame name declared stamp method source more around found ih =>
    obtain ⟨scopes, other, rest, rfl, rfl, outside, renamed, placed⟩ := enclosed.uncons
    obtain ⟨declared', -⟩ := declares_alike renamed same
    have placed := (placed (isLambda_of_declares declared)).2
    obtain ⟨scopes, call, around', rfl, rfl, beyond, renamed, -⟩ := outside.uncons
    cases renamed with
    | @call _ _ stamp' _ args' _ _ many below =>
      cases args' with
      | nil => contradiction
      | cons source' more' =>
        have found' : other ∈ source' :: more' := placed _ rfl
        simp only [ofParameter, declared', declared, if_true, found']
        apply BoundAlike.map
        apply ofNode_alike (below (source, source') List.mem_cons_self)
        intro inner inner' same
        exact ih inner beyond same
  | case3 frame name declared stamp method source more around missing =>
    obtain ⟨_, _, _, -, -, -, -, placed⟩ := enclosed.uncons
    exact (missing ((placed (isLambda_of_declares declared)).1 _ rfl)).elim
  | case4 frame outer name declared uncalled =>
    obtain ⟨scopes, other, rest, rfl, rfl, outside, renamed, -⟩ := enclosed.uncons
    obtain ⟨declared', -⟩ := declares_alike renamed same
    rw [ofParameter, declared', declared, if_pos rfl]
    · trivial
    · rintro stamp method source' more' around' rfl
      cases outside with
      | cons _ alike =>
        cases alike with
        | @call _ _ _ args _ _ _ many =>
          cases args with
          | nil => contradiction
          | cons source more => exact uncalled _ _ _ _ _ rfl
  | case5 frame outer name undeclared ih =>
    obtain ⟨scopes, other, rest, rfl, rfl, outside, renamed, -⟩ := enclosed.uncons
    obtain ⟨declared', free⟩ := declares_alike renamed same
    have undeclared : declares name frame = false := by simpa using undeclared
    have step : ofParameter model (other :: rest) name' = ofParameter model rest name' := by
      rw [ofParameter.eq_def]
      simp only [declared', undeclared, Bool.false_eq_true, if_false]
    rw [step]
    exact ih outside (free undeclared)

end Binding

end QueryRewriting
