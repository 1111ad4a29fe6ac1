import QueryRewriting.Evaluation.Backend
import QueryRewriting.Proofs.Evaluation.Enclosing
import QueryRewriting.Proofs.Expr.StaticType
import QueryRewriting.Proofs.Rewriting.Onlookers

/-! Bindings against static types. A tree gets its types from the leaves up when it is built, and a
walk binds its nodes from the root down, by the nodes around them. In a tree that is built with the
operations of a model both agree: what a node is bound to, if anything, has the type of the node. -/
namespace QueryRewriting

open Json Rewriting Schema

namespace Schema.Model

theorem functionExpr_ok {model : Model} {qualifier : Option String} {name : String}
    {args : List Expr} {e : Expr} {supply after : NodeSupply}
    (built : (model.functionExpr qualifier name args).run.run supply = (.ok e, after)) :
    ∃ element, model.resolve? qualifier name = some element ∧
      e = .source ⟨supply.next, element.logicalType⟩ qualifier name args := by
  unfold functionExpr at built
  cases found : model.resolve? qualifier name with
  | none =>
    rw [found] at built
    cases built
  | some element =>
    rw [found] at built
    cases built
    exact ⟨element, rfl, rfl⟩

end Schema.Model

namespace Binding

variable {model : Model} {binding : Binding} {name : String} {around outer : List Expr}
  {frame lambda e : Expr}

/-- What a parameter is bound to under some nodes. The innermost lambda over it decides, which must
be an argument of the call around it: the parameter is an element of what the first argument of that
call is bound to, where the call stands. -/
inductive Ranges (model : Model) (name : String) : List Expr → Binding → Prop
  | free {around : List Expr} : (∀ frame ∈ around, declares name frame = false) →
      Ranges model name around .unbound
  | loose (inner : List Expr) {outer : List Expr} {lambda : Expr} :
      (∀ frame ∈ inner, declares name frame = false) → declares name lambda = true →
      (∀ stamp method args rest, outer = .call stamp method args :: rest → lambda ∉ args) →
      Ranges model name (inner ++ lambda :: outer) .unbound
  | row (inner : List Expr) {outer : List Expr} {lambda source : Expr} {stamp : Stamp}
    {method : Method} {rest : List Expr} {owner : Binding} :
      (∀ frame ∈ inner, declares name frame = false) → declares name lambda = true →
      lambda ∈ source :: rest → bind model outer source = .ok owner →
      Ranges model name (inner ++ lambda :: .call stamp method (source :: rest) :: outer)
        owner.elementOf

theorem Ranges.cons (ranges : Ranges model name outer binding)
    (other : declares name frame = false) : Ranges model name (frame :: outer) binding := by
  cases ranges with
  | free undeclared => exact .free (List.forall_mem_cons.mpr ⟨other, undeclared⟩)
  | loose inner undeclared declared alone =>
    refine .loose (frame :: inner) ?_ declared alone
    exact List.forall_mem_cons.mpr ⟨other, undeclared⟩
  | row inner undeclared declared member bound =>
    refine .row (frame :: inner) ?_ declared member bound
    exact List.forall_mem_cons.mpr ⟨other, undeclared⟩

theorem ranges_ofParameter (bound : ofParameter model around name = .ok binding) :
    Ranges model name around binding := by
  fun_induction ofParameter model around name with
  | case1 =>
    cases bound
    exact .free (List.forall_mem_nil _)
  | case2 lambda name declared stamp method source more outer member =>
    obtain ⟨owner, found, rfl⟩ := exists_of_map bound
    exact .row [] (List.forall_mem_nil _) declared member found
  | case3 lambda name declared stamp method source more outer foreign =>
    cases bound
    refine .loose [] (List.forall_mem_nil _) declared ?_
    rintro stamp' method' args rest ⟨⟩
    exact foreign
  | case4 lambda outer name declared uncalled =>
    cases bound
    refine .loose [] (List.forall_mem_nil _) declared ?_
    rintro stamp method (_ | ⟨source, more⟩) rest rfl
    · exact List.not_mem_nil
    · exact (uncalled stamp method source more rest rfl).elim
  | case5 frame outer name other ih => exact (ih bound).cons (by simpa using other)

/-- Where a lambda is no argument of a call, its parameter is unbound. -/
theorem ofParameter_loose (declared : declares name lambda = true)
    (uncalled : ∀ stamp method args rest, outer ≠ .call stamp method args :: rest) :
    ofParameter model (lambda :: outer) name = .ok .unbound := by
  unfold ofParameter
  rw [if_pos declared]
  split
  · exact (uncalled _ _ _ _ rfl).elim
  · rfl

theorem ofParameter_row {source : Expr} {stamp : Stamp} {method : Method} {rest : List Expr}
    {owner : Binding} (declared : declares name lambda = true) (member : lambda ∈ source :: rest)
    (bound : bind model outer source = .ok owner) :
    ofParameter model (lambda :: .call stamp method (source :: rest) :: outer) name =
      .ok owner.elementOf := by
  unfold ofParameter
  rw [if_pos declared]
  simp only [if_pos member]
  have bound : ofNode model (fun inner => ofParameter model outer inner) source = .ok owner := bound
  rw [bound]
  rfl

/-- A node that is no lambda around a tree does not matter to its binding. -/
theorem bind_cons (proper : frame.isLambda = false) :
    bind model (frame :: outer) e = bind model outer e := by
  have same : ofParameter model (frame :: outer) = ofParameter model outer := by
    funext name
    exact ofParameter_cons (declares_of_not_lambda proper name)
  rw [bind, same, bind]

theorem bind_member {stamp : Stamp} {target : Expr} {owner : Binding}
    (bound : bind model around target = .ok owner) :
    bind model around (.member stamp target name) = .ok (propertyOf model owner name) := by
  unfold bind at *
  rw [ofNode, bound]
  rfl

theorem bind_source {stamp : Stamp} {qualifier : Option String} {args : List Expr}
    {element : Element} (found : model.resolve? qualifier name = some element) :
    bind model around (.source stamp qualifier name args) =
      .ok (.reference { qualifier, name, args, element }) := by
  unfold bind
  simp only [ofNode, found]

theorem logicalType?_eq_none : binding.logicalType? = none ↔ binding = .unbound := by
  cases binding <;> simp [logicalType?]

/-- There is no binding, or the bound data has the type that is known. -/
def Admits (known : Option QueryType) (binding : Binding) : Prop :=
  binding = .unbound ∨ binding.logicalType? = known

theorem Admits.narrow {known : Option QueryType} {type : QueryType} (admits : binding.Admits known)
    (listed : ∀ listed, known = some listed → type = listed) : binding.Admits (some type) := by
  rcases admits with unbound | typed
  · exact .inl unbound
  · cases known with
    | none => exact .inl (logicalType?_eq_none.mp typed)
    | some other =>
      cases listed other rfl
      exact .inr typed

theorem Admits.elementOf {type : QueryType} (admits : binding.Admits (some type)) :
    binding.elementOf.Admits type.element? := by
  rcases admits with rfl | typed
  · exact .inl rfl
  · unfold Binding.elementOf
    rw [typed, Option.bind_some]
    cases type.element? with
    | none => exact .inl rfl
    | some element => exact .inr rfl

theorem Admits.propertyOf {entity property : String} {type : QueryType}
    (admits : binding.Admits (some (.entity entity)))
    (declared : model.propertyType? entity property = some type) :
    (propertyOf model binding property).Admits (some type) := by
  rcases admits with rfl | typed
  · exact .inl rfl
  · unfold Binding.propertyOf
    rw [typed]
    simp only [declared]
    exact .inr rfl

/-- What a node is bound to under the nodes around it. -/
structure Agrees (model : Model) (around : List Expr) (e : Expr) (binding : Binding) : Prop where
  bound : bind model around e = .ok binding
  typed : binding = .unbound ∨ binding.logicalType? = some e.type
  reference : binding.isReference = e.isSource
  parameter : ∀ stamp name, e = .parameter stamp name → Ranges model name around binding

theorem Agrees.of (bound : bind model around e = .ok binding)
    (typed : binding.Admits (some e.type)) : Agrees model around e binding := by
  refine ⟨bound, typed, (isSource_of_bind bound).symm, ?_⟩
  rintro stamp name rfl
  exact ranges_ofParameter bound

end Binding

namespace Expr

open Binding

/-- The types of parameters that are known, the innermost first. -/
abbrev KnownParameters := List (String × Option QueryType)

/-- Trees that are built with the operations of a model where the types of some parameters are
known. A lambda in the place of the tree ranges over rows whose type may be known: that of the
elements of the first argument of the call that it is an argument of. -/
inductive Assembled (model : Model) : KnownParameters → Option QueryType → Expr → Prop
  | source {known : KnownParameters} {row : Option QueryType} {e : Expr} {after : NodeSupply}
    (name : String) (supply : NodeSupply) :
    (model.sourceExpr name).run.run supply = (.ok e, after) → Assembled model known row e
  | function {known : KnownParameters} {row : Option QueryType} {e : Expr} {after : NodeSupply}
    (qualifier : Option String) (name : String) (args : List Expr) (supply : NodeSupply) :
    (model.functionExpr qualifier name args).run.run supply = (.ok e, after) →
      Assembled model known row e
  | property {known : KnownParameters} {row : Option QueryType} {target e : Expr}
    {after : NodeSupply} (name : String) (supply : NodeSupply) :
    Assembled model known none target →
      (model.propertyExpr target name).run.run supply = (.ok e, after) →
      Assembled model known row e
  | constant {known : KnownParameters} {row : Option QueryType} (content : Value)
    (supply : NodeSupply) : Assembled model known row ((Fresh.constant content).run supply).1
  | parameter {known : KnownParameters} {row : Option QueryType} (name : String) (type : QueryType)
    (supply : NodeSupply) :
    (∀ listed, (known.lookup name).join = some listed → type = listed) →
      Assembled model known row ((Fresh.parameter name type).run supply).1
  | call {known : KnownParameters} {row : Option QueryType} {source : Expr} {rest : List Expr}
    (method : Method) (supply : NodeSupply) :
    Assembled model known none source →
      (∀ e ∈ rest, Assembled model known source.type.element? e) →
      Assembled model known row ((Fresh.call method (source :: rest)).run supply).1
  | lambda {known : KnownParameters} {row : Option QueryType} {body : Expr} (param : String)
    (supply : NodeSupply) :
    Assembled model ((param, row) :: known) none body →
      Assembled model known row ((Fresh.lambda param body).run supply).1
  | binary {known : KnownParameters} {row : Option QueryType} {left right : Expr} (op : BinaryOp)
    (supply : NodeSupply) :
    Assembled model known none left → Assembled model known none right →
      Assembled model known row ((Fresh.binary op left right).run supply).1
  | not {known : KnownParameters} {row : Option QueryType} {operand : Expr} (supply : NodeSupply) :
    Assembled model known none operand →
      Assembled model known row ((Fresh.not operand).run supply).1

variable {model : Model} {known : KnownParameters} {row : Option QueryType} {e : Expr}
  {around : List Expr}

/-- The bindings of parameters under some nodes are of the types that are known of them. -/
def Fits (model : Model) (known : KnownParameters) (around : List Expr) : Prop :=
  ∀ name, ∃ binding, ofParameter model around name = .ok binding ∧
    binding.Admits (known.lookup name).join

theorem Fits.cons (fits : Fits model known around) (proper : e.isLambda = false) :
    Fits model known (e :: around) := by
  intro name
  obtain ⟨binding, bound, admits⟩ := fits name
  refine ⟨binding, ?_, admits⟩
  rw [ofParameter_cons (declares_of_not_lambda proper name)]
  exact bound

/-- If the tree is a lambda, its parameter is bound under it to rows of the type that is known. -/
def Rows (model : Model) (row : Option QueryType) (around : List Expr) (e : Expr) : Prop :=
  ∀ stamp param body, e = .lambda stamp param body →
    ∃ binding, ofParameter model (e :: around) param = .ok binding ∧ binding.Admits row

/-- Next to nothing is known of the rows of a lambda that is no argument of a call. -/
theorem rows_loose {frame : Expr}
    (uncalled : ∀ stamp method args, frame ≠ .call stamp method args) :
    Rows model row (frame :: around) e := by
  rintro stamp param body rfl
  refine ⟨.unbound, ?_, .inl rfl⟩
  apply ofParameter_loose
  · exact beq_self_eq_true param
  · rintro stamp method args rest ⟨⟩
    exact uncalled stamp method args rfl

theorem rows_argument {stamp : Stamp} {method : Method} {source : Expr} {rest : List Expr}
    {owner : Binding} (member : e ∈ source :: rest)
    (bound : bind model around source = .ok owner) (admits : owner.elementOf.Admits row) :
    Rows model row (.call stamp method (source :: rest) :: around) e := by
  rintro _ param body rfl
  refine ⟨owner.elementOf, ?_, admits⟩
  apply ofParameter_row _ member bound
  exact beq_self_eq_true param

theorem Fits.lambda {stamp : Stamp} {param : String} {body : Expr}
    (fits : Fits model known around) (rows : Rows model row around (.lambda stamp param body)) :
    Fits model ((param, row) :: known) (.lambda stamp param body :: around) := by
  intro name
  by_cases same : param = name
  · subst same
    rw [List.lookup_cons_self]
    exact rows stamp param body rfl
  · have other : (name == param) = false := beq_eq_false_iff_ne.mpr (Ne.symm same)
    rw [List.lookup_cons, other, ofParameter_cons (by simpa [declares] using same)]
    exact fits name

/-- The node of a place is bound as it is typed. -/
def Agreed (model : Model) (place : List Expr) : Prop :=
  ∃ e around binding, place = e :: around ∧ Agrees model around e binding

/-- What a child is bound to, the node around it set aside. -/
theorem Agreed.bound {frame : Expr} (agreed : Agreed model (e :: frame :: around))
    (proper : frame.isLambda = false) :
    ∃ binding, bind model around e = .ok binding ∧ binding.Admits (some e.type) := by
  obtain ⟨_, _, binding, same, agrees⟩ := agreed
  cases same
  exact ⟨binding, (bind_cons proper).symm.trans agrees.bound, agrees.typed⟩

theorem agreed_of_children (own : ∃ binding, Agrees model around e binding)
    (below : ∀ child ∈ e.children, e.isSource = false → ∀ place,
      Enters (child :: e :: around) place → Agreed model place) (place : List Expr)
    (entered : Enters (e :: around) place) : Agreed model place := by
  cases entered with
  | here =>
    obtain ⟨binding, agrees⟩ := own
    exact ⟨e, around, binding, rfl, agrees⟩
  | inner proper member entered => exact below _ member proper place entered

theorem agreed_reference {stamp : Stamp} {qualifier : Option String} {name : String}
    {args : List Expr} {element : Element} (found : model.resolve? qualifier name = some element)
    (typed : stamp.type = element.logicalType) (place : List Expr)
    (entered : Enters (.source stamp qualifier name args :: around) place) :
    Agreed model place := by
  apply agreed_of_children _ _ place entered
  · exact ⟨_, .of (bind_source found) (.inr (congrArg some typed.symm))⟩
  · intro child _ never
    contradiction

/-- By induction on how the tree is built. What is known of parameters follows the lambdas around
the tree, and what is known of rows the call right around it. -/
theorem Assembled.agreed (assembled : Assembled model known row e) :
    ∀ around, Fits model known around → Rows model row around e →
      ∀ place, Enters (e :: around) place → Agreed model place := by
  induction assembled with
  | source name supply built =>
    intro around _ _
    obtain ⟨element, found, rfl⟩ := Model.sourceExpr_ok built
    exact agreed_reference found rfl
  | function qualifier name args supply built =>
    intro around _ _
    obtain ⟨element, found, rfl⟩ := Model.functionExpr_ok built
    exact agreed_reference found rfl
  | @property known row target e after name supply _ built ih =>
    intro around fits _
    obtain ⟨entity, type, named, declared, rfl⟩ := Model.propertyExpr_ok built
    have below := ih (.member ⟨supply.next, type⟩ target name :: around) (fits.cons rfl)
      (rows_loose (by rintro _ _ _ ⟨⟩))
    obtain ⟨owner, bound, admits⟩ := (below _ (.here _)).bound rfl
    rw [QueryType.eq_entity named] at admits
    apply agreed_of_children
    · exact ⟨_, .of (bind_member bound) (admits.propertyOf declared)⟩
    · intro child member _
      cases List.mem_singleton.mp member
      exact below
  | constant content supply =>
    intro around _ _
    apply agreed_of_children ⟨_, .of rfl (.inl rfl)⟩
    intro child never
    contradiction
  | parameter name type supply listed =>
    intro around fits _
    obtain ⟨binding, bound, admits⟩ := fits name
    apply agreed_of_children
    · exact ⟨binding, .of bound (admits.narrow listed)⟩
    · intro child never
      contradiction
  | @call known row source rest method supply _ _ ih others =>
    intro around fits _
    -- A lambda as the first argument ranges over itself, which is not bound.
    have alone : Rows model none
        (((Fresh.call method (source :: rest)).run supply).1 :: around) source := by
      rintro stamp param body rfl
      exact rows_argument List.mem_cons_self rfl (.inl rfl) stamp param body rfl
    have first := ih _ (fits.cons rfl) alone
    obtain ⟨owner, bound, admits⟩ := (first _ (.here _)).bound rfl
    apply agreed_of_children ⟨_, .of rfl (.inl rfl)⟩
    intro child member _
    rcases List.mem_cons.mp member with rfl | listed
    · exact first
    · exact others child listed _ (fits.cons rfl) (rows_argument member bound admits.elementOf)
  | lambda param supply _ ih =>
    intro around fits rows
    apply agreed_of_children ⟨_, .of rfl (.inl rfl)⟩
    intro child member _
    cases List.mem_singleton.mp member
    exact ih _ (fits.lambda rows) (rows_loose (by rintro _ _ _ ⟨⟩))
  | binary op supply _ _ first second =>
    intro around fits _
    apply agreed_of_children ⟨_, .of rfl (.inl rfl)⟩
    intro child member _
    rcases List.mem_pair.mp member with rfl | rfl
    · exact first _ (fits.cons rfl) (rows_loose (by rintro _ _ _ ⟨⟩))
    · exact second _ (fits.cons rfl) (rows_loose (by rintro _ _ _ ⟨⟩))
  | not supply _ ih =>
    intro around fits _
    apply agreed_of_children ⟨_, .of rfl (.inl rfl)⟩
    intro child member _
    cases List.mem_singleton.mp member
    exact ih _ (fits.cons rfl) (rows_loose (by rintro _ _ _ ⟨⟩))

end Expr

namespace Rewriting

open Evaluation

/-- In a tree that is built with the operations of a model every node that a walk enters is bound to
nothing or to data of its static type, to a data reference exactly where it is one, and a parameter
to a row of the innermost lambda over it. Every hook that looks on is shown nodes with these
bindings, and the evaluator takes for a parameter the row of the same lambda. -/
theorem bindings_agree {model : Model} {query : Expr}
    (assembled : Expr.Assembled model [] none query) {registry : Registry}
    (onlooking : registry.Onlooking) (request : RequestContext) (maxDepth : Nat)
    (ambient : Ambient) :
    let walked := run registry query { model, request, maxDepth } ambient
    (∀ e around, Enters [query] (e :: around) → ∃ binding, Binding.Agrees model around e binding) ∧
      (∀ entry ∈ walked.2.context.journal, ∃ e around, Enters [query] (e :: around) ∧
        entry.frame.node = some e ∧ Binding.Agrees model around e entry.frame.binding) ∧
      (walked.1.isOk = true → ∀ e around, Enters [query] (e :: around) →
        ∀ point, ∀ name ∈ registry.onlookers point, ∃ entry ∈ walked.2.context.journal,
          entry.point = point ∧ entry.hook = name ∧ entry.frame.node = some e ∧
            Binding.bind model around e = .ok entry.frame.binding) ∧
      ∀ store, (∀ tree, (evaluate store tree).toOption = valueAt store tree []) ∧
        ∀ stamp name inner (lambda : Enclosure) outer,
          (∀ enclosure ∈ inner, Binding.declares name enclosure.node = false) →
          Binding.declares name lambda.node = true →
          valueAt store (.parameter stamp name) (inner ++ lambda :: outer) = lambda.row := by
  intro walked
  have fits : Expr.Fits model [] [] := fun name => ⟨.unbound, rfl, .inl rfl⟩
  have rows : Expr.Rows model none [] query := by
    rintro stamp param body rfl
    refine ⟨.unbound, ?_, .inl rfl⟩
    apply Binding.ofParameter_loose
    · exact beq_self_eq_true param
    · intro stamp method args rest
      exact (List.cons_ne_nil _ _).symm
  have agreed (e : Expr) (around : List Expr) (entered : Enters [query] (e :: around)) :
      ∃ binding, Binding.Agrees model around e binding := by
    obtain ⟨_, _, binding, same, agrees⟩ := assembled.agreed [] fits rows _ entered
    cases same
    exact ⟨binding, agrees⟩
  obtain ⟨faithful, covers⟩ := journal_of_run onlooking model query request maxDepth ambient
  refine ⟨agreed, ?_, ?_, ?_⟩
  · intro entry member
    obtain ⟨place, entered, -, e, around, rfl, node, bound⟩ := faithful entry member
    obtain ⟨binding, agrees⟩ := agreed e around entered
    cases agrees.bound.symm.trans bound
    exact ⟨e, around, entered, node, agrees⟩
  · intro succeeds e around entered point name listed
    obtain ⟨entry, member, at', hook, -, _, _, same, node, bound⟩ :=
      covers succeeds point name (e :: around) ⟨entered, listed⟩
    cases same
    exact ⟨entry, member, at', hook, node, bound⟩
  · intro store
    constructor
    · intro tree
      have applied : Applied [] := fun _ never => (List.not_mem_nil never).elim
      exact (valueAt_eq store tree [] applied).symm
    · intro stamp name inner lambda outer undeclared declared
      exact valueAt_parameter undeclared declared

/-- Customers with an order of some number, where both lambdas are over parameters of one name: the
inner one is bound to an order of the customer. -/
theorem shadowed_orders :
    let model : Model := {
      space := "shop"
      entityTypes := [
        ("Customer",
          { name := "Customer", fields := [("orders", { type := .collection "Order" })] }),
        ("Order", { name := "Order", fields := [("id", { type := .int })] })]
      elements := [("Customers", .collection "Customers" "Customer")] }
    let store : Store := { collections := [("Customers", [])] }
    let watch : TreeHook := ⟨"watch", fun _ => do Act.note "seen"; return none⟩
    let registry : Registry := { normalizers := [watch], sourcer := some store.sourcer }
    let customers : Expr := .source ⟨0, .queryable (.entity "Customer")⟩ none "Customers" []
    let orders : Expr := .member ⟨2, .sequence (.entity "Order")⟩
      (.parameter ⟨1, .entity "Customer"⟩ "c") "orders"
    let order : Expr := .parameter ⟨3, .entity "Order"⟩ "c"
    let wanted : Expr := .lambda ⟨7, .bool⟩ "c"
      (.binary ⟨6, .bool⟩ .eq (.member ⟨4, .int⟩ order "id") (.value ⟨5, .int⟩ (.ofUInt64 1)))
    let chosen : Expr := .lambda ⟨10, .bool⟩ "c" (.call ⟨9, .bool⟩ .any
      [.call ⟨8, .sequence (.entity "Order")⟩ .filter [orders, wanted]])
    let query : Expr := .call ⟨11, .queryable (.entity "Customer")⟩ .filter [customers, chosen]
    ∃ walked, run registry query { model, request := {}, maxDepth := 16 } { supply := ⟨12⟩ } =
        walked ∧ walked.1.isOk = true ∧ walked.2.context.journal.length = 13 ∧
      ∀ entry ∈ walked.2.context.journal, ∃ e around, Enters [query] (e :: around) ∧
        entry.frame.node = some e ∧ Binding.Agrees model around e entry.frame.binding := by
  intro model store watch registry customers orders order wanted chosen query
  have onlooking : registry.Onlooking := by
    refine ⟨?_, fun _ never => (List.not_mem_nil never).elim,
      fun _ never => (List.not_mem_nil never).elim⟩
    rw [List.forall_mem_singleton]
    intro context ambient offered after answered
    cases answered
    rfl
  have assembled : Expr.Assembled model [] none query := by
    let outer : Expr.KnownParameters := [("c", some (.entity "Customer"))]
    let inner : Expr.KnownParameters := ("c", some (.entity "Order")) :: outer
    have inside : Expr.Assembled model inner none order := by
      apply Expr.Assembled.parameter "c" (.entity "Order") ⟨3⟩
      rintro listed ⟨⟩
      rfl
    have outside : Expr.Assembled model outer none (.parameter ⟨1, .entity "Customer"⟩ "c") := by
      apply Expr.Assembled.parameter "c" (.entity "Customer") ⟨1⟩
      rintro listed ⟨⟩
      rfl
    have number : Expr.Assembled model inner none (.member ⟨4, .int⟩ order "id") :=
      .property "id" ⟨4⟩ inside rfl
    have ordered : Expr.Assembled model outer none orders := .property "orders" ⟨2⟩ outside rfl
    have wants : Expr.Assembled model outer (some (.entity "Order")) wanted :=
      .lambda "c" ⟨7⟩ (.binary .eq ⟨6⟩ number (.constant (.ofUInt64 1) ⟨5⟩))
    have picks : Expr.Assembled model [] (some (.entity "Customer")) chosen :=
      .lambda "c" ⟨10⟩ (.call .any ⟨9⟩
        (.call .filter ⟨8⟩ ordered (List.forall_mem_singleton.mpr wants)) (List.forall_mem_nil _))
    have all : Expr.Assembled model [] none customers := .source "Customers" ⟨0⟩ rfl
    exact .call .filter ⟨11⟩ all (List.forall_mem_singleton.mpr picks)
  obtain ⟨-, seen, -⟩ := bindings_agree assembled onlooking {} 16 { supply := ⟨12⟩ }
  generalize ran : run _ _ _ _ = walked at seen
  refine ⟨walked, rfl, ?_, ?_, seen⟩
  · rw [← ran]
    decide +kernel
  · rw [← ran]
    decide +kernel

end Rewriting

end QueryRewriting
