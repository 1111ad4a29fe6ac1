import QueryRewriting.Evaluation.Eval
import QueryRewriting.Proofs.Expr.Renaming

/-! Queries over rows that differ in identities, in the arguments of references, and in how the
source of their rows is addressed: directly, or as a member of a root parameter. The trees are of
the shapes that descriptions and row filters build. Such trees stay alike when they are put together
again, their nodes can be bound alike, and without a member of the root they have the same value. -/
namespace QueryRewriting

open Schema Evaluation

namespace Expr

/-- Two trees are alike. The rows of the first one may come from a member of the root parameter, if
this is allowed, where those of the second one come from the source that is meant. -/
inductive Twin (root : String) (model : Model) : Bool → Expr → Expr → Prop
  | value {allowed stamp stamp'} (typed : stamp.type = stamp'.type) (content : Json.Value) :
      Twin root model allowed (.value stamp content) (.value stamp' content)
  | parameter {allowed stamp stamp'} (typed : stamp.type = stamp'.type) (name : String) :
      Twin root model allowed (.parameter stamp name) (.parameter stamp' name)
  | native {allowed stamp stamp'} (typed : stamp.type = stamp'.type) (proxy : ProxyId)
      (name : String) :
      Twin root model allowed (.native stamp proxy name) (.native stamp' proxy name)
  | source {allowed stamp stamp'} (typed : stamp.type = stamp'.type) (qualifier : Option String)
      (name : String) (args args' : List Expr) :
      Twin root model allowed (.source stamp qualifier name args)
        (.source stamp' qualifier name args')
  | rooted {stamp stamp' below : Stamp} {name : String} {element : Element} {args : List Expr}
      (found : model.resolve? none name = some element) (proper : element.isFunction = false)
      (typed : stamp.type = element.logicalType) (typed' : stamp'.type = element.logicalType) :
      Twin root model true (.member stamp (.parameter below root) name)
        (.source stamp' none name args)
  | member {allowed stamp stamp' target target'} (typed : stamp.type = stamp'.type)
      (below : Twin root model false target target') (name : String) :
      Twin root model allowed (.member stamp target name) (.member stamp' target' name)
  | call {allowed stamp stamp' rows rows'} (typed : stamp.type = stamp'.type) (method : Method)
      (first : Twin root model allowed rows rows') :
      Twin root model allowed (.call stamp method [rows]) (.call stamp' method [rows'])
  | pair {allowed stamp stamp' rows rows' argument argument'} (typed : stamp.type = stamp'.type)
      (method : Method) (first : Twin root model allowed rows rows')
      (second : Twin root model false argument argument')
      (either : method.isPaging = true ∨ argument.isLambda = true) :
      Twin root model allowed (.call stamp method [rows, argument])
        (.call stamp' method [rows', argument'])
  | lambda {allowed stamp stamp' body body'} (typed : stamp.type = stamp'.type) (param : String)
      (below : Twin root model false body body') :
      Twin root model allowed (.lambda stamp param body) (.lambda stamp' param body')
  | binary {allowed stamp stamp' left left' right right'} (typed : stamp.type = stamp'.type)
      (op : BinaryOp) (first : Twin root model false left left')
      (second : Twin root model false right right') :
      Twin root model allowed (.binary stamp op left right) (.binary stamp' op left' right')

variable {root : String} {model : Model} {allowed : Bool} {e e' : Expr}

namespace Twin

theorem type_eq (twin : Twin root model allowed e e') : e.type = e'.type := by
  cases twin with
  | rooted _ _ typed typed' => exact typed.trans typed'.symm
  | _ => assumption

theorem isLambda_eq (twin : Twin root model allowed e e') : e.isLambda = e'.isLambda := by
  cases twin <;> rfl

theorem isSource_eq (twin : Twin root model false e e') : e.isSource = e'.isSource := by
  cases twin <;> rfl

theorem declares_eq (twin : Twin root model allowed e e') (name : String) :
    Binding.declares name e' = Binding.declares name e := by
  cases twin <;> rfl

/-- What needs no member of the root may do with one. -/
theorem mono (twin : Twin root model allowed e e') {more : Bool}
    (further : allowed = true → more = true) : Twin root model more e e' := by
  induction twin with
  | value typed content => exact .value typed content
  | parameter typed name => exact .parameter typed name
  | native typed proxy name => exact .native typed proxy name
  | source typed qualifier name args args' => exact .source typed qualifier name args args'
  | rooted found proper typed typed' =>
    rw [further rfl]
    exact .rooted found proper typed typed'
  | member typed below name => exact .member typed below name
  | call typed method _ ih => exact .call typed method (ih further)
  | pair typed method _ second either ih _ => exact .pair typed method (ih further) second either
  | lambda typed param below => exact .lambda typed param below
  | binary typed op first second => exact .binary typed op first second

theorem of_false (twin : Twin root model false e e') (more : Bool) : Twin root model more e e' :=
  twin.mono fun absurd => by contradiction

/-- Under a lambda no member of the root stands for rows. -/
theorem children (twin : Twin root model allowed e e') (plain : e'.isSource = false) :
    List.Forall₂ (Twin root model (allowed && !e.isLambda)) e.children e'.children := by
  cases twin with
  | value | parameter | native => exact .nil
  | source | rooted => contradiction
  | member _ below => exact .cons (below.of_false _) .nil
  | call _ _ first => exact .cons (first.mono fun same => by rw [same]; rfl) .nil
  | pair _ _ first second =>
    exact .cons (first.mono fun same => by rw [same]; rfl) (.cons (second.of_false _) .nil)
  | lambda _ _ below => exact .cons (below.of_false _) .nil
  | binary _ _ first second => exact .cons (first.of_false _) (.cons (second.of_false _) .nil)

/-- Nodes that are put together again over trees that are alike, lambdas over lambdas. -/
theorem replaceChildren (twin : Twin root model allowed e e') (plain : e'.isSource = false)
    {given given' : List Expr} (each : List.Forall₂ (Twin root model false) given given')
    (shapes : List.Forall₂ (fun child tree => child.isLambda = true → tree.isLambda = true)
      e.children given) {stamp stamp' : Stamp} (typed : stamp.type = stamp'.type) :
    Twin root model false (e.replaceChildren stamp given) (e'.replaceChildren stamp' given') := by
  cases twin with
  | value kept content => exact .value kept content
  | parameter kept name => exact .parameter kept name
  | native kept proxy name => exact .native kept proxy name
  | source | rooted => contradiction
  | member _ _ name =>
    cases shapes with
    | cons _ _ => cases each with
      | cons first _ => exact .member typed first name
  | call _ method =>
    cases shapes with
    | cons _ rest => cases rest; cases each with
      | cons first rest => cases rest; exact .call typed method first
  | pair _ method _ _ either =>
    cases shapes with
    | cons _ rest => cases rest with
      | cons shape rest => cases rest; cases each with
        | cons first rest => cases rest with
          | cons second rest =>
            cases rest
            exact .pair typed method first second (either.imp_right shape)
  | lambda _ param =>
    cases shapes with
    | cons _ _ => cases each with
      | cons first _ => exact .lambda typed param first
  | binary _ op =>
    cases shapes with
    | cons _ rest => cases rest with
      | cons _ rest => cases rest; cases each with
        | cons first rest => cases rest with
          | cons second _ => exact .binary typed op first second

theorem withChildren (twin : Twin root model allowed e e') (plain : e'.isSource = false)
    {given given' : List Expr} (each : List.Forall₂ (Twin root model false) given given')
    (shapes : List.Forall₂ (fun child tree => child.isLambda = true → tree.isLambda = true)
      e.children given) (supply supply' : NodeSupply) :
    Twin root model false ((e.withChildren given).run supply).1
      ((e'.withChildren given').run supply').1 := by
  obtain ⟨stamp, typed, same⟩ := exists_replaceChildren e given supply
  obtain ⟨stamp', typed', same'⟩ := exists_replaceChildren e' given' supply'
  rw [same, same']
  apply twin.replaceChildren plain each shapes
  rw [typed, typed', twin.type_eq]

theorem stripPaging (twin : Twin root model false e e') :
    Twin root model false e.stripPaging e'.stripPaging := by
  generalize refused : false = allowed at twin
  induction twin with
  | call typed method first ih =>
    unfold Expr.stripPaging
    split
    · exact ih refused
    · exact .call typed method first
  | pair typed method first second either ih =>
    unfold Expr.stripPaging
    split
    · exact ih refused
    · exact .pair typed method first second either
  | value typed content => exact .value typed content
  | parameter typed name => exact .parameter typed name
  | native typed proxy name => exact .native typed proxy name
  | source typed qualifier name args args' => exact .source typed qualifier name args args'
  | rooted found proper typed typed' => exact .rooted found proper typed typed'
  | member typed below name => exact .member typed below name
  | lambda typed param below => exact .lambda typed param below
  | binary typed op first second => exact .binary typed op first second

/-- Without a member of the root the trees have the same value, and so do lambdas for an item. -/
theorem eval_eq (store : Store) (twin : Twin root model false e e') (scope : Scope) :
    eval store e scope = eval store e' scope ∧ (e.isLambda = true → ∀ item,
      Evaluation.apply store e item scope = Evaluation.apply store e' item scope) := by
  generalize refused : false = allowed at twin
  induction twin generalizing scope with
  | value | parameter | source => exact ⟨rfl, fun none => absurd none Bool.false_ne_true⟩
  | rooted => contradiction
  | native typed =>
    refine ⟨?_, fun none => absurd none Bool.false_ne_true⟩
    rw [eval, eval, typed]
  | member _ _ name ih =>
    refine ⟨?_, fun none => absurd none Bool.false_ne_true⟩
    rw [eval, eval, (ih scope rfl).1]
  | call typed method first ih =>
    refine ⟨?_, fun none => absurd none Bool.false_ne_true⟩
    rw [eval, eval, (ih scope refused).1]
  | @pair _ _ _ _ _ argument argument' _ method _ _ either ih ih' =>
    refine ⟨?_, fun none => absurd none Bool.false_ne_true⟩
    obtain ⟨argued, applies⟩ := ih' scope rfl
    have argued : Evaluation.argument store method [argument] scope =
        Evaluation.argument store method [argument'] scope := argued
    rw [eval, eval, (ih scope refused).1]
    rcases either with paging | lambda
    · cases method with
      | skip | take => simp only [argued]
      | _ => contradiction
    · have applied (items : List Json.Value) :
          Evaluation.applied store method [argument] items scope =
            Evaluation.applied store method [argument'] items scope := by
        unfold Evaluation.applied
        simp only [applies lambda]
      simp only [argued, applied]
  | lambda _ param _ ih => exact ⟨rfl, fun _ item => (ih ((param, item) :: scope) rfl).1⟩
  | binary _ op _ _ ih ih' =>
    refine ⟨?_, fun none => absurd none Bool.false_ne_true⟩
    rw [eval, eval, (ih scope rfl).1, (ih' scope rfl).1]

end Twin

end Expr

/-- The nodes around two nodes, the innermost first, are alike pair by pair. What comes from a
member of the root is under no lambda. -/
inductive Flanked (root : String) (model : Model) : List Expr → List Expr → Prop
  | nil : Flanked root model [] []
  | cons {allowed e e' around around'} (outside : Flanked root model around around')
      (twin : e.Twin root model allowed e')
      (bare : allowed = true → ∀ node ∈ around, node.isLambda = false)
      (placed : e.isLambda = true → Placed e around ∧ Placed e' around') :
      Flanked root model (e :: around) (e' :: around')

variable {root : String} {model : Model} {allowed : Bool} {e e' : Expr}
  {around around' : List Expr}

theorem Flanked.uncons (flanked : Flanked root model (e :: around) around') :
    ∃ allowed e' rest, around' = e' :: rest ∧ Flanked root model around rest ∧
      e.Twin root model allowed e' ∧ (allowed = true → ∀ node ∈ around, node.isLambda = false) ∧
      (e.isLambda = true → Placed e around ∧ Placed e' rest) := by
  cases flanked with
  | cons outside twin bare placed => exact ⟨_, _, _, rfl, outside, twin, bare, placed⟩

theorem Flanked.any_isLambda (flanked : Flanked root model around around') :
    around'.any Expr.isLambda = around.any Expr.isLambda := by
  induction flanked with
  | nil => rfl
  | cons _ twin _ _ ih => rw [List.any_cons, List.any_cons, ih, twin.isLambda_eq]

namespace Binding

theorem ofNode_twin {parameter parameter' : String → Except UnknownSource Binding}
    (twin : e.Twin root model allowed e')
    (alike : ∀ name, BoundAlike (parameter name) (parameter' name))
    (free : allowed = true → parameter root = .ok .unbound) :
    BoundAlike (ofNode model parameter e) (ofNode model parameter' e') := by
  induction twin with
  | parameter _ name => exact alike name
  | source _ qualifier name =>
    simp only [ofNode]
    cases model.resolve? qualifier name with
    | none => rfl
    | some element => trivial
  | rooted found =>
    simp only [ofNode, free rfl, found]
    trivial
  | member _ _ name ih => exact (ih fun none => absurd none Bool.false_ne_true).map _ _
  | _ => trivial

/-- Parameters are bound alike under nodes that are alike. -/
theorem ofParameter_twin (flanked : Flanked root model around around') (name : String) :
    BoundAlike (ofParameter model around name) (ofParameter model around' name) := by
  fun_induction ofParameter model around name generalizing around' with
  | case1 =>
    cases flanked
    trivial
  | case2 frame name declared stamp method source more around found ih =>
    obtain ⟨_, frame', rest, rfl, outside, twin, -, placed⟩ := flanked.uncons
    have placed := (placed (isLambda_of_declares declared)).2
    have declared' : declares name frame' = true := by rw [twin.declares_eq, declared]
    obtain ⟨allowed, call, around', rfl, beyond, twin, bare, -⟩ := outside.uncons
    have free (same : allowed = true) : ofParameter model around root = .ok .unbound :=
      ofParameter_of_lambdaFree root (bare same)
    have first : ∃ stamp' source' more', call = .call stamp' method (source' :: more') ∧
        source.Twin root model allowed source' := by
      cases twin with
      | call _ _ first => exact ⟨_, _, _, rfl, first⟩
      | pair _ _ first => exact ⟨_, _, _, rfl, first⟩
    obtain ⟨stamp', source', more', rfl, first⟩ := first
    have found' : frame' ∈ source' :: more' := placed _ rfl
    simp only [ofParameter, declared', if_true, found']
    apply BoundAlike.map
    exact ofNode_twin first (fun inner => ih inner beyond) free
  | case3 frame name declared stamp method source more around missing =>
    obtain ⟨_, _, _, -, -, -, -, placed⟩ := flanked.uncons
    exact (missing ((placed (isLambda_of_declares declared)).1 _ rfl)).elim
  | case4 frame outer name declared uncalled =>
    obtain ⟨_, frame', rest, rfl, outside, twin, -, -⟩ := flanked.uncons
    have declared' : declares name frame' = true := by rw [twin.declares_eq, declared]
    rw [ofParameter, declared', if_pos rfl]
    · trivial
    · rintro stamp method source' more' around' rfl
      cases outside with
      | cons _ twin =>
        cases twin with
        | call => exact uncalled _ _ _ _ _ rfl
        | pair => exact uncalled _ _ _ _ _ rfl
  | case5 frame outer name undeclared ih =>
    obtain ⟨_, frame', rest, rfl, outside, twin, -, -⟩ := flanked.uncons
    have undeclared : declares name frame' = false := by
      rw [twin.declares_eq]
      simpa using undeclared
    have step : ofParameter model (frame' :: rest) name = ofParameter model rest name := by
      rw [ofParameter.eq_def]
      simp only [undeclared, Bool.false_eq_true, if_false]
    rw [step]
    exact ih outside

end Binding

end QueryRewriting
