import QueryRewriting.Access.Template
import QueryRewriting.Proofs.Expr.Erasure
import QueryRewriting.Proofs.Rewriting.Lockstep

/-! What templates build. The identities that nodes happen to have make no difference: where the
placeholders of a template stand for trees that are built alike, so is what it builds. -/
namespace QueryRewriting

open Schema

theorem Expr.erased_restamp (e : Expr) (stamp : Stamp) :
    (e.restamp stamp).erased = e.erased.restamp (.anonymous stamp.type) := by
  cases e <;> rfl

theorem Expr.map_type_of_erased {es es' : List Expr}
    (same : es.map erased = es'.map erased) : es.map type = es'.map type := by
  have types (es : List Expr) : es.map type = (es.map erased).map type := by
    simp [Function.comp_def]
  rw [types es, types es', same]

namespace Template

/-- The placeholders of a template stand for the same trees, identities aside. -/
structure Site.Alike (site site' : Site) : Prop where
  model_eq : site.model = site'.model
  shared_eq : site.shared = site'.shared
  row : site.row.map Expr.erased = site'.row.map Expr.erased
  node : site.node.map Expr.erased = site'.node.map Expr.erased
  args : site.args.map Expr.erased = site'.args.map Expr.erased

/-- Two computations build alike: the same trees, identities aside, or the same error. -/
def BuildAlike (step step' : Building Expr) : Prop :=
  ∀ supply supply', Lockstep step step' (fun e e' _ _ => e.erased = e'.erased) supply supply'

/-- Two computations build several trees alike. -/
def BuildAllAlike (step step' : Building (List Expr)) : Prop :=
  ∀ supply supply', Lockstep step step'
    (fun es es' _ _ => es.map Expr.erased = es'.map Expr.erased) supply supply'

variable {step step' : Building Expr} {site site' : Site}

theorem BuildAlike.of_fresh {fresh fresh' : Fresh Expr}
    (same : ∀ supply supply', (fresh.run supply).1.erased = (fresh'.run supply').1.erased) :
    BuildAlike (liftM fresh) (liftM fresh') := same

theorem BuildAlike.bind {next next' : Expr → Building Expr} (first : BuildAlike step step')
    (rest : ∀ e e', e.erased = e'.erased → BuildAlike (next e) (next' e')) :
    BuildAlike (step >>= next) (step' >>= next') :=
  fun supply supply' => (first supply supply').bind fun e e' after after' same =>
    rest e e' same after after'

theorem BuildAllAlike.bind {steps steps' : Building (List Expr)}
    {next next' : List Expr → Building Expr} (first : BuildAllAlike steps steps')
    (rest : ∀ es es', es.map Expr.erased = es'.map Expr.erased →
      BuildAlike (next es) (next' es')) :
    BuildAlike (steps >>= next) (steps' >>= next') :=
  fun supply supply' => (first supply supply').bind fun es es' after after' same =>
    rest es es' same after after'

theorem given_alike {e? e'? : Option Expr} (same : e?.map Expr.erased = e'?.map Expr.erased) :
    BuildAlike (given e?) (given e'?) := by
  cases e? <;> cases e'?
  · exact .of_fresh fun _ _ => rfl
  · contradiction
  · contradiction
  · exact fun _ _ => Option.some.inj same

theorem repeatedly_alike {next next' : Expr → Building Expr}
    (each : ∀ e e', e.erased = e'.erased → BuildAlike (next e) (next' e')) (times : Nat)
    {e e' : Expr} (same : e.erased = e'.erased) :
    BuildAlike (repeatedly next times e) (repeatedly next' times e') := by
  induction times generalizing e e' with
  | zero => exact fun _ _ => same
  | succ times ih => exact (each e e' same).bind fun _ _ => ih

theorem call_alike (method : Method) {args args' : List Expr}
    (same : args.map Expr.erased = args'.map Expr.erased) :
    BuildAlike (liftM (Fresh.call method args)) (liftM (Fresh.call method args')) := by
  refine .of_fresh fun supply supply' => ?_
  change Expr.erased (.call _ _ _) = Expr.erased (.call _ _ _)
  simp only [Expr.erased, Stamp.anonymous, Expr.erasedAll_eq_map, same,
    Expr.map_type_of_erased same]

theorem source_alike (qualifier : Option String) (name : String) (type : QueryType)
    {args args' : List Expr} (same : args.map Expr.erased = args'.map Expr.erased) :
    BuildAlike (liftM (Fresh.source qualifier name args type))
      (liftM (Fresh.source qualifier name args' type)) := by
  refine .of_fresh fun supply supply' => ?_
  change Expr.erased (.source _ _ _ _) = Expr.erased (.source _ _ _ _)
  simp only [Expr.erased, Stamp.anonymous, Expr.erasedAll_eq_map, same]

theorem member_alike (name : String) (type : QueryType) {e e' : Expr}
    (same : e.erased = e'.erased) :
    BuildAlike (liftM (Fresh.member e name type)) (liftM (Fresh.member e' name type)) :=
  .of_fresh fun _ _ => congrArg (Expr.member (.anonymous type) · name) same

theorem property_alike (model : Model) (name : String) {e e' : Expr}
    (same : e.erased = e'.erased) :
    BuildAlike (model.propertyExpr e name) (model.propertyExpr e' name) := by
  have typed : e.type = e'.type := by rw [← e.type_erased, same, e'.type_erased]
  unfold Model.propertyExpr
  rw [typed]
  split
  · exact fun _ _ => lockstep_throw _
  · split
    · exact member_alike name _ same
    · exact fun _ _ => lockstep_throw _

mutual

/-- By induction on the template. -/
theorem build_alike (alike : site.Alike site') :
    (template : Template) → BuildAlike (build site template) (build site' template)
  | .constant value => by
    unfold build
    exact .of_fresh fun _ _ => rfl
  | .parameter name type => by
    unfold build
    exact .of_fresh fun _ _ => rfl
  | .member target name type => by
    unfold build
    exact (build_alike alike target).bind fun e e' same => member_alike name type same
  | .source qualifier name args type => by
    unfold build
    exact (buildAll_alike alike args).bind fun es es' same => source_alike qualifier name type same
  | .native proxy name type => by
    unfold build
    exact .of_fresh fun _ _ => rfl
  | .queryable proxy element expression => by
    unfold build
    refine (build_alike alike expression).bind fun e e' same => .of_fresh fun _ _ => ?_
    exact congrArg (Expr.queryable (.anonymous (.queryable element)) proxy element) same
  | .call method args => by
    unfold build
    exact (buildAll_alike alike args).bind fun es es' same => call_alike method same
  | .step start method more times => by
    unfold build
    refine (build_alike alike start).bind fun e e' same => repeatedly_alike ?_ times same
    intro query query' same
    refine (buildAll_alike alike more).bind fun es es' others => call_alike method ?_
    rw [List.map_cons, List.map_cons, same, others]
  | .lambda param body => by
    unfold build
    refine (build_alike alike body).bind fun e e' same => .of_fresh fun _ _ => ?_
    change Expr.lambda (.anonymous e.type) param e.erased =
      .lambda (.anonymous e'.type) param e'.erased
    rw [← e.type_erased, ← e'.type_erased, same]
  | .binary op left right => by
    unfold build
    refine (build_alike alike left).bind fun e e' first => ?_
    refine (build_alike alike right).bind fun f f' second => .of_fresh fun _ _ => ?_
    exact congrArg₂ (Expr.binary (.anonymous .bool) op) first second
  | .not operand times => by
    unfold build
    refine (build_alike alike operand).bind fun e e' same => repeatedly_alike ?_ times same
    exact fun f f' same => .of_fresh fun _ _ => congrArg (Expr.not (.anonymous .bool)) same
  | .retyped template type => by
    unfold build
    refine (build_alike alike template).bind fun e e' same => .of_fresh fun _ _ => ?_
    change (e.restamp _).erased = (e'.restamp _).erased
    rw [Expr.erased_restamp, Expr.erased_restamp, same]
  | .shared name => by
    unfold build
    rw [alike.shared_eq]
    exact given_alike rfl
  | .named name => by
    unfold build Model.sourceExpr
    rw [alike.model_eq]
    split
    · exact source_alike none name _ rfl
    · exact fun _ _ => lockstep_throw _
  | .function qualifier name args => by
    unfold build Model.functionExpr
    rw [alike.model_eq]
    refine (buildAll_alike alike args).bind fun es es' same => ?_
    split
    · exact source_alike qualifier name _ same
    · exact fun _ _ => lockstep_throw _
  | .property target name => by
    unfold build
    rw [alike.model_eq]
    exact (build_alike alike target).bind fun e e' same => property_alike site'.model name same
  | .row => by
    unfold build
    exact given_alike alike.row
  | .node => by
    unfold build
    exact given_alike alike.node
  | .argument place => by
    unfold build
    refine given_alike ?_
    rw [← List.getElem?_map, ← List.getElem?_map, alike.args]

theorem buildAll_alike (alike : site.Alike site') :
    (templates : List Template) →
      BuildAllAlike (buildAll site templates) (buildAll site' templates)
  | [] => fun _ _ => rfl
  | template :: rest => by
    unfold buildAll
    intro supply supply'
    refine (build_alike alike template supply supply').bind fun e e' after after' first => ?_
    refine (buildAll_alike alike rest after after').bind fun es es' _ _ others => ?_
    exact congrArg₂ List.cons first others

end

/-- A predicate that is given as a template makes the same test of rows that are built alike. -/
theorem predicate_alike (template : Template) (site : Site) {row row' : Expr}
    (same : row.erased = row'.erased) (supply supply' : NodeSupply) :
    ((template.predicate site row).run supply).1.erased =
      ((template.predicate site row').run supply').1.erased := by
  have alike : Site.Alike { site with row := some row } { site with row := some row' } :=
    ⟨rfl, rfl, congrArg some same, rfl, rfl⟩
  have built := build_alike alike template supply supply'
  have ran (row : Expr) (supply : NodeSupply) :
      (template.predicate site row).run supply =
        match (template.build { site with row := some row }).run.run supply with
        | (.ok test, after) => (test, after)
        | (.error _, after) => (Fresh.constant .null).run after := by
    unfold predicate
    rw [StateT.run_bind]
    rcases (template.build { site with row := some row }).run.run supply with ⟨_ | _, after⟩ <;> rfl
  rw [ran, ran]
  unfold Lockstep at built
  generalize (template.build { site with row := some row }).run.run supply = result at *
  generalize (template.build { site with row := some row' }).run.run supply' = result' at *
  rcases result with ⟨_ | _, after⟩ <;> rcases result' with ⟨_ | _, after'⟩
  · rfl
  · exact built.elim
  · exact built.elim
  · exact built

end Template

end QueryRewriting
