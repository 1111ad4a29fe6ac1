import QueryRewriting.Proofs.Expr.Children
import QueryRewriting.Rewriting.Context

/-! Only data references are bound as references, and what they are bound to does not depend on the
frames around them. A binding is missing only where a reference names no source of the model, and
outside of lambdas parameters are unbound. -/
namespace QueryRewriting

open Schema

namespace Schema.Model

/-- A source that a qualified name stands for is also found without the qualifier. -/
theorem resolve?_unqualified {model : Model} {qualifier : Option String} {name : String}
    {element : Element} (found : model.resolve? qualifier name = some element) :
    model.resolve? none name = some element := by
  unfold Model.resolve? at found ⊢
  obtain ⟨listed, entry, found⟩ := Option.bind_eq_some_iff.mp found
  rw [entry]
  cases qualifier with
  | none => exact found
  | some space =>
    dsimp only at found
    split at found
    · exact found
    · contradiction

end Schema.Model

namespace Expr

theorem isSource_iff {e : Expr} :
    e.isSource = true ↔ ∃ stamp qualifier name args, e = .source stamp qualifier name args := by
  cases e <;> simp [isSource]

mutual

/-- Whether every reference of a tree outside the arguments of others names a source. -/
def binds (model : Model) : Expr → Bool
  | .source _ qualifier name _ => (model.resolve? qualifier name).isSome
  | .member _ target _ => binds model target
  | .call _ _ args => allBind model args
  | .lambda _ _ body => binds model body
  | .binary _ _ left right => binds model left && binds model right
  | .not _ operand => binds model operand
  | _ => true

/-- Whether that is so in several trees. -/
def allBind (model : Model) : List Expr → Bool
  | [] => true
  | e :: rest => binds model e && allBind model rest

end

theorem allBind_eq (model : Model) (es : List Expr) : allBind model es = es.all (binds model) := by
  induction es with
  | nil => rfl
  | cons e rest ih => rw [allBind, ih, List.all_cons]

theorem binds_eq {model : Model} {e : Expr} (proper : e.isSource = false) :
    e.binds model = e.children.all (binds model) := by
  cases e with
  | source => contradiction
  | _ => simp [binds, children, allBind_eq]

/-- Without references there is none that names no source. -/
theorem binds_of_free (model : Model) (e : Expr) :
    e.hasDataReference = false → e.binds model = true := by
  induction e using ofChildren with
  | step e ih =>
    intro free
    rw [binds_eq (isSource_of_hasDataReference free), List.all_eq_true]
    exact fun child below => ih child below (hasDataReference_child free below)

end Expr

namespace Binding

theorem exists_of_map {ε α β : Type} {f : α → β} {result : Except ε α} {value : β}
    (mapped : f <$> result = .ok value) : ∃ origin, result = .ok origin ∧ f origin = value := by
  cases result with
  | error error => contradiction
  | ok origin => exact ⟨origin, rfl, Except.ok.inj mapped⟩

variable {model : Model} {binding : Binding}

/-- A member is bound by what its target is bound to. -/
theorem ofNode_member {parameter : String → Except UnknownSource Binding} {stamp : Stamp}
    {target : Expr} {name : String}
    (bound : ofNode model parameter (.member stamp target name) = .ok binding) :
    ∃ owner, ofNode model parameter target = .ok owner ∧ propertyOf model owner name = binding := by
  rw [ofNode] at bound
  exact exists_of_map bound

theorem reference?_elementOf (source : Binding) : source.elementOf.reference? = none := by
  unfold elementOf
  split <;> rfl

theorem reference?_propertyOf (source : Binding) (name : String) :
    (propertyOf model source name).reference? = none := by
  unfold propertyOf
  split
  · split <;> rfl
  · rfl

theorem reference?_ofParameter {enclosing : List Expr} {name : String}
    (bound : ofParameter model enclosing name = .ok binding) : binding.reference? = none := by
  fun_induction ofParameter model enclosing name with
  | case1 =>
    cases bound
    rfl
  | case2 frame name declared stamp method source more around found =>
    obtain ⟨owner, -, rfl⟩ := exists_of_map bound
    exact reference?_elementOf owner
  | case3 =>
    cases bound
    rfl
  | case4 =>
    cases bound
    rfl
  | case5 frame outer name other ih => exact ih bound

/-- What is bound as a reference is a data reference of the model, and bound so everywhere. -/
theorem ofNode_reference {parameter : String → Except UnknownSource Binding} {node : Expr}
    {reference : DataReference}
    (derived : ∀ name binding, parameter name = .ok binding → binding.reference? = none)
    (bound : ofNode model parameter node = .ok binding)
    (refers : binding.reference? = some reference) :
    binding = .reference reference ∧ ∃ stamp,
      node = .source stamp reference.qualifier reference.name reference.args ∧
      model.resolve? reference.qualifier reference.name = some reference.element := by
  cases node with
  | source stamp qualifier name args =>
    simp only [ofNode] at bound
    split at bound
    · next found resolved =>
      cases bound
      cases refers
      exact ⟨rfl, stamp, rfl, resolved⟩
    · contradiction
  | member stamp target name =>
    obtain ⟨owner, -, rfl⟩ := ofNode_member bound
    simp [reference?_propertyOf] at refers
  | parameter stamp name =>
    simp [derived name binding bound] at refers
  | _ =>
    cases bound
    contradiction

theorem ofNode_source {parameter : String → Except UnknownSource Binding}
    {reference : DataReference} (stamp : Stamp)
    (resolved : model.resolve? reference.qualifier reference.name = some reference.element) :
    ofNode model parameter
      (.source stamp reference.qualifier reference.name reference.args) =
        .ok (.reference reference) := by
  simp only [ofNode, resolved]

/-- A node that is a data reference is bound as one, or not at all. -/
theorem ofNode_of_isSource {parameter : String → Except UnknownSource Binding} {node : Expr}
    (source : node.isSource = true) (bound : ofNode model parameter node = .ok binding) :
    ∃ reference, binding = .reference reference := by
  obtain ⟨stamp, qualifier, name, args, rfl⟩ := Expr.isSource_iff.mp source
  simp only [ofNode] at bound
  split at bound
  · exact ⟨_, (Except.ok.inj bound).symm⟩
  · contradiction

/-- The nodes that are bound as data references are the sources. -/
theorem isSource_of_bind {enclosing : List Expr} {node : Expr}
    (bound : bind model enclosing node = .ok binding) : node.isSource = binding.isReference := by
  cases refers : binding.reference? with
  | none =>
    have plain : binding.isReference = false := by simp [isReference, refers]
    rw [plain, ← Bool.not_eq_true]
    intro source
    obtain ⟨reference, rfl⟩ := ofNode_of_isSource source bound
    contradiction
  | some reference =>
    obtain ⟨rfl, stamp, rfl, -⟩ := ofNode_reference (fun _ _ => reference?_ofParameter) bound refers
    rfl

theorem ofNode_ok {parameter : String → Except UnknownSource Binding} {node : Expr}
    (binds : node.binds model = true)
    (parameters : ∀ name, ∃ binding, parameter name = .ok binding) :
    ∃ binding, ofNode model parameter node = .ok binding := by
  induction node using Expr.ofChildren with
  | step node ih =>
    cases node with
    | source stamp qualifier name args =>
      obtain ⟨element, found⟩ := Option.isSome_iff_exists.mp binds
      exact ⟨_, by simp only [ofNode, found]; rfl⟩
    | member stamp target name =>
      obtain ⟨owner, bound⟩ := ih target List.mem_cons_self binds
      exact ⟨propertyOf model owner name, by simp [ofNode, bound, Functor.map, Except.map]⟩
    | parameter stamp name => exact parameters name
    | _ => exact ⟨.unbound, rfl⟩

/-- Under nodes whose references all name sources every parameter is bound. -/
theorem ofParameter_ok {enclosing : List Expr} (name : String)
    (binding : ∀ frame ∈ enclosing, frame.binds model = true) :
    ∃ binding, ofParameter model enclosing name = .ok binding := by
  fun_induction ofParameter model enclosing name with
  | case1 => exact ⟨_, rfl⟩
  | case2 frame name declared stamp method source more around found ih =>
    have call := binding (.call stamp method (source :: more)) (by simp)
    have first : source.binds model = true := by
      rw [Expr.binds_eq rfl] at call
      simp only [Expr.children, List.all_cons, Bool.and_eq_true] at call
      exact call.1
    obtain ⟨owner, bound⟩ := ofNode_ok first fun inner =>
      ih inner fun frame member => binding frame (by simp [member])
    exact ⟨elementOf owner, by simp [bound, Functor.map, Except.map]⟩
  | case3 => exact ⟨_, rfl⟩
  | case4 => exact ⟨_, rfl⟩
  | case5 frame outer name other ih =>
    exact ih fun frame member => binding frame (List.mem_cons_of_mem _ member)

theorem isLambda_of_declares {name : String} {e : Expr} (declared : declares name e = true) :
    e.isLambda = true := by
  cases e with
  | lambda => rfl
  | _ => contradiction

theorem declares_of_not_lambda {e : Expr} (proper : e.isLambda = false) (name : String) :
    declares name e = false := by
  by_contra declared
  rw [isLambda_of_declares (by simpa using declared)] at proper
  contradiction

/-- A node that is no lambda over a parameter does not matter to it. -/
theorem ofParameter_cons {frame : Expr} {outer : List Expr} {name : String}
    (other : declares name frame = false) :
    ofParameter model (frame :: outer) name = ofParameter model outer name := by
  conv_lhs => unfold ofParameter
  rw [other]
  rfl

theorem ofParameter_of_lambdaFree {enclosing : List Expr} (name : String)
    (outside : ∀ frame ∈ enclosing, frame.isLambda = false) :
    ofParameter model enclosing name = .ok .unbound := by
  induction enclosing with
  | nil => rfl
  | cons frame outer ih =>
    obtain ⟨proper, outside⟩ := List.forall_mem_cons.mp outside
    rw [ofParameter_cons (declares_of_not_lambda proper name)]
    exact ih outside

end Binding

namespace Rewriting.Context

variable {context : Context} {frames : List Frame} {node : Expr} {binding : Binding}

theorem bindIn_ok (bound : context.bindIn frames node = .ok binding) :
    Binding.ofNode context.model (fun name => context.parameterIn frames name) node =
      .ok binding := by
  unfold bindIn at bound
  split at bound
  · next found => exact found.trans (congrArg _ (Except.ok.inj bound))
  · contradiction

theorem bindIn_reference {reference : DataReference}
    (bound : context.bindIn frames node = .ok binding)
    (refers : binding.reference? = some reference) :
    binding = .reference reference ∧ ∃ stamp,
      node = .source stamp reference.qualifier reference.name reference.args ∧
      context.model.resolve? reference.qualifier reference.name = some reference.element :=
  Binding.ofNode_reference (fun _ _ => Binding.reference?_ofParameter) (bindIn_ok bound) refers

theorem isSource_of_bindIn (bound : context.bindIn frames node = .ok binding) :
    node.isSource = binding.isReference :=
  Binding.isSource_of_bind (bindIn_ok bound)

theorem unbound_of_bindIn (bound : context.bindIn frames node = .ok binding)
    (plain : node.isSource = false) : binding.reference? = none := by
  have shape := isSource_of_bindIn bound
  rw [plain, Binding.isReference] at shape
  simpa using shape.symm

theorem bindIn_of_ofNode
    (bound : Binding.ofNode context.model (fun name => context.parameterIn frames name) node =
      .ok binding) : context.bindIn frames node = .ok binding := by
  unfold bindIn
  rw [bound]

theorem bindIn_of_binds (binds : node.binds context.model = true)
    (outer : ∀ frame ∈ frames, ∀ node, frame.node = some node → node.binds context.model = true) :
    ∃ binding, context.bindIn frames node = .ok binding := by
  have parameters (name : String) : ∃ binding, context.parameterIn frames name = .ok binding := by
    refine Binding.ofParameter_ok name fun node member => ?_
    obtain ⟨frame, listed, shape⟩ := List.mem_filterMap.mp member
    exact outer frame listed node shape
  obtain ⟨binding, bound⟩ := Binding.ofNode_ok binds parameters
  exact ⟨binding, bindIn_of_ofNode bound⟩

/-- Whether a frame is that of a lambda. -/
def inLambda (frames : List Frame) : Bool := frames.any fun frame => frame.node.any Expr.isLambda

/-- Outside of lambdas a node has the binding that it has by itself. -/
theorem ofNode_of_lambdaFree (outside : inLambda frames = false)
    (bound : context.bindIn frames node = .ok binding) :
    Binding.ofNode context.model (fun _ => .ok .unbound) node = .ok binding := by
  have unbound : (fun name => context.parameterIn frames name) = fun _ => .ok .unbound := by
    funext name
    refine Binding.ofParameter_of_lambdaFree name fun node member => ?_
    obtain ⟨frame, listed, shape⟩ := List.mem_filterMap.mp member
    simp only [inLambda, List.any_eq_false] at outside
    simpa [shape] using outside frame listed
  rw [← unbound]
  exact bindIn_ok bound

end Rewriting.Context

end QueryRewriting
