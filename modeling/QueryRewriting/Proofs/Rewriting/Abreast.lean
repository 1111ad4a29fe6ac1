import QueryRewriting.Proofs.Expr.Renaming
import QueryRewriting.Proofs.Rewriting.Lockstep

/-! The contexts of two walks side by side. Where the nodes of two frames match, the walks refer to
the same sources; where nodes are bound alike, the walks enter their frames alike. Over trees that
are the same but for the names of lambda parameters, frames that correspond stay so. -/
namespace QueryRewriting

open Schema

theorem Scopes.inside_of_plain {scopes : Scopes} {e other : Expr} (plain : e.isLambda = false) :
    scopes.inside e other = scopes := by
  cases e with
  | lambda => contradiction
  | _ => rfl

namespace Rewriting

/-- The nodes of all frames, the innermost first. -/
def Context.around (context : Context) : List Expr := context.frames.filterMap Frame.node

/-- The nodes of the frames around the current one. -/
def Context.outside (context : Context) : List Expr := context.parents.filterMap Frame.node

/-- The current frame is that of a node with its binding. -/
def Context.Framed (context : Context) (e : Expr) : Prop :=
  ∃ binding, context.frames = ⟨some e, binding⟩ :: context.parents ∧
    context.bindIn context.parents e = .ok binding

/-- Two walks have found the same so far: the proxy of the root, and the collection of the rows. -/
structure FoundAlike (context other : Context) : Prop where
  root : other.root.map Root.proxy = context.root.map Root.proxy
  collection : other.collection = context.collection

/-- What two walks have in common besides their frames. -/
structure Beside (context other : Context) : Prop extends FoundAlike context other where
  model : other.model = context.model
  request : other.request = context.request
  maxDepth : other.maxDepth = context.maxDepth
  depth : other.depth = context.depth

/-- Another node has taken the current frame over. -/
structure Context.Reframed (context : Context) (node : Expr) (replaced : Context) : Prop where
  frames_only : replaced = { context with frames := replaced.frames }
  depth : replaced.depth = context.depth
  outside : replaced.outside = context.outside
  framed : replaced.Framed node

/-- Two walks are about to visit trees under corresponding lambdas. -/
structure Level (scopes : Scopes) (context other : Context) : Prop extends Beside context other where
  enclosed : Enclosed scopes context.around other.around

/-- Two walks are in the frames of nodes that are the same under corresponding lambdas. -/
structure Facing (scopes : Scopes) (e e' : Expr) (context other : Context) : Prop extends
    Beside context other where
  renamed : e.Renamed scopes e'
  framed : context.Framed e
  framed' : other.Framed e'
  enclosed : Enclosed scopes context.outside other.outside

variable {scopes : Scopes} {e e' : Expr} {context other later later' : Context}

theorem FoundAlike.of_idle {before before' after after' : Recording}
    (found : FoundAlike before.context before'.context) (idle : Walk.Idle before after)
    (idle' : Walk.Idle before' after') : FoundAlike after.context after'.context where
  root := by rw [idle.root, idle'.root, found.root]
  collection := by rw [idle.collection, idle'.collection, found.collection]

theorem Context.around_of_setting (same : later.setting = context.setting) :
    later.around = context.around :=
  (congrArg Context.around same : later.setting.around = _)

theorem Context.outside_of_setting (same : later.setting = context.setting) :
    later.outside = context.outside :=
  (congrArg Context.outside same : later.setting.outside = _)

theorem Beside.of_setting (beside : Beside context other) (same : later.setting = context.setting)
    (same' : later'.setting = other.setting) (found : FoundAlike later later') :
    Beside later later' where
  toFoundAlike := found
  model := by
    have kept : later.model = context.model := congrArg (·.model) same
    have kept' : later'.model = other.model := congrArg (·.model) same'
    rw [kept, kept', beside.model]
  request := by
    have kept : later.request = context.request := congrArg (·.request) same
    have kept' : later'.request = other.request := congrArg (·.request) same'
    rw [kept, kept', beside.request]
  maxDepth := by
    have kept : later.maxDepth = context.maxDepth := congrArg (·.maxDepth) same
    have kept' : later'.maxDepth = other.maxDepth := congrArg (·.maxDepth) same'
    rw [kept, kept', beside.maxDepth]
  depth := by
    have kept : later.depth = context.depth :=
      (congrArg Context.depth same : later.setting.depth = _)
    have kept' : later'.depth = other.depth :=
      (congrArg Context.depth same' : later'.setting.depth = _)
    rw [kept, kept', beside.depth]

theorem Level.of_setting (level : Level scopes context other)
    (same : later.setting = context.setting) (same' : later'.setting = other.setting)
    (found : FoundAlike later later') : Level scopes later later' where
  toBeside := level.toBeside.of_setting same same' found
  enclosed := by
    rw [Context.around_of_setting same, Context.around_of_setting same']
    exact level.enclosed

theorem Context.Framed.of_setting (framed : context.Framed e)
    (same : later.setting = context.setting) : later.Framed e := by
  obtain ⟨binding, frames, bound⟩ := framed
  have kept : later.frames = context.frames := congrArg (·.frames) same
  have parents : later.parents = context.parents := congrArg List.tail kept
  refine ⟨binding, ?_, ?_⟩
  · rw [kept, parents]
    exact frames
  · rw [parents]
    exact Context.bindIn_of_setting same bound

theorem Facing.of_setting (facing : Facing scopes e e' context other)
    (same : later.setting = context.setting) (same' : later'.setting = other.setting)
    (found : FoundAlike later later') : Facing scopes e e' later later' where
  toBeside := facing.toBeside.of_setting same same' found
  renamed := facing.renamed
  framed := facing.framed.of_setting same
  framed' := facing.framed'.of_setting same'
  enclosed := by
    rw [Context.outside_of_setting same, Context.outside_of_setting same']
    exact facing.enclosed

/-- Two walks are in the frames of nodes of the same type that are bound to the same source, whatever
the arguments of the reference, or to none. -/
structure Matching (e e' : Expr) (context other : Context) : Prop extends Beside context other where
  type_eq : e.type = e'.type
  isSource_eq : e.isSource = e'.isSource
  framed : context.Framed e
  framed' : other.Framed e'
  references : e.isSource = true → ∃ target args, context.binding = .reference target ∧
    other.binding = .reference { target with args }

theorem Matching.of_setting (matching : Matching e e' context other)
    (same : later.setting = context.setting) (same' : later'.setting = other.setting)
    (found : FoundAlike later later') : Matching e e' later later' where
  toBeside := matching.toBeside.of_setting same same' found
  type_eq := matching.type_eq
  isSource_eq := matching.isSource_eq
  framed := matching.framed.of_setting same
  framed' := matching.framed'.of_setting same'
  references := by
    rw [Context.binding_of_setting same, Context.binding_of_setting same']
    exact matching.references

namespace Context.Framed

variable (framed : context.Framed e)

include framed

theorem node? : context.node? = some e := by
  obtain ⟨binding, frames, -⟩ := framed
  exact node?_of_frames frames

theorem around : context.around = e :: context.outside := by
  obtain ⟨binding, frames, -⟩ := framed
  unfold Context.around
  rw [frames]
  rfl

theorem isReference : context.binding.isReference = e.isSource := by
  obtain ⟨binding, frames, bound⟩ := framed
  rw [binding_of_frames frames, isSource_of_bindIn bound]

/-- A reference to a source can take the current frame over. -/
theorem replace_source {name : String} {element : Element}
    (found : context.model.resolve? none name = some element) (id : NodeId) :
    ∃ replaced, context.replace (.source ⟨id, element.logicalType⟩ none name []) = .ok replaced ∧
      context.Reframed (.source ⟨id, element.logicalType⟩ none name []) replaced := by
  let target : DataReference := { qualifier := none, name, args := [], element }
  have found : context.model.resolve? target.qualifier target.name = some target.element := found
  have bound : context.bindIn context.parents
      (.source ⟨id, element.logicalType⟩ none name []) = .ok (.reference target) :=
    Context.bindIn_of_ofNode (Binding.ofNode_source _ found)
  obtain ⟨binding, frames, -⟩ := framed
  refine ⟨_, Context.replace_of_bound frames bound, rfl, ?_, rfl, _, rfl, bound⟩
  unfold Context.depth
  rw [frames]
  rfl

theorem reframed : context.Reframed e context := ⟨rfl, rfl, rfl, framed⟩

theorem reference?_of_plain (plain : e.isSource = false) : context.binding.reference? = none := by
  obtain ⟨binding, frames, bound⟩ := framed
  rw [binding_of_frames frames]
  exact unbound_of_bindIn bound plain

end Context.Framed

/-- Nodes that correspond and are data references refer to the same source. -/
theorem Facing.references (facing : Facing scopes e e' context other) (source : e.isSource = true) :
    ∃ target args, context.binding = .reference target ∧
      other.binding = .reference { target with args } := by
  obtain ⟨binding, frames, bound⟩ := facing.framed
  obtain ⟨binding', frames', bound'⟩ := facing.framed'
  rw [Context.binding_of_frames frames, Context.binding_of_frames frames']
  obtain ⟨target, rfl⟩ := Binding.ofNode_of_isSource source (Context.bindIn_ok bound)
  obtain ⟨target', rfl⟩ := Binding.ofNode_of_isSource (facing.renamed.isSource_eq ▸ source)
    (Context.bindIn_ok bound')
  obtain ⟨-, stamp, rfl, found⟩ := Context.bindIn_reference bound rfl
  obtain ⟨-, stamp', rfl, found'⟩ := Context.bindIn_reference bound' rfl
  refine ⟨target, target'.args, rfl, ?_⟩
  have renamed := facing.renamed
  rw [facing.model] at found'
  cases target with
  | mk qualifier name args element =>
  cases target' with
  | mk qualifier' name' args' element' =>
  cases renamed
  cases found.symm.trans found'
  rfl

theorem Facing.matching (facing : Facing scopes e e' context other) :
    Matching e e' context other where
  toBeside := facing.toBeside
  type_eq := facing.renamed.type_eq
  isSource_eq := facing.renamed.isSource_eq
  framed := facing.framed
  framed' := facing.framed'
  references := facing.references

theorem Beside.reframed (beside : Beside context other) {node node' : Expr}
    (reframed : context.Reframed node later) (reframed' : other.Reframed node' later') :
    Beside later later' where
  model := by
    rw [reframed.frames_only, reframed'.frames_only]
    exact beside.model
  request := by
    rw [reframed.frames_only, reframed'.frames_only]
    exact beside.request
  maxDepth := by
    rw [reframed.frames_only, reframed'.frames_only]
    exact beside.maxDepth
  depth := by rw [reframed.depth, reframed'.depth, beside.depth]
  root := by
    rw [reframed.frames_only, reframed'.frames_only]
    exact beside.root
  collection := by
    rw [reframed.frames_only, reframed'.frames_only]
    exact beside.collection

/-- Nodes that correspond may take the frames over. -/
theorem Facing.reframed (facing : Facing scopes e e' context other) {node node' : Expr}
    (renamed : node.Renamed scopes node') (reframed : context.Reframed node later)
    (reframed' : other.Reframed node' later') : Facing scopes node node' later later' where
  toBeside := facing.toBeside.reframed reframed reframed'
  renamed := renamed
  framed := reframed.framed
  framed' := reframed'.framed
  enclosed := by
    rw [reframed.outside, reframed'.outside]
    exact facing.enclosed

theorem Beside.substitute (beside : Beside context other) (e e' current current' : Expr) :
    Beside (context.substitute e current) (other.substitute e' current') where
  root := beside.root
  collection := beside.collection
  model := beside.model
  request := beside.request
  maxDepth := beside.maxDepth
  depth := beside.depth

/-- What is made of corresponding references may be put in their place. -/
theorem Facing.substitute (facing : Facing scopes e e' context other) (current current' : Expr) :
    Facing scopes e e' (context.substitute e current) (other.substitute e' current') where
  toBeside := facing.toBeside.substitute e e' current current'
  renamed := facing.renamed
  framed := facing.framed
  framed' := facing.framed'
  enclosed := facing.enclosed

theorem Facing.level (facing : Facing scopes e e' context other)
    (placed : e.isLambda = true → Placed e context.outside ∧ Placed e' other.outside) :
    Level (scopes.inside e e') context other where
  toBeside := facing.toBeside
  enclosed := by
    rw [facing.framed.around, facing.framed'.around]
    exact .cons facing.enclosed facing.renamed placed

/-- Nodes that are bound alike are so in the frames of contexts. -/
theorem Beside.bindIn (beside : Beside context other)
    (alike : Binding.BoundAlike (Binding.bind context.model context.around e)
      (Binding.bind context.model other.around e')) :
    (∃ error, context.bindIn context.frames e = .error error ∧
        other.bindIn other.frames e' = .error error) ∨
      ∃ binding binding', context.bindIn context.frames e = .ok binding ∧
        other.bindIn other.frames e' = .ok binding' := by
  rw [Context.bindIn_eq, Context.bindIn_eq, beside.model]
  unfold Context.around at alike
  cases bound : Binding.bind context.model (context.frames.filterMap Frame.node) e with
  | error unknown =>
    cases bound' : Binding.bind context.model (other.frames.filterMap Frame.node) e' with
    | error unknown' =>
      rw [bound, bound'] at alike
      cases alike
      exact .inl ⟨_, rfl, rfl⟩
    | ok binding' =>
      rw [bound, bound'] at alike
      exact alike.elim
  | ok binding =>
    cases bound' : Binding.bind context.model (other.frames.filterMap Frame.node) e' with
    | error unknown' =>
      rw [bound, bound'] at alike
      exact alike.elim
    | ok binding' => exact .inr ⟨_, _, rfl, rfl⟩

theorem Context.push_of_unbound {error : Error} (shallow : context.depth < context.maxDepth)
    (unbound : context.bindIn context.frames e = .error error) :
    context.push (some e) = .error error := by
  simp [push, Nat.not_le_of_lt shallow, unbound, bind, Except.bind]

/-- Frames for nodes that are bound alike are entered or refused alike. -/
theorem Beside.push (beside : Beside context other)
    (alike : Binding.BoundAlike (Binding.bind context.model context.around e)
      (Binding.bind context.model other.around e')) :
    (∃ error, context.push (some e) = .error error ∧ other.push (some e') = .error error) ∨
      ∃ entered entered', context.push (some e) = .ok entered ∧
        other.push (some e') = .ok entered' ∧ Beside entered entered' := by
  by_cases full : context.maxDepth ≤ context.depth
  · refine .inl ⟨.depthExceeded context.maxDepth, if_pos full, ?_⟩
    have full' : other.maxDepth ≤ other.depth := by
      rw [beside.maxDepth, beside.depth]
      exact full
    rw [← beside.maxDepth]
    exact if_pos full'
  · have room : context.depth < context.maxDepth := Nat.lt_of_not_le full
    have room' : other.depth < other.maxDepth := by
      rw [beside.maxDepth, beside.depth]
      exact room
    rcases beside.bindIn alike with ⟨error, unbound, unbound'⟩ | ⟨binding, binding', bound, bound'⟩
    · exact .inl ⟨error, Context.push_of_unbound room unbound,
        Context.push_of_unbound room' unbound'⟩
    · refine .inr ⟨_, _, Context.push_of_bound room bound, Context.push_of_bound room' bound', ?_⟩
      exact {
        root := beside.root
        collection := beside.collection
        model := beside.model
        request := beside.request
        maxDepth := beside.maxDepth
        depth := congrArg Nat.succ beside.depth }

/-- Unbound frames are entered or refused alike. -/
theorem Beside.push_none (beside : Beside context other) :
    (∃ error, context.push none = .error error ∧ other.push none = .error error) ∨
      ∃ entered entered', context.push none = .ok entered ∧ other.push none = .ok entered' ∧
        Beside entered entered' := by
  by_cases full : context.maxDepth ≤ context.depth
  · refine .inl ⟨.depthExceeded context.maxDepth, if_pos full, ?_⟩
    have full' : other.maxDepth ≤ other.depth := by
      rw [beside.maxDepth, beside.depth]
      exact full
    rw [← beside.maxDepth]
    exact if_pos full'
  · have full' : ¬other.maxDepth ≤ other.depth := by
      rw [beside.maxDepth, beside.depth]
      exact full
    refine .inr ⟨_, _, if_neg full, if_neg full', ?_⟩
    exact {
      root := beside.root
      collection := beside.collection
      model := beside.model
      request := beside.request
      maxDepth := beside.maxDepth
      depth := congrArg Nat.succ beside.depth }

namespace Context

variable {entered : Context}

theorem Framed.of_push (pushed : context.push (some e) = .ok entered) : entered.Framed e := by
  obtain ⟨binding, bound, rfl⟩ := push_some pushed
  exact ⟨binding, rfl, bound⟩

theorem outside_push {node : Option Expr} (pushed : context.push node = .ok entered) :
    entered.outside = context.around := by
  cases node with
  | none =>
    cases push_none pushed
    rfl
  | some node =>
    obtain ⟨binding, -, rfl⟩ := push_some pushed
    rfl

theorem around_push_none (pushed : context.push none = .ok entered) :
    entered.around = context.around := by
  cases push_none pushed
  rfl

end Context

section Collection

theorem Context.inLambdaBody_eq (context : Context) :
    context.inLambdaBody = context.outside.any Expr.isLambda := by
  unfold inLambdaBody outside
  rw [List.any_filterMap]
  congr 1

/-- An unbound frame has nothing to say about where the rows come from. -/
theorem Context.collection_pop_unbound {outer : List Frame}
    (frames : context.frames = {} :: outer) : context.pop.collection = context.collection := by
  unfold pop
  rw [frames]
  rfl

/-- Two walks that leave frames take the rows to be from the same collection, if outside of lambdas
the nodes of the frames are owned by the same. -/
theorem Beside.collection_pop (beside : Beside context other) (framed : context.Framed e)
    (framed' : other.Framed e')
    (lambdas : other.outside.any Expr.isLambda = context.outside.any Expr.isLambda)
    (owners : ∀ binding binding',
      Binding.ofNode context.model (fun _ => .ok .unbound) e = .ok binding →
      Binding.ofNode context.model (fun _ => .ok .unbound) e' = .ok binding' →
      binding'.owner? context.model = binding.owner? context.model) :
    other.pop.collection = context.pop.collection := by
  obtain ⟨binding, frames, bound⟩ := framed
  obtain ⟨binding', frames', bound'⟩ := framed'
  have inside : other.inLambdaBody = context.inLambdaBody := by
    rw [Context.inLambdaBody_eq, Context.inLambdaBody_eq, lambdas]
  have outermost : other.parents.isEmpty = context.parents.isEmpty := by
    have depth := beside.depth
    unfold Context.depth at depth
    rw [frames, frames', List.length_cons, List.length_cons] at depth
    rw [Bool.eq_iff_iff, List.isEmpty_iff_length_eq_zero, List.isEmpty_iff_length_eq_zero,
      Nat.succ.inj depth]
  unfold Context.pop
  rw [frames, frames']
  simp only [Context.collectionAfter, inside, outermost, beside.collection, beside.model]
  cases body : context.inLambdaBody with
  | true => cases binding.owner? context.model <;> cases binding'.owner? context.model <;> simp
  | false =>
    have bound := Context.ofNode_of_lambdaFree body bound
    have bound' := Context.ofNode_of_lambdaFree (inside.trans body) bound'
    rw [beside.model] at bound'
    rw [owners binding binding' bound bound']

end Collection

/-- Nodes that correspond are bound alike. -/
theorem Level.bound (level : Level scopes context other) (renamed : e.Renamed scopes e') :
    Binding.BoundAlike (Binding.bind context.model context.around e)
      (Binding.bind context.model other.around e') :=
  Binding.ofNode_alike renamed fun _ _ same => Binding.ofParameter_alike level.enclosed same

/-- In their frames nodes that correspond face each other. -/
theorem Level.facing (level : Level scopes context other) (renamed : e.Renamed scopes e')
    (beside : Beside later later') (pushed : context.push (some e) = .ok later)
    (pushed' : other.push (some e') = .ok later') : Facing scopes e e' later later' where
  toBeside := beside
  renamed := renamed
  framed := .of_push pushed
  framed' := .of_push pushed'
  enclosed := by
    rw [Context.outside_push pushed, Context.outside_push pushed']
    exact level.enclosed

theorem Level.unframed (level : Level scopes context other) (beside : Beside later later')
    (pushed : context.push none = .ok later) (pushed' : other.push none = .ok later') :
    Level scopes later later' where
  toBeside := beside
  enclosed := by
    rw [Context.around_push_none pushed, Context.around_push_none pushed']
    exact level.enclosed

end Rewriting

end QueryRewriting
