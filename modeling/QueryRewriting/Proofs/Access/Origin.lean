import QueryRewriting.Proofs.Access.Scoping
import QueryRewriting.Proofs.Rewriting.Resolution

/-! Where the rows of a query come from. A walk takes for their collection the one that owns the
node left last, lambdas and what is inside of them apart. So for a chain of calls the collection
at the head of the chain is reported, unless an argument further to the right holds, outside of
lambdas, a node with an owner of its own. -/
namespace QueryRewriting

open Schema Rewriting

namespace Expr

/-- What a chain of calls begins with: its innermost first argument. -/
def head : Expr → Expr
  | .call _ _ (first :: _) => head first
  | e => e

/-- The other arguments of a chain of calls, in the order in which they are visited. -/
def others : Expr → List Expr
  | .call _ _ (first :: rest) => others first ++ rest
  | _ => []

/-- The collection that a node outside of lambdas belongs to. -/
def owner? (model : Model) (e : Expr) : Option String :=
  match Binding.ofNode model (fun _ => .ok .unbound) e with
  | .ok binding => binding.owner? model
  | .error _ => none

mutual

/-- The collections that the nodes of a tree belong to, in the order in which the nodes are left.
Lambdas and the arguments of references are left out. -/
def owners (model : Model) : Expr → List String
  | .source stamp qualifier name args => (owner? model (.source stamp qualifier name args)).toList
  | .member stamp target name =>
    owners model target ++ (owner? model (.member stamp target name)).toList
  | .call _ _ args => ownersOf model args
  | .binary _ _ left right => owners model left ++ owners model right
  | .not _ operand => owners model operand
  | _ => []

/-- The collections that the nodes of several trees belong to, one tree after the other. -/
def ownersOf (model : Model) : List Expr → List String
  | [] => []
  | e :: rest => owners model e ++ ownersOf model rest

end

variable {model : Model}

theorem ownersOf_eq (es : List Expr) : ownersOf model es = es.flatMap (owners model) := by
  induction es with
  | nil => rfl
  | cons e rest ih => rw [ownersOf, ih, List.flatMap_cons]

@[simp] theorem owner?_call (stamp : Stamp) (method : Method) (args : List Expr) :
    owner? model (.call stamp method args) = none := rfl

theorem owner?_of_isLambda {e : Expr} (lambda : e.isLambda = true) : owner? model e = none := by
  cases e with
  | lambda => rfl
  | _ => contradiction

theorem owners_of_isSource {e : Expr} (source : e.isSource = true) :
    e.owners model = (e.owner? model).toList := by
  cases e with
  | source => rfl
  | _ => contradiction

theorem owners_of_isLambda {e : Expr} (lambda : e.isLambda = true) : e.owners model = [] := by
  cases e with
  | lambda => rfl
  | _ => contradiction

theorem owners_eq {e : Expr} (plain : e.isSource = false) (bodiless : e.isLambda = false) :
    e.owners model = e.children.flatMap (owners model) ++ (e.owner? model).toList := by
  cases e with
  | source | lambda => contradiction
  | call stamp method args => simp [owners, children, ownersOf_eq]
  | value | queryable | parameter | native | member | binary | not =>
    simp [owners, children, owner?, Binding.ofNode, Binding.owner?]

/-- The owners along a chain of calls. -/
theorem owners_chain (e : Expr) :
    e.owners model = e.head.owners model ++ e.others.flatMap (owners model) := by
  fun_induction head e with
  | case1 stamp method first rest ih =>
    rw [owners, ownersOf, ownersOf_eq, ih, others, List.flatMap_append, List.append_assoc]
  | case2 e other =>
    have none : e.others = [] := by
      unfold others
      split
      · exact (other _ _ _ _ rfl).elim
      · rfl
    rw [none, List.flatMap_nil, List.append_nil]

/-- Without data references a node outside of lambdas is unbound. -/
theorem ofNode_of_free (e : Expr) :
    e.hasDataReference = false → Binding.ofNode model (fun _ => .ok .unbound) e = .ok .unbound := by
  induction e using ofChildren with
  | step e ih =>
    intro free
    cases e with
    | source => exact absurd (isSource_of_hasDataReference free) (by simp [isSource])
    | member stamp target name =>
      have target := ih target List.mem_cons_self (hasDataReference_child free List.mem_cons_self)
      rw [Binding.ofNode, target]
      rfl
    | _ => rfl

/-- A tree without data references belongs to no collection. -/
theorem owners_of_free (e : Expr) : e.hasDataReference = false → e.owners model = [] := by
  induction e using ofChildren with
  | step e ih =>
    intro free
    have unowned : e.owner? model = none := by
      rw [owner?, ofNode_of_free e free]
      rfl
    cases lambda : e.isLambda with
    | true => exact owners_of_isLambda lambda
    | false =>
      rw [owners_eq (isSource_of_hasDataReference free) lambda, unowned]
      simp only [Option.toList_none, List.append_nil, List.flatMap_eq_nil_iff]
      exact fun child below => ih child below (hasDataReference_child free below)

end Expr

namespace Rewriting

/-- A filter that leaves alone what is no data reference, and offers for one a call over the
reference and a lambda. -/
def Selects (hook : TreeHook) : Prop :=
  ∀ context ambient, Ends (hook.run context)
    (fun answer _ => ∀ offered, answer = some offered → context.binding.isReference = true ∧
      ∃ node stamp method lambda, context.node? = some node ∧ lambda.isLambda = true ∧
        offered = .call stamp method [node, lambda])
    (fun _ _ => True) ambient

/-- A registry that replaces nothing, and whose filters select rows. -/
structure Registry.Selecting (registry : Registry) : Prop where
  normalizers : registry.normalizers = []
  expanders : registry.expanders = []
  filters : ∀ hook ∈ registry.filters, Selects hook

namespace Walk

variable {α β : Type} {setting : Context} {owners later : List String} {good : α → Prop}
  {good' : β → Prop}

/-- The rows come from the last one of some owners, or from where they came before if there are
none. -/
def crediting : Account (List String) where
  done owners before after :=
    after.context.collection = owners.getLast?.or before.context.collection
  failed _ _ _ _ := True
  idle := []
  join first rest := first ++ rest
  idle_join _ := rfl
  join_idle := List.append_nil
  done_idle _ _ := rfl
  done_join early late := by rw [late, early, List.getLast?_append, Option.or_assoc]
  failed_first _ := trivial
  failed_rest _ _ _ := trivial

/-- In a setting a step succeeds with a good value only, and the rows then come from the last one of
some owners, or from where they came before if there are none. -/
def Credits (setting : Context) (owners : List String) (good : α → Prop) (step : Walk α) : Prop :=
  ∀ before : Recording, before.context.setting = setting →
    crediting.Charges owners step good before

theorem Credits.weaken {better : α → Prop} {step : Walk α}
    (credits : Credits setting owners good step) (good : ∀ value, good value → better value) :
    Credits setting owners better step :=
  fun before same => (credits before same).mono good

theorem Credits.bind {step : Walk α} {next : α → Walk β} (first : Credits setting owners good step)
    (rest : ∀ value, good value → Credits setting later good' (next value)) :
    Credits setting (owners ++ later) good' (step >>= next) := by
  intro before same
  apply (first before same).bind
  intro value middle kept fine
  exact rest value fine middle (kept.trans same)

/-- A step before which nothing is credited. -/
theorem Credits.after {step : Walk α} {next : α → Walk β} (first : Credits setting [] good step)
    (rest : ∀ value, good value → Credits setting owners good' (next value)) :
    Credits setting owners good' (step >>= next) := first.bind rest

/-- A step after which nothing is credited. -/
theorem Credits.before {step : Walk α} {next : α → Walk β}
    (first : Credits setting owners good step)
    (rest : ∀ value, good value → Credits setting [] good' (next value)) :
    Credits setting owners good' (step >>= next) := by
  rw [← List.append_nil owners]
  exact first.bind rest

theorem credits_pure {value : α} (fine : good value) : Credits setting [] good (pure value) :=
  fun _ _ => Account.charges_pure fine

theorem credits_throw (error : Error) : Credits setting owners good (throw error) :=
  fun _ _ => trivial

theorem credits_context : Credits setting [] (fun now => now.setting = setting) context := by
  intro before same
  apply Account.charges_context.mono
  rintro now rfl
  exact same

/-- A step that leaves setting and collection alone credits nothing. -/
theorem Credits.of_keeps {step : Walk α} (kept : Keeps Context.setting step)
    (collected : Keeps Context.collection step) : Credits setting [] (fun _ => True) step := by
  intro before _
  apply ((kept before).and (collected before)).mono
  · rintro value after ⟨same, collection⟩
    exact ⟨same, collection, trivial⟩
  · exact fun _ _ _ => trivial

theorem credits_build (fresh : Fresh α) (fine : ∀ supply, good (fresh.run supply).1) :
    Credits setting [] good (acting (Act.build fresh)) := by
  intro before _
  apply (Account.charges_build fresh).mono
  rintro value rfl
  exact fine _

theorem credits_checkType (hook : String) (replaced replacement : Expr) :
    Credits setting [] (fun _ => True) (checkType hook replaced replacement) :=
  .of_keeps (follows_checkType _ _ _) (follows_checkType _ _ _)

theorem credits_inspect (node : Expr) (inspectors : List (Hook Bool)) :
    Credits setting [] (fun _ => True) (inspect node inspectors) :=
  .of_keeps (follows_inspect (fun hook _ => keeps_consult (fun _ _ => rfl) hook) _)
    (follows_inspect (fun hook _ => keeps_consult (fun _ _ => rfl) hook) _)

theorem credits_source (registry : Registry) (current : Expr) :
    Credits setting [] (fun _ => True) (source registry current) := by
  have collected : Keeps Context.collection (source registry current) := by
    apply follows_source
    · exact fun _ _ _ => keeps_consult (fun _ _ => rfl) _
    · exact fun _ _ => rfl
  exact .of_keeps (keeps_sourcing _ _) collected

theorem credits_substituting {node replacement : Expr} {step : Walk α}
    (credits : Credits (setting.substitute node replacement) owners good step) :
    Credits setting owners good (substituting node replacement step) := by
  rintro before rfl
  apply (ends_substituting _ _ _).mpr
  apply (credits _ rfl).weaken
  rintro value after ⟨same, collection, fine⟩
  exact ⟨congrArg Context.endSubstitution same, collection, fine⟩

theorem credits_mapM {visit : Expr → Walk Expr} {owned : Expr → List String} {nodes : List Expr}
    (each : ∀ node ∈ nodes, Credits setting (owned node) (fun _ => True) (visit node)) :
    Credits setting (nodes.flatMap owned) (fun _ => True) (nodes.mapM visit) := by
  intro before same
  have visited := Account.charges_mapM List.flatMap_nil (fun _ _ => List.flatMap_cons)
    fun node member (state : Recording) (kept : state.context.setting = before.context.setting) =>
      each node member state (kept.trans same)
  exact visited.mono fun _ _ => trivial

section Frames

variable {node : Expr} {step : Walk α}

/-- A setting inside of a frame. -/
def inside (setting : Context) (frame : Frame) : Context :=
  { setting with frames := frame :: setting.frames }

/-- What a step in the frame of a node credits when the frame is left, inside another frame. -/
theorem credits_frame (around : setting.frames ≠ [])
    (ends : ∀ binding, setting.bindIn setting.frames node = .ok binding → ∀ before,
      before.context.setting = inside setting ⟨some node, binding⟩ →
      Ends step
        (fun value after => after.context.setting = inside setting ⟨some node, binding⟩ ∧
          (if Context.inLambda setting.frames then after.context.collection
            else (binding.owner? setting.model).or after.context.collection) =
              owners.getLast?.or before.context.collection ∧ good value)
        (fun _ _ => True) before) :
    Credits setting owners good (nested (some node) step) := by
  rintro before rfl
  apply (ends_nested _ _).mpr
  split
  · next context pushed =>
    obtain ⟨binding, bound, rfl⟩ := Context.push_some pushed
    apply (ends binding bound _ rfl).weaken
    rintro value after ⟨same, collection, fine⟩
    have frames : after.context.frames = ⟨some node, binding⟩ :: before.context.setting.frames :=
      congrArg (·.frames) same
    have model : after.context.model = before.context.setting.model := congrArg (·.model) same
    refine ⟨?_, ?_, fine⟩
    · rw [Context.setting_pop, Context.surroundings, same]
      rfl
    · refine Eq.trans ?_ collection
      rw [Plan.collection_pop frames, Plan.collectionAfter_eq frames around, model]
      cases binding.owner? before.context.setting.model <;> rfl
  · trivial

/-- Inside of a lambda frames credit nothing. -/
theorem credits_nested_inside (within : Context.inLambda setting.frames = true)
    (credits : ∀ binding, setting.bindIn setting.frames node = .ok binding →
      Credits (inside setting ⟨some node, binding⟩) [] good step) :
    Credits setting [] good (nested (some node) step) := by
  have around : setting.frames ≠ [] := by
    intro none
    rw [none] at within
    contradiction
  apply credits_frame around
  intro binding bound before same
  apply (credits binding bound before same).weaken
  rintro value after ⟨same', collection, fine⟩
  rw [if_pos within]
  exact ⟨same'.trans same, collection, fine⟩

theorem owner?_of_bindIn {binding : Binding} (outside : Context.inLambda setting.frames = false)
    (bound : setting.bindIn setting.frames node = .ok binding) :
    node.owner? setting.model = binding.owner? setting.model := by
  rw [Expr.owner?, Context.ofNode_of_lambdaFree outside bound]

section Outside

variable (outside : Context.inLambda setting.frames = false) (around : setting.frames ≠ [])

include outside around

/-- Outside of lambdas the frame of a node credits, in the end, the owner of the node. -/
theorem credits_nested
    (credits : ∀ binding, setting.bindIn setting.frames node = .ok binding →
      Credits (inside setting ⟨some node, binding⟩) owners good step) :
    Credits setting (owners ++ (node.owner? setting.model).toList) good
      (nested (some node) step) := by
  apply credits_frame around
  intro binding bound before same
  apply (credits binding bound before same).weaken
  rintro value after ⟨same', collection, fine⟩
  refine ⟨same'.trans same, ?_, fine⟩
  rw [outside, owner?_of_bindIn outside bound, collection, List.getLast?_append]
  cases binding.owner? setting.model <;> rfl

/-- An owned node is credited whatever happens in its frame. -/
theorem credits_owned {owner : String} (owned : node.owner? setting.model = some owner)
    (kept : Keeps Context.setting step) :
    Credits setting [owner] (fun _ => True) (nested (some node) step) := by
  apply credits_frame around
  intro binding bound before same
  apply (kept before).mono
  · intro value after same'
    rw [outside, ← owner?_of_bindIn outside bound, owned]
    exact ⟨same'.trans same, rfl, trivial⟩
  · exact fun _ _ _ => trivial

end Outside

/-- An unbound frame credits nothing, wherever it is. -/
theorem credits_nested_unbound
    (credits : Credits (inside setting {}) owners good step) :
    Credits setting owners good (nested none step) := by
  rintro before rfl
  apply (ends_nested _ _).mpr
  split
  · next context pushed =>
    cases Context.push_none pushed
    apply (credits _ rfl).weaken
    rintro value after ⟨same, collection, fine⟩
    have frames : after.context.frames = {} :: before.context.setting.frames :=
      congrArg (·.frames) same
    refine ⟨?_, ?_, fine⟩
    · rw [Context.setting_pop, Context.surroundings, same]
      rfl
    · exact (Plan.collection_pop frames).trans collection
  · trivial

end Frames

section Selecting

variable {registry : Registry} {visit revisit : Expr → Walk Expr} {node : Expr}
  {binding : Binding} {outer : List Frame} {holds : Expr → Prop}

theorem credits_consult {point : Point} {hook : TreeHook} (selects : Selects hook) :
    Credits setting []
      (fun answer => ∀ offered, answer = some offered → setting.binding.isReference = true ∧
        ∃ node stamp method lambda, setting.node? = some node ∧ lambda.isLambda = true ∧
          offered = .call stamp method [node, lambda])
      (consult .offer point hook) := by
  rintro before rfl
  have answered := selects (before.context.consulting point hook.name) before.ambient
  rcases run : (hook.run (before.context.consulting point hook.name)).run.run before.ambient with
    ⟨_ | answer, ambient⟩ <;> apply (ends_consult_of_run run).mpr
  · trivial
  · rw [Ends, run] at answered
    exact ⟨rfl, rfl, answered⟩

/-- What filters offer for a reference is walked while the reference is substituted; for any other
node they offer nothing. -/
theorem credits_filtered {filters : List TreeHook} (selects : ∀ hook ∈ filters, Selects hook)
    (again : setting.binding.isReference = true → ∀ current offered stamp method lambda,
      setting.node? = some offered → lambda.isLambda = true → holds current →
      Credits (setting.substitute node current) [] holds
        (revisit (.call stamp method [offered, lambda])))
    {current : Expr} (held : holds current) :
    Credits setting [] holds (filtered revisit node filters current) := by
  induction filters generalizing current with
  | nil => exact credits_pure held
  | cons hook rest ih =>
    have ih {current : Expr} (held : holds current) :
        Credits setting [] holds (filtered revisit node rest current) :=
      ih (fun other listed => selects other (List.mem_cons_of_mem _ listed)) held
    apply (credits_consult (selects hook List.mem_cons_self)).after
    intro answer answered
    cases answer with
    | none => exact ih held
    | some offered =>
      obtain ⟨refers, origin, stamp, method, lambda, under, bodied, rfl⟩ := answered offered rfl
      dsimp only
      split
      · exact ih held
      · apply (credits_checkType _ _ _).after
        intro _ _
        have walked := again refers current origin stamp method lambda under bodied held
        exact (credits_substituting walked).after fun tree held => ih held

/-- What is no data reference is left to itself by the sourcer. -/
theorem credits_unsourced (plain : setting.binding.reference? = none) (current : Expr) :
    Credits setting [] (fun tree => tree = current) (source registry current) := by
  rintro before rfl
  have plain : before.context.binding.reference? = none := plain
  apply (ends_source_settled (.inl plain)).mpr
  exact ⟨rfl, rfl, rfl⟩

theorem inFrame_of_selecting (selecting : registry.Selecting) :
    inFrame registry visit revisit node = normalized registry visit revisit node := by
  rw [inFrame, normalize_of_none selecting.normalizers, pure_bind]

/-- What the frame of a node credits is what the visits of its children do. -/
theorem credits_inFrame (selecting : registry.Selecting)
    (frames : setting.frames = ⟨some node, binding⟩ :: outer)
    (descends : Credits setting owners holds (descended visit node binding.isReference))
    (again : binding.isReference = true → ∀ current stamp method lambda,
      lambda.isLambda = true → holds current → Credits (setting.substitute node current) [] holds
        (revisit (.call stamp method [node, lambda]))) :
    Credits setting owners (fun tree => binding.isReference = false → holds tree)
      (inFrame registry visit revisit node) := by
  have bound : setting.binding = binding := Context.binding_of_frames frames
  have under : setting.node? = some node := Context.node?_of_frames frames
  rw [inFrame_of_selecting selecting]
  apply credits_context.after
  intro now same
  have here : now.node? = some node := (congrArg Context.node? same).trans under
  rw [here]
  apply credits_context.after
  intro now same
  have here : now.binding = binding := (congrArg Context.binding same).trans bound
  rw [here]
  apply descends.before
  intro rewritten held
  apply (credits_inspect _ _).after
  intro _ _
  dsimp only [Option.getD_some]
  rw [expansion_of_none selecting.expanders, pure_bind]
  have filters : Credits setting [] holds (filtered revisit node registry.filters rewritten) := by
    apply credits_filtered selecting.filters _ held
    rintro refers current offered stamp method lambda named
    rw [under] at named
    cases named
    exact again (bound ▸ refers) current stamp method lambda
  apply filters.after
  intro current held
  cases refers : binding.reference? with
  | none =>
    apply (credits_unsourced (bound ▸ refers) current).weaken
    rintro tree rfl _
    exact held
  | some target =>
    apply (credits_source registry current).weaken
    intro tree _ plain
    simp [Binding.isReference, refers] at plain

theorem keeps_inFrame (selecting : registry.Selecting)
    (each : ∀ node, Keeps Context.setting (visit node))
    (again : ∀ node, Keeps Context.setting (revisit node)) :
    Keeps Context.setting (inFrame registry visit revisit node) := by
  rw [inFrame_of_selecting selecting]
  exact (returning registry).follows_normalized each again node

/-- What is put together again of a call is a call, and has no owner. -/
theorem credits_children (node : Expr) (owned : Expr → List String) (model : Model)
    (each : ∀ child ∈ node.children, Credits setting (owned child) (fun _ => True) (visit child)) :
    Credits setting (node.children.flatMap owned)
      (fun tree => ∀ stamp method args, node = .call stamp method args → tree.owner? model = none)
      (children visit node) := by
  apply (credits_mapM each).before
  intro rewritten _
  apply credits_build
  rintro supply stamp method args rfl
  unfold Expr.withChildren
  split <;> rfl

end Selecting

section Visits

variable {registry : Registry} {node current lambda : Expr} {room : Nat} {holds : Expr → Prop}

theorem credits_tooDeep : Credits setting owners holds tooDeep :=
  credits_context.after fun _ _ => credits_throw _

/-- A visit credits what the one frame does that it enters. -/
theorem credits_visit
    (substituted : ∀ substitute, setting.substitution? node = some substitute →
      Credits setting owners holds (nested (some substitute) (source registry substitute)))
    (framed : setting.substitution? node = none → ∀ less < room, Credits setting owners holds
      (nested (some node) (inFrame registry (fun e => visit registry less e)
        (fun e => revisit registry less e) node))) :
    Credits setting owners holds (visit registry room node) := by
  cases room with
  | zero => exact credits_tooDeep
  | succ room =>
    unfold visit
    apply credits_context.after
    intro now same
    have here : now.setting.substitution? node = setting.substitution? node := by rw [same]
    change now.substitution? node = setting.substitution? node at here
    rw [here]
    cases found : setting.substitution? node with
    | some substitute => exact substituted substitute found
    | none => exact framed found room (Nat.lt_succ_self room)

theorem credits_revisit
    (credits : ∀ less < room, Credits (inside setting {}) owners holds (visit registry less node)) :
    Credits setting owners holds (revisit registry room node) := by
  cases room with
  | zero => exact credits_tooDeep
  | succ room =>
    unfold revisit
    exact credits_nested_unbound (credits room (Nat.lt_succ_self room))

@[simp] theorem inLambda_cons (frame : Frame) (outer : List Frame) :
    Context.inLambda (frame :: outer) =
      (frame.node.any Expr.isLambda || Context.inLambda outer) := rfl

@[simp] theorem frames_substitute (context : Context) (node replacement : Expr) :
    (context.substitute node replacement).frames = context.frames := rfl

theorem isSource_of_isLambda (bodied : lambda.isLambda = true) : lambda.isSource = false := by
  cases lambda with
  | lambda => rfl
  | _ => contradiction

variable (selecting : registry.Selecting)

include selecting

/-- Inside of a lambda a visit credits nothing. -/
theorem credits_within (room : Nat) :
    ∀ setting, Context.inLambda setting.frames = true → ∀ node,
      Credits setting [] (fun _ => True) (visit registry room node) := by
  induction room using Nat.strongRecOn with
  | ind room ih =>
    intro setting within node
    apply credits_visit
    · intro substitute _
      exact credits_nested_inside within fun _ _ => credits_source registry substitute
    · intro _ less smaller
      apply credits_nested_inside within
      intro binding _
      have deeper : Context.inLambda (inside setting ⟨some node, binding⟩).frames = true := by
        simp [inside, within]
      have descends : Credits (inside setting ⟨some node, binding⟩) [] (fun _ => True)
          (descended (fun e => visit registry less e) node binding.isReference) := by
        unfold descended
        split
        · exact credits_pure trivial
        · have visited := credits_children node (fun _ => []) setting.model fun child _ =>
            ih less smaller _ deeper child
          rw [List.flatMap_eq_nil_iff.mpr fun _ _ => rfl] at visited
          exact visited.weaken fun _ _ => trivial
      apply (credits_inFrame selecting rfl descends _).weaken fun _ _ => trivial
      intro _ current stamp method lambda _ _
      apply credits_revisit
      intro least smallest
      exact ih least (Nat.lt_trans smallest smaller) _ (by simpa [inside] using deeper) _

variable (outside : Context.inLambda setting.frames = false) (around : setting.frames ≠ [])

include outside around

/-- Outside of lambdas a visit of a plain node credits what the visits of its children do, and then
the owner of the node. -/
theorem credits_plain (node : Expr) (owned : Expr → List String) (plain : node.isSource = false)
    (free : setting.substitution? node = none)
    (each : ∀ less < room, ∀ binding, ∀ child ∈ node.children,
      Credits (inside setting ⟨some node, binding⟩) (owned child) (fun _ => True)
        (visit registry less child)) :
    Credits setting (node.children.flatMap owned ++ (node.owner? setting.model).toList)
      (fun tree => ∀ stamp method args, node = .call stamp method args →
        tree.owner? setting.model = none) (visit registry room node) := by
  apply credits_visit
  · intro substitute found
    rw [free] at found
    contradiction
  · intro _ less smaller
    apply credits_nested outside around
    intro binding bound
    have unbound : binding.isReference = false := by
      rw [← Context.isSource_of_bindIn bound, plain]
    have descends := credits_children node owned setting.model (each less smaller binding)
    refine (credits_inFrame selecting rfl ?_ ?_).weaken fun _ good => good unbound
    · unfold descended
      rw [unbound]
      exact descends
    · intro refers
      rw [unbound] at refers
      contradiction

/-- A visit of a lambda credits nothing. -/
theorem credits_lambda (bodied : lambda.isLambda = true)
    (free : setting.substitution? lambda = none) :
    Credits setting [] (fun _ => True) (visit registry room lambda) := by
  have within : ∀ less < room, ∀ binding, ∀ child ∈ lambda.children,
      Credits (inside setting ⟨some lambda, binding⟩) [] (fun _ => True)
        (visit registry less child) := by
    intro less _ binding child _
    apply credits_within selecting
    simp [inside, bodied]
  have visited := credits_plain selecting outside around lambda (fun _ => [])
    (isSource_of_isLambda bodied) free within
  rw [List.flatMap_eq_nil_iff.mpr fun _ _ => rfl, Expr.owner?_of_isLambda bodied] at visited
  exact visited.weaken fun _ _ => trivial

omit around in
/-- The walk of what a filter offers for a reference credits nothing if what stands for the
reference has no owner; and what it makes of the offer has none. -/
theorem credits_offered (fresh : setting.substitutions = []) (source : node.isSource = true)
    (unowned : current.owner? setting.model = none) (bodied : lambda.isLambda = true)
    (stamp : Stamp) (method : Method) :
    Credits (setting.substitute node current) []
      (fun tree => tree.owner? setting.model = none)
      (revisit registry room (.call stamp method [node, lambda])) := by
  have free (other : Expr) (plain : other.isSource = false) :
      (setting.substitute node current).substitution? other = none := by
    have different : node ≠ other := by
      rintro rfl
      rw [source] at plain
      contradiction
    simp [Context.substitution?, Context.substitute, fresh, different]
  let offered := Expr.call stamp method [node, lambda]
  let under := inside (setting.substitute node current) {}
  have apart : Context.inLambda under.frames = false := by simpa [under, inside] using outside
  apply credits_revisit
  intro less _
  have each : ∀ least < less, ∀ binding, ∀ child ∈ offered.children,
      Credits (inside under ⟨some offered, binding⟩) [] (fun _ => True)
        (visit registry least child) := by
    intro least _ binding child below
    have framed : (inside under ⟨some offered, binding⟩).frames ≠ [] := List.cons_ne_nil _ _
    rcases List.mem_cons.mp below with rfl | below
    · apply credits_visit
      · intro substitute found
        cases (Context.substitution?_substitute child current).symm.trans found
        have sourced : Credits (inside under ⟨some offered, binding⟩)
            ([] ++ (current.owner? setting.model).toList) (fun _ => True)
            (nested (some current) (Walk.source registry current)) :=
          credits_nested apart framed fun _ _ => credits_source registry current
        rw [unowned] at sourced
        exact sourced
      · intro none
        cases (Context.substitution?_substitute child current).symm.trans none
    · cases List.mem_singleton.mp below
      exact credits_lambda selecting apart framed bodied (free _ (isSource_of_isLambda bodied))
  have visited := credits_plain selecting apart (List.cons_ne_nil _ _) offered (fun _ => []) rfl
    (free offered rfl) each
  exact visited.weaken fun tree good => good stamp method _ rfl

omit outside around

/-- Outside of lambdas a visit credits the owners of the nodes of the tree. -/
theorem credits_walk (room : Nat) :
    ∀ setting, Context.inLambda setting.frames = false → setting.frames ≠ [] →
      setting.substitutions = [] → ∀ node,
      Credits setting (node.owners setting.model) (fun _ => True) (visit registry room node) := by
  induction room using Nat.strongRecOn with
  | ind room ih =>
    intro setting outside around fresh node
    have free := Context.substitution?_of_bare fresh node
    cases source : node.isSource with
    | false =>
      cases bodied : node.isLambda with
      | true =>
        rw [Expr.owners_of_isLambda bodied]
        exact credits_lambda selecting outside around bodied free
      | false =>
        rw [Expr.owners_eq source bodied]
        apply (credits_plain selecting outside around node _ source free _).weaken
          fun _ _ => trivial
        intro less smaller binding child _
        exact ih less smaller (inside setting ⟨some node, binding⟩)
          (by simp [inside, bodied, outside]) (List.cons_ne_nil _ _) fresh child
    | true =>
      rw [Expr.owners_of_isSource source]
      apply credits_visit
      · intro substitute found
        rw [free] at found
        contradiction
      · intro _ less _
        cases owned : node.owner? setting.model with
        | some owner =>
          apply credits_owned outside around owned
          exact keeps_inFrame selecting (keeps_visit registry less) (keeps_revisit registry less)
        | none =>
          have plain : node.isLambda = false := by
            cases node with
            | source => rfl
            | _ => contradiction
          rw [← owned, ← List.nil_append (node.owner? setting.model).toList]
          apply credits_nested outside around
          intro binding bound
          have refers : binding.isReference = true := by
            rw [← Context.isSource_of_bindIn bound, source]
          have apart : Context.inLambda (inside setting ⟨some node, binding⟩).frames = false := by
            simp [inside, plain, outside]
          have descends : Credits (inside setting ⟨some node, binding⟩) []
              (fun tree => tree.owner? setting.model = none)
              (descended (fun e => visit registry less e) node binding.isReference) := by
            unfold descended
            rw [refers]
            exact credits_pure owned
          apply (credits_inFrame selecting rfl descends _).weaken fun _ _ => trivial
          intro _ current stamp method lambda bodied unowned
          exact credits_offered selecting apart fresh source unowned bodied stamp method

end Visits

/-- The rows of a walk outside of lambdas come from the last owner in the tree. -/
theorem collection_of_run {registry : Registry} (selecting : registry.Selecting) {query tree : Expr}
    {context : Context} {ambient : Ambient} {after : State}
    (outside : Context.inLambda context.frames = false) (fresh : context.substitutions = [])
    (walked : run registry query context ambient = (.ok tree, after)) :
    after.context.collection =
      (query.owners context.model).getLast?.or context.collection := by
  have credits : Credits context.setting (query.owners context.model) (fun _ => True)
      (revisit registry (context.maxDepth - context.depth) query) := by
    apply credits_revisit
    intro less _
    exact credits_walk selecting less (inside context.setting {}) outside (List.cons_ne_nil _ _)
      fresh query
  have ends : Ends (whole registry query)
      (fun _ after => after.context.collection =
        (query.owners context.model).getLast?.or context.collection)
      (fun _ _ => True) { context, ambient } := by
    rw [ends_whole]
    exact (credits { context, ambient } rfl).weaken fun _ _ credited => credited.2.1
  obtain ⟨inquiries, walked⟩ := recorded_of_run walked
  exact ends.done_of_ok walked

end Walk

end Rewriting

namespace Access

variable {param : String} {context : Context}

theorem restrictedOver_selects (refers : context.binding.isReference = true) (predicate : Expr)
    (ambient : Ambient) :
    Ends (Act.build (restrictedOver param context predicate) : Act Rewriting.Error (Option Expr))
      (fun answer _ => ∀ offered, answer = some offered → context.binding.isReference = true ∧
        ∃ node stamp method lambda, context.node? = some node ∧ lambda.isLambda = true ∧
          offered = .call stamp method [node, lambda])
      (fun _ _ => True) ambient := by
  rw [Act.ends_build]
  unfold restrictedOver
  cases under : context.node? with
  | none => exact fun offered none => absurd none (by simp)
  | some node =>
    rintro offered ⟨⟩
    exact ⟨refers, node, _, _, _, rfl, rfl, rfl⟩

/-- What is read from a collection is a data reference. -/
theorem isReference_of_reading? {reading : DataReference × String}
    (reads : context.reading? = some reading) : context.binding.isReference = true := by
  obtain ⟨target, refers, -⟩ := Option.bind_eq_some_iff.mp reads
  simp [Binding.isReference, refers]

/-- Row filters of either kind select rows. -/
theorem RowFilter.selects (filter : RowFilter) (param : String) :
    Selects (filter.over param) := by
  intro context ambient
  cases filter with
  | collections rows =>
    change Ends (rows.filterOver param context) _ _ _
    unfold CollectionFilter.filterOver
    split
    · exact fun _ none => absurd none (by simp)
    · next reads =>
      have refers := isReference_of_reading? reads
      split
      · rw [ends_bind, Act.ends_build, ends_bind, Act.ends_build]
        split
        · exact restrictedOver_selects refers _ _
        · trivial
      · exact fun _ none => absurd none (by simp)
  | security rows =>
    change Ends (rows.filterOver param context) _ _ _
    unfold RowSecurity.filterOver
    split
    · exact fun _ none => absurd none (by simp)
    · split
      · exact fun _ none => absurd none (by simp)
      · next reads =>
        have refers := isReference_of_reading? reads
        split
        · exact fun _ none => absurd none (by simp)
        · split
          · exact fun _ none => absurd none (by simp)
          · rw [ends_bind, Act.ends_build]
            split
            · trivial
            · rw [ends_bind]
              unfold Act.attempt
              rw [ends_bind, Act.ends_build, Act.ends_ofExcept]
              split
              · exact restrictedOver_selects refers _ _
              · trivial

/-- With row filters and any inspectors, the collection that is reported for a chain of calls over a
collection is the last owner in the other arguments, and the collection itself if these have none:
if they are lambdas or hold no data references. -/
theorem collection_of_chain {model : Model} {request : RequestContext} {maxDepth : Nat}
    (inspectors : List (Hook Bool)) (filters : List RowFilter) (sourcer : Option Sourcer)
    {query tree : Expr} {stamp : Stamp} {qualifier : Option String} {name : String}
    {args : List Expr} {collection entity : String} {ambient : Ambient} {after : Walk.State}
    (heads : query.head = .source stamp qualifier name args)
    (found : model.resolve? qualifier name = some (.collection collection entity))
    (walked : run { inspectors, filters := filters.map (RowFilter.over rowParameter), sourcer }
      query { model, request, maxDepth } ambient = (.ok tree, after)) :
    after.context.collection =
        some ((query.others.flatMap (Expr.owners model)).getLast?.getD collection) ∧
      ((∀ e ∈ query.others, e.isLambda = true ∨ e.hasDataReference = false) →
        after.context.collection = some collection) := by
  have selecting : Registry.Selecting
      { inspectors, filters := filters.map (RowFilter.over rowParameter), sourcer } := by
    constructor
    · rfl
    · rfl
    · intro hook listed
      obtain ⟨filter, -, rfl⟩ := List.mem_map.mp listed
      exact filter.selects rowParameter
  have reported : after.context.collection =
      some ((query.others.flatMap (Expr.owners model)).getLast?.getD collection) := by
    have owned : query.head.owner? model = some collection := by
      simp [heads, Expr.owner?, Binding.ofNode, found, Binding.owner?]
    have source : query.head.isSource = true := by rw [heads, Expr.isSource]
    rw [Walk.collection_of_run selecting rfl rfl walked]
    change (query.owners model).getLast?.or none = _
    rw [Expr.owners_chain, Expr.owners_of_isSource source, owned, Option.toList_some,
      List.singleton_append, List.getLast?_cons, Option.or_none]
  refine ⟨reported, fun bare => ?_⟩
  have unowned : query.others.flatMap (Expr.owners model) = [] := by
    rw [List.flatMap_eq_nil_iff]
    intro e listed
    rcases bare e listed with bodied | free
    · exact Expr.owners_of_isLambda bodied
    · exact Expr.owners_of_free e free
  rw [reported, unowned, List.getLast?_nil, Option.getD_none]

/-- A predicate that reads the archive leaves customers what they are, row security or not. -/
theorem archived_customers_reported :
    let model : Model := {
      space := "shop"
      entityTypes := [
        ("Customer", { name := "Customer", fields := [("owner_id", ⟨.string, true⟩)] })]
      elements := [("Customers", .collection "Customers" "Customer"),
        ("Archive", .collection "Archive" "Customer")] }
    let store : Evaluation.Store := { collections := [("Customers", []), ("Archive", [])] }
    let authorizer : ReadAuthorizer := ⟨.authenticated, []⟩
    let filters : List RowFilter := [.security { protectedNames := ["Customers", "Archive"] }]
    let rows : QueryType := .queryable (.entity "Customer")
    let query : Expr := .call ⟨3, rows⟩ .filter [.source ⟨0, rows⟩ none "Customers" [],
      .lambda ⟨2, .bool⟩ "c" (.call ⟨4, .bool⟩ .any [.source ⟨1, rows⟩ none "Archive" []])]
    let registry : Registry := {
      inspectors := [authorizer.hook]
      filters := filters.map (RowFilter.over rowParameter)
      sourcer := some store.sourcer }
    let context : Context := { model, request := .ofCaller (.user ⟨7⟩), maxDepth := 16 }
    ∃ tree after, run registry query context { supply := ⟨5⟩ } = (.ok tree, after) ∧
      after.context.collection = some "Customers" := by
  intro model store authorizer filters rows query registry context
  have succeeds : (run registry query context { supply := ⟨5⟩ }).1.toOption.isSome = true := by
    decide +kernel
  rcases walked : run registry query context { supply := ⟨5⟩ } with ⟨error | tree, after⟩
  · rw [walked] at succeeds
    contradiction
  · have found : model.resolve? none "Customers" = some (.collection "Customers" "Customer") := rfl
    have reported := collection_of_chain [authorizer.hook] filters (some store.sourcer)
      (show query.head = .source ⟨0, rows⟩ none "Customers" [] from rfl) found walked
    refine ⟨tree, after, rfl, reported.2 ?_⟩
    intro e listed
    cases List.mem_singleton.mp listed
    exact .inl rfl

/-- A page of customers, of as many as there are orders, is reported as one of orders. -/
theorem paged_customers_misreported :
    let model : Model := {
      space := "shop"
      entityTypes := [("Customer", { name := "Customer", fields := [("Id", ⟨.int, true⟩)] }),
        ("Order", { name := "Order", fields := [("Id", ⟨.int, true⟩)] })]
      elements := [("Customers", .collection "Customers" "Customer"),
        ("Orders", .collection "Orders" "Order")] }
    let store : Evaluation.Store := { collections := [("Customers", []), ("Orders", [])] }
    let customers : QueryType := .queryable (.entity "Customer")
    let query : Expr := .call ⟨8, customers⟩ .take [
      .call ⟨5, customers⟩ .skip [
        .call ⟨3, customers⟩ .filter [.source ⟨0, customers⟩ none "Customers" [],
          .lambda ⟨2, .bool⟩ "c" (.value ⟨1, .bool⟩ (.bool true))],
        .value ⟨4, .int⟩ (.ofUInt64 1)],
      .call ⟨7, .int⟩ .count [.source ⟨6, .queryable (.entity "Order")⟩ none "Orders" []]]
    let walked := run { sourcer := some store.sourcer } query
      { model, request := .ofCaller .anonymous, maxDepth := 16 } { supply := ⟨9⟩ }
    query.head = .source ⟨0, customers⟩ none "Customers" [] ∧
      walked.1.toOption.isSome = true ∧ walked.2.context.collection = some "Orders" := by
  decide +kernel

end Access

end QueryRewriting
