import QueryRewriting.Proofs.Binding
import QueryRewriting.Proofs.Rewriting.Account

/-! Walks among onlookers, hooks that never offer a tree. Such a walk enters the nodes of its query
as they were submitted, and none below a data reference. Hooks are consulted about these nodes only,
whatever the walk ends in, and about each of them if it succeeds. -/
namespace QueryRewriting.Rewriting

open Schema Walk

/-- From a node with the nodes around it, the innermost first, a walk enters another one: the node
itself, or what it enters from a child of a node that is no data reference. -/
inductive Enters : List Expr → List Expr → Prop
  | here (place : List Expr) : Enters place place
  | inner {e child : Expr} {around place : List Expr} : e.isSource = false → child ∈ e.children →
      Enters (child :: e :: around) place → Enters (e :: around) place

theorem Enters.child {top around : List Expr} {e child : Expr} (enters : Enters top (e :: around))
    (proper : e.isSource = false) (member : child ∈ e.children) :
    Enters top (child :: e :: around) := by
  generalize reached : e :: around = place at enters
  induction enters with
  | here =>
    subst reached
    exact .inner proper member (.here _)
  | inner plain inside _ ih => exact .inner plain inside (ih reached)

/-- A hook that never offers a tree. -/
def Hook.Declines (hook : TreeHook) : Prop :=
  ∀ context ambient offered after,
    (hook.run context).run.run ambient = (.ok offered, after) → offered = none

/-- A registry in which only the sourcer offers trees. -/
structure Registry.Onlooking (registry : Registry) : Prop where
  normalizers : ∀ hook ∈ registry.normalizers, hook.Declines
  expanders : ∀ hook ∈ registry.expanders, hook.Declines
  filters : ∀ hook ∈ registry.filters, hook.Declines

/-- The names of the hooks that are consulted about every node. -/
def Registry.onlookers (registry : Registry) : Point → List String
  | .normalize => registry.normalizers.map Hook.name
  | .inspect => registry.inspectors.map Hook.name
  | .filter => registry.filters.map Hook.name
  | .expand | .source _ => []

/-- A frame is about a node of a place, which is bound under the nodes around it. -/
structure FrameAt (model : Model) (place : List Expr) (frame : Frame) (depth : Nat) : Prop where
  depth : depth = place.length + 1
  frame : ∃ e around, place = e :: around ∧ frame.node = some e ∧
    Binding.bind model around e = .ok frame.binding

/-- Consultations about places that a walk of a query enters. -/
def Faithful (model : Model) (query : Expr) (seen : List Consultation) : Prop :=
  ∀ entry ∈ seen, ∃ place, Enters [query] place ∧ FrameAt model place entry.frame entry.depth

/-- At some points hooks of some names have been consulted about places. -/
def Covers (model : Model) (asked : Point → String → List Expr → Prop)
    (seen : List Consultation) : Prop :=
  ∀ point name place, asked point name place → ∃ entry ∈ seen, entry.point = point ∧
    entry.hook = name ∧ FrameAt model place entry.frame entry.depth

theorem Faithful.nil {model : Model} {query : Expr} : Faithful model query [] := by
  intro entry member
  contradiction

theorem Faithful.append {model : Model} {query : Expr} {seen more : List Consultation}
    (first : Faithful model query seen) (rest : Faithful model query more) :
    Faithful model query (more ++ seen) := by
  intro entry member
  rcases List.mem_append.mp member with later | earlier
  · exact rest entry later
  · exact first entry earlier

/-- Hooks are consulted about places of the query only, and, if a step succeeds, as is asked for. -/
def attending (model : Model) (query : Expr) :
    Account (Point → String → List Expr → Prop) where
  done asked before after := ∃ seen, after.context.journal = seen ++ before.context.journal ∧
    Faithful model query seen ∧ Covers model asked seen
  failed _ _ before after := ∃ seen, after.context.journal = seen ++ before.context.journal ∧
    Faithful model query seen
  idle _ _ _ := False
  join first rest point name place := first point name place ∨ rest point name place
  idle_join _ := by simp only [false_or]
  join_idle _ := by simp only [or_false]
  done_idle _ _ := ⟨[], rfl, .nil, fun _ _ _ => False.elim⟩
  done_join := by
    rintro first rest before middle after ⟨seen, added, faithful, covers⟩
      ⟨more, added', faithful', covers'⟩
    refine ⟨more ++ seen, ?_, faithful.append faithful', ?_⟩
    · rw [added', added, List.append_assoc]
    · rintro point name place (earlier | later)
      · obtain ⟨entry, member, found⟩ := covers point name place earlier
        exact ⟨entry, List.mem_append_right _ member, found⟩
      · obtain ⟨entry, member, found⟩ := covers' point name place later
        exact ⟨entry, List.mem_append_left _ member, found⟩
  failed_first := id
  failed_rest := by
    rintro first rest error before middle after - ⟨seen, added, faithful, -⟩
      ⟨more, added', faithful'⟩
    refine ⟨more ++ seen, ?_, faithful.append faithful'⟩
    rw [added', added, List.append_assoc]

theorem attending_unstacked (model : Model) (query : Expr) : (attending model query).Unstacked :=
  ⟨fun _ _ _ => .rfl, fun _ _ _ _ => .rfl⟩

/-- A step that hands the setting back and consults hooks about places of the query only. If it
succeeds, its value is good and hooks have been consulted as is asked for. -/
abbrev Attends {α : Type} (model : Model) (query : Expr) (good : α → Prop)
    (asked : Point → String → List Expr → Prop) (step : Walk α) (before : Recording) : Prop :=
  (attending model query).Charges asked step good before

section Rules

variable {α β : Type} {model : Model} {query : Expr} {good : α → Prop} {good' : β → Prop}
  {asked asked' wanted : Point → String → List Expr → Prop} {step : Walk α} {before : Recording}

theorem Attends.fewer (attends : Attends model query good asked step before)
    (fewer : ∀ point name place, asked' point name place → asked point name place) :
    Attends model query good asked' step before := by
  apply Ends.weaken attends
  rintro value after ⟨same, ⟨seen, added, faithful, covers⟩, fine⟩
  exact ⟨same, ⟨seen, added, faithful,
    fun point name place wanted => covers point name place (fewer point name place wanted)⟩, fine⟩

/-- Whatever is asked for of two steps is asked for of the first or of the one after it. -/
theorem Attends.bind {next : α → Walk β} (first : Attends model query good asked step before)
    (rest : ∀ value middle, middle.context.setting = before.context.setting → good value →
      Attends model query good' asked' (next value) middle)
    (divided : ∀ point name place, wanted point name place →
      asked point name place ∨ asked' point name place) :
    Attends model query good' wanted (step >>= next) before :=
  Attends.fewer (Account.Charges.bind first rest) divided

/-- A step that leaves the setting and the journal as they are. -/
theorem attends_kept (kept : Keeps (fun context => (context.setting, context.journal)) step) :
    Attends model query (fun _ => True) (fun _ _ _ => False) step before := by
  apply (kept before).mono
  · intro value after same
    obtain ⟨setting, journal⟩ := Prod.mk.inj same
    exact ⟨setting, ⟨[], journal, .nil, fun _ _ _ => False.elim⟩, trivial⟩
  · intro error after same
    obtain ⟨-, journal⟩ := Prod.mk.inj same
    exact ⟨[], journal, .nil⟩

theorem attends_nested {node : Option Expr}
    (inside : ∀ entered, before.context.push node = .ok entered →
      Attends model query good asked step { before with context := entered }) :
    Attends model query good asked (nested node step) before :=
  Account.charges_nested (attending_unstacked model query) (fun _ _ => ⟨[], rfl, .nil⟩) inside

theorem attends_mapM {visit : Expr → Walk Expr}
    {each : Expr → Point → String → List Expr → Prop} {nodes : List Expr}
    (visits : ∀ node ∈ nodes, ∀ state, state.context.setting = before.context.setting →
      Attends model query (fun _ => True) (each node) (visit node) state) :
    Attends model query (fun _ => True)
      (fun point name place => ∃ node ∈ nodes, each node point name place)
      (nodes.mapM visit) before := by
  let all (nodes : List Expr) (point : Point) (name : String) (place : List Expr) : Prop :=
    ∃ node ∈ nodes, each node point name place
  have none : all [] = (attending model query).idle := by
    funext point name place
    simp [all, attending]
  have some (node : Expr) (rest : List Expr) :
      all (node :: rest) = (attending model query).join (each node) (all rest) := by
    funext point name place
    simp [all, attending]
  have visited : (attending model query).Charges (all nodes) _ _ before :=
    Account.charges_mapM none some visits
  exact visited.mono fun _ _ => trivial

end Rules

section Frame

variable {α : Type} {model : Model} {query e : Expr} {around : List Expr} {registry : Registry}
  {before : Recording} {point : Point}

/-- The current frame is about a place that the walk of the query enters. -/
structure Here (model : Model) (query : Expr) (place : List Expr) (context : Context) : Prop where
  entered : Enters [query] place
  placed : FrameAt model place context.frame context.depth

theorem Here.of_setting {place : List Expr} {context other : Context}
    (here : Here model query place context) (same : other.setting = context.setting) :
    Here model query place other := by
  have frame : other.setting.frame = context.setting.frame := congrArg Context.frame same
  have depth : other.setting.depth = context.setting.depth := congrArg Context.depth same
  exact ⟨here.entered, frame ▸ depth ▸ here.placed⟩

/-- The hooks of some names at a point of the visit of a place. -/
def asking (point : Point) (names : List String) (place : List Expr) :
    Point → String → List Expr → Prop :=
  fun point' name place' => point' = point ∧ name ∈ names ∧ place' = place

theorem asking_cons {name : String} {names : List String} {place : List Expr} {point' : Point}
    {name' : String} {place' : List Expr}
    (wanted : asking point (name :: names) place point' name' place') :
    asking point [name] place point' name' place' ∨
      asking point names place point' name' place' := by
  obtain ⟨rfl, listed, rfl⟩ := wanted
  rcases List.mem_cons.mp listed with rfl | listed
  · exact .inl ⟨rfl, List.mem_singleton_self _, rfl⟩
  · exact .inr ⟨rfl, listed, rfl⟩

theorem attends_none {place : List Expr} {good : α → Prop} {value : α} (fine : good value) :
    Attends model query good (asking point [] place) (pure value) before := by
  apply Attends.fewer (Account.charges_pure fine)
  rintro point' name place' ⟨-, never, -⟩
  contradiction

/-- A hook is consulted about the node of the frame. -/
theorem attends_consult {answer : α → Answer} {place : List Expr} {hook : Hook α}
    {good : α → Prop}
    (here : Here model query place before.context)
    (answers : ∀ context ambient value after,
      (hook.run context).run.run ambient = (.ok value, after) → good value) :
    Attends model query good (asking point [hook.name] place) (consult answer point hook)
      before := by
  let entry : Consultation := ⟨point, hook.name, before.context.frame, before.context.depth⟩
  have faithful : Faithful model query [entry] := by
    intro other member
    cases List.mem_singleton.mp member
    exact ⟨place, here.entered, here.placed⟩
  apply (ends_consult _ _ _).mpr
  split
  · next value ambient answered =>
    refine ⟨rfl, ⟨[entry], rfl, faithful, ?_⟩, answers _ _ _ _ answered⟩
    rintro _ name _ ⟨rfl, named, rfl⟩
    cases List.mem_singleton.mp named
    exact ⟨entry, List.mem_singleton_self _, rfl, rfl, here.placed⟩
  · exact ⟨[entry], rfl, faithful⟩

/-- Onlookers are asked for a tree one after the other, all in vain. -/
theorem attends_replacement? {place : List Expr} {hooks : List TreeHook}
    (here : Here model query place before.context) (node : Expr)
    (declines : ∀ hook ∈ hooks, hook.Declines) :
    Attends model query (· = none) (asking point (hooks.map Hook.name) place)
      (replacement? point node hooks) before := by
  induction hooks generalizing before with
  | nil => exact attends_none rfl
  | cons hook rest ih =>
    obtain ⟨first, others⟩ := List.forall_mem_cons.mp declines
    refine (attends_consult here first).bind (fun offered middle same none => ?_)
      fun _ _ _ => asking_cons
    subst none
    exact ih (here.of_setting same) others

theorem attends_normalize {place : List Expr} (here : Here model query place before.context)
    (node : Expr) (declines : ∀ hook ∈ registry.normalizers, hook.Declines) :
    Attends model query (fun _ => True)
      (asking .normalize (registry.normalizers.reverse.map Hook.name) place)
      (normalize registry node) before := by
  have declines : ∀ hook ∈ registry.normalizers.reverse, hook.Declines :=
    fun hook member => declines hook (List.mem_reverse.mp member)
  apply (attends_replacement? here node declines).bind
  · intro offered middle _ none
    subst none
    exact Account.charges_pure trivial
  · intro point name place
    exact .inl

theorem attends_inspect {place : List Expr} (here : Here model query place before.context)
    (node : Expr) (inspectors : List (Hook Bool)) :
    Attends model query (fun _ => True) (asking .inspect (inspectors.map Hook.name) place)
      (inspect node inspectors) before := by
  induction inspectors generalizing before with
  | nil => exact attends_none trivial
  | cons hook rest ih =>
    have asked : Attends model query (fun _ => True) (asking .inspect [hook.name] place)
        (consult .verdict .inspect hook) before := attends_consult here fun _ _ _ _ _ => trivial
    refine asked.bind (fun passes middle same _ => ?_) fun _ _ _ => asking_cons
    cases passes with
    | true => exact ih (here.of_setting same)
    | false =>
      unfold Attends Account.Charges
      simp only [Bool.false_eq_true, if_false, ends_bind, ends_context, ends_event]
      exact ⟨[], rfl, .nil⟩

theorem attends_filtered {place : List Expr} {filters : List TreeHook}
    (here : Here model query place before.context) (revisit : Expr → Walk Expr)
    (node current : Expr) (declines : ∀ hook ∈ filters, hook.Declines) :
    Attends model query (fun _ => True) (asking .filter (filters.map Hook.name) place)
      (filtered revisit node filters current) before := by
  induction filters generalizing before with
  | nil => exact attends_none trivial
  | cons hook rest ih =>
    obtain ⟨first, others⟩ := List.forall_mem_cons.mp declines
    refine (attends_consult here first).bind (fun offered middle same none => ?_)
      fun _ _ _ => asking_cons
    subst none
    exact ih (here.of_setting same) others

theorem attends_source {place : List Expr} (here : Here model query place before.context)
    (current : Expr) :
    Attends model query (fun _ => True) (fun _ _ _ => False) (source registry current) before := by
  have rootless (context : Context) (root : Option Root) :
      ({ context with root }.setting, { context with root }.journal) =
        (context.setting, context.journal) := rfl
  unfold source Attends Account.Charges
  rw [ends_bind, ends_context]
  split
  · split
    · split
      · exact ⟨[], rfl, .nil⟩
      · next sourcer _ =>
        have asked (mode : SourceMode) : Attends model query (fun _ => True)
            (asking (.source mode) [sourcer.name] place)
            (consult .offer (.source mode) (sourcer.hook mode)) before :=
          attends_consult here fun _ _ _ _ _ => trivial
        refine (asked _).bind (fun sourced middle _ _ => ?_) fun _ _ _ => .inr
        cases sourced with
        | none => exact ⟨[], rfl, .nil⟩
        | some sourced =>
          dsimp only
          split
          · exact attends_kept (follows_takeRoot (fun _ _ => rootless _ _) _ _ _ _)
          · exact attends_kept (follows_takeFragment _ _ _ _ _)
    · exact Account.charges_pure trivial
  · exact Account.charges_pure trivial

theorem attends_expansion {place : List Expr} (here : Here model query place before.context)
    (node : Expr) (isReference : Bool) (declines : ∀ hook ∈ registry.expanders, hook.Declines) :
    Attends model query (· = none) (fun _ _ _ => False) (expansion registry node isReference)
      before := by
  have declines : ∀ hook ∈ registry.expanders.reverse, hook.Declines :=
    fun hook member => declines hook (List.mem_reverse.mp member)
  unfold expansion
  split
  · exact (attends_replacement? here node declines).fewer fun _ _ _ never => never.elim
  · exact Account.charges_pure rfl

/-- What is left of a visit after the children: nothing comes of it but consultations. -/
theorem attends_settled {place : List Expr} (onlooking : registry.Onlooking)
    (here : Here model query place before.context) (revisit : Expr → Walk Expr)
    (node rewritten : Expr) (isReference : Bool) :
    Attends model query (fun _ => True)
      (fun point name place' =>
        asking .inspect (registry.inspectors.reverse.map Hook.name) place point name place' ∨
        asking .filter (registry.filters.map Hook.name) place point name place')
      (do
        inspect node registry.inspectors.reverse
        let expanded ← expansion registry node isReference
        let current ← expandedOr revisit rewritten expanded
        let current ← filtered revisit node registry.filters current
        source registry current) before := by
  refine (attends_inspect here node _).bind (fun _ middle same _ => ?_) fun _ _ _ => id
  have here := here.of_setting same
  refine (attends_expansion here node isReference onlooking.expanders).bind
    (fun expanded after same none => ?_) fun _ _ _ => .inr
  subst none
  rw [expandedOr, pure_bind]
  have here := here.of_setting same
  apply (attends_filtered here revisit node rewritten onlooking.filters).bind
    fun current final still _ => attends_source (here.of_setting still) current
  intro point name place'
  exact .inl

/-- The frames of some nodes with the unbound one around them all, and nothing substituted. -/
structure Amid (model : Model) (around : List Expr) (context : Context) : Prop where
  model : context.model = model
  bare : context.substitutions = []
  nodes : context.frames.filterMap Frame.node = around
  depth : context.depth = around.length + 1

theorem Amid.of_setting {context other : Context} (amid : Amid model around context)
    (same : other.setting = context.setting) : Amid model around other := by
  constructor
  · exact (congrArg (·.model) same : other.model = context.model).trans amid.model
  · exact (congrArg (·.substitutions) same : other.substitutions = _).trans amid.bare
  · exact (congrArg (·.frames.filterMap Frame.node) same :
      other.frames.filterMap Frame.node = _).trans amid.nodes
  · exact (congrArg (·.frames.length) same : other.depth = context.depth).trans amid.depth

/-- The frame of a node amid others holds the binding that the node has under these. -/
theorem Amid.push {context entered : Context} (amid : Amid model around context)
    (pushed : context.push (some e) = .ok entered) :
    Amid model (e :: around) entered ∧ ∃ binding, entered.frame = ⟨some e, binding⟩ ∧
      binding.isReference = e.isSource ∧ Binding.bind model around e = .ok binding := by
  obtain ⟨binding, frames, bound⟩ := Context.entered_some pushed
  have kept := Context.push_frames pushed
  have modelled : entered.model = model := by
    rw [kept]
    exact amid.model
  refine ⟨⟨modelled, ?_, ?_, ?_⟩, binding, Context.frame_of_frames frames,
    (Context.isSource_of_bindIn bound).symm, ?_⟩
  · rw [kept]
    exact amid.bare
  · rw [frames, ← amid.nodes]
    rfl
  · rw [Context.depth, frames, List.length_cons, List.length_cons]
    exact congrArg (· + 1) amid.depth
  · rw [← modelled, ← amid.nodes]
    exact Context.bindIn_ok bound

/-- From every place of the query the walk enters what is below and consults onlookers about it. -/
def Tours (model : Model) (query : Expr) (registry : Registry) (visit : Expr → Walk Expr) : Prop :=
  ∀ e around before, Enters [query] (e :: around) → Amid model around before.context →
    Attends model query (fun _ => True)
      (fun point name place => Enters (e :: around) place ∧ name ∈ registry.onlookers point)
      (visit e) before

theorem attends_descended {visit : Expr → Walk Expr} (tours : Tours model query registry visit)
    (entered : Enters [query] (e :: around)) (amid : Amid model (e :: around) before.context) :
    Attends model query (fun _ => True)
      (fun point name place => ∃ child ∈ e.children, e.isSource = false ∧
        Enters (child :: e :: around) place ∧ name ∈ registry.onlookers point)
      (descended visit e e.isSource) before := by
  unfold descended
  cases proper : e.isSource with
  | true =>
    apply Attends.fewer (Account.charges_pure trivial)
    rintro point name place ⟨child, -, never, -⟩
    contradiction
  | false =>
    have visits : Attends model query (fun _ => True)
        (fun point name place => ∃ child ∈ e.children,
          Enters (child :: e :: around) place ∧ name ∈ registry.onlookers point)
        (e.children.mapM visit) before := by
      apply attends_mapM
      intro child member state same
      exact tours child (e :: around) state (entered.child proper member) (amid.of_setting same)
    have made := (Account.charges_children visits).mono fun _ _ => trivial
    apply Attends.fewer made
    rintro point name place ⟨child, member, -, below⟩
    exact ⟨child, member, below⟩

theorem attends_normalized {visit : Expr → Walk Expr} {binding : Binding}
    (onlooking : registry.Onlooking) (tours : Tours model query registry visit)
    (here : Here model query (e :: around) before.context)
    (amid : Amid model (e :: around) before.context)
    (frame : before.context.frame = ⟨some e, binding⟩)
    (refers : binding.isReference = e.isSource) (revisit : Expr → Walk Expr) :
    Attends model query (fun _ => True)
      (fun point name place =>
        (∃ child ∈ e.children, e.isSource = false ∧
          Enters (child :: e :: around) place ∧ name ∈ registry.onlookers point) ∨
        asking .inspect (registry.inspectors.reverse.map Hook.name) (e :: around) point name place ∨
        asking .filter (registry.filters.map Hook.name) (e :: around) point name place)
      (normalized registry visit revisit e) before := by
  have now : before.context.binding = binding := congrArg Frame.binding frame
  have under : before.context.node? = some e := congrArg Frame.node frame
  unfold normalized Attends Account.Charges
  rw [ends_bind, ends_context, ends_bind, ends_context, now, under, Option.getD_some, refers]
  apply (attends_descended tours here.entered amid).bind fun rewritten middle same _ =>
    attends_settled onlooking (here.of_setting same) revisit e rewritten _
  intro point name place
  exact id

theorem attends_inFrame {visit : Expr → Walk Expr} {binding : Binding}
    (onlooking : registry.Onlooking) (tours : Tours model query registry visit)
    (entered : Enters [query] (e :: around)) (amid : Amid model (e :: around) before.context)
    (frame : before.context.frame = ⟨some e, binding⟩)
    (refers : binding.isReference = e.isSource)
    (bound : Binding.bind model around e = .ok binding) (revisit : Expr → Walk Expr) :
    Attends model query (fun _ => True)
      (fun point name place => Enters (e :: around) place ∧ name ∈ registry.onlookers point)
      (inFrame registry visit revisit e) before := by
  have here : Here model query (e :: around) before.context := by
    refine ⟨entered, amid.depth, e, around, rfl, ?_, ?_⟩ <;> rw [frame]
    exact bound
  rw [inFrame]
  apply (attends_normalize here e onlooking.normalizers).bind fun _ middle same _ =>
    attends_normalized onlooking tours (here.of_setting same) (amid.of_setting same)
      ((congrArg Context.frame same : middle.context.setting.frame = _).trans frame) refers
      revisit
  rintro point name place ⟨below, listed⟩
  cases below with
  | here =>
    cases point with
    | normalize => exact .inl ⟨rfl, by simpa [Registry.onlookers] using listed, rfl⟩
    | inspect => exact .inr (.inr (.inl ⟨rfl, by simpa [Registry.onlookers] using listed, rfl⟩))
    | filter => exact .inr (.inr (.inr ⟨rfl, listed, rfl⟩))
    | expand | source => contradiction
  | inner proper member below => exact .inr (.inl ⟨_, member, proper, below, listed⟩)

/-- By induction on the frames that may still be entered. -/
theorem tours_walk (onlooking : registry.Onlooking) (room : Nat) :
    Tours model query registry (visit registry room) := by
  induction room with
  | zero =>
    intro e around before _ _
    exact ⟨[], rfl, .nil⟩
  | succ room ih =>
    intro e around before entered amid
    apply (ends_visit (Context.substitution?_of_bare amid.bare e)).mpr
    apply attends_nested
    intro inside pushed
    obtain ⟨amid, binding, frame, refers, bound⟩ := amid.push pushed
    exact attends_inFrame onlooking ih entered amid frame refers bound _

end Frame

/-- Among onlookers, every consultation of a walk is about a node of the query that the walk enters,
in a frame with the binding that the node has under the nodes around it. A walk that succeeds has
consulted the onlookers about all of them. -/
theorem journal_of_run {registry : Registry} (onlooking : registry.Onlooking) (model : Model)
    (query : Expr) (request : RequestContext) (maxDepth : Nat) (ambient : Ambient) :
    let walked := run registry query { model, request, maxDepth } ambient
    Faithful model query walked.2.context.journal ∧
      (walked.1.isOk = true → Covers model (fun point name place => Enters [query] place ∧
        name ∈ registry.onlookers point) walked.2.context.journal) := by
  intro walked
  have attends : Attends model query (fun _ => True)
      (fun point name place => Enters [query] place ∧ name ∈ registry.onlookers point)
      (whole registry query) { context := { model, request, maxDepth }, ambient } := by
    apply (ends_whole _ _).mpr
    cases maxDepth - ({ model, request, maxDepth } : Context).depth with
    | zero => exact ⟨[], rfl, .nil⟩
    | succ room =>
      apply attends_nested
      intro entered pushed
      cases Context.push_none pushed
      exact tours_walk onlooking room query [] _ (.here _) ⟨rfl, rfl, rfl, rfl⟩
  rcases ran : walked with ⟨error | tree, after⟩ <;>
    obtain ⟨inquiries, ran⟩ := recorded_of_run ran
  · obtain ⟨seen, added, faithful⟩ := Ends.failed_of_error attends ran
    rw [List.append_nil] at added
    rw [added]
    refine ⟨faithful, ?_⟩
    intro never
    contradiction
  · obtain ⟨-, ⟨seen, added, faithful, covers⟩, -⟩ := Ends.done_of_ok attends ran
    rw [List.append_nil] at added
    rw [added]
    exact ⟨faithful, fun _ => covers⟩

end QueryRewriting.Rewriting
