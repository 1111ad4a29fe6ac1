import QueryRewriting.Proofs.Binding
import QueryRewriting.Proofs.Expr.Children
import QueryRewriting.Proofs.Rewriting.Regime

/-! Disciplines of a walk. A discipline says what holds of the root and of the inquiries so far,
what a failure comes with, which trees may stand for a node while it is under visit, and which trees
a visit may make of it. Its laws are about one inquiry, one sourcing or one rebuilt node each, and
they may use what the hook in question can see and what it has really answered; that every walk
keeps to it is proved once, along the recursion of the visits. -/
namespace QueryRewriting.Rewriting

open Schema

variable {model : Model} {request : RequestContext}

/-- In a walk over a model for a request, a context is that of a node in its frame. -/
structure Context.About (model : Model) (request : RequestContext) (node : Expr)
    (context : Context) : Prop where
  model_eq : context.model = model
  request_eq : context.request = request
  under : context.node? = some node
  bound : ∃ outer, context.bindIn outer node = .ok context.binding

namespace Context.About

variable {node : Expr} {context other : Context}

/-- A context is about the node that its setting is about. -/
theorem of_setting (about : other.About model request node) (same : context.setting = other) :
    context.About model request node := by
  subst same
  exact ⟨about.model_eq, about.request_eq, about.under, about.bound⟩

theorem isSource (about : context.About model request node) :
    node.isSource = context.binding.isReference := by
  obtain ⟨outer, bound⟩ := about.bound
  exact Context.isSource_of_bindIn bound

theorem reference {target : DataReference} (about : context.About model request node)
    (refers : context.binding.reference? = some target) :
    context.binding = .reference target ∧
      ∃ stamp, node = .source stamp target.qualifier target.name target.args ∧
        model.resolve? target.qualifier target.name = some target.element := by
  obtain ⟨outer, bound⟩ := about.bound
  have found := Context.bindIn_reference bound refers
  rwa [about.model_eq] at found

/-- A data reference is bound the same in all of its frames. -/
theorem binding_eq (about : context.About model request node)
    (again : other.About model request node) (source : node.isSource = true) :
    context.binding = other.binding := by
  rw [about.isSource] at source
  obtain ⟨target, refers⟩ := Option.isSome_iff_exists.mp source
  obtain ⟨bound, stamp, rfl, resolved⟩ := about.reference refers
  obtain ⟨outer, rebound⟩ := again.bound
  have same := Context.bindIn_ok rebound
  rw [again.model_eq, Binding.ofNode_source stamp resolved] at same
  exact bound.trans (Except.ok.inj same)

theorem exists_frames (about : context.About model request node) :
    ∃ frame outer, context.frames = frame :: outer := by
  have under := about.under
  cases frames : context.frames with
  | nil => simp [Context.node?, Context.frame, frames] at under
  | cons frame outer => exact ⟨frame, outer, rfl⟩

/-- The frame of a node is entered. -/
theorem of_push (pushed : other.push (some node) = .ok context) (modelled : other.model = model)
    (requested : other.request = request) : context.About model request node := by
  obtain ⟨binding, bound, rfl⟩ := Context.push_some pushed
  exact ⟨modelled, requested, rfl, _, bound⟩

end Context.About

/-- How far a walk has come: its root, and the inquiries so far, the latest first. -/
structure Progress where
  root : Option Root
  inquiries : List Inquiry

/-- How far a walk has come. -/
def Recording.progress (recording : Recording) : Progress :=
  ⟨recording.context.root, recording.inquiries⟩

/-- A root that there was is still there, and inquiries have only been added. -/
structure Later (before after : Progress) : Prop where
  root : ∀ root, before.root = some root → after.root = some root
  inquiries : before.inquiries <:+ after.inquiries

theorem Later.refl (progress : Progress) : Later progress progress :=
  ⟨fun _ same => same, List.suffix_rfl⟩

theorem Later.trans {first second third : Progress} (early : Later first second)
    (late : Later second third) : Later first third :=
  ⟨fun root same => late.root root (early.root root same), early.inquiries.trans late.inquiries⟩

/-- Asking leaves the root as it is. -/
theorem Later.asked {root : Option Root} {inquiry : Inquiry} {inquiries : List Inquiry} :
    Later ⟨root, inquiries⟩ ⟨root, inquiry :: inquiries⟩ :=
  ⟨fun _ same => same, List.suffix_cons _ _⟩

namespace Progress

/-- A hook other than the sourcer has offered a tree. -/
def Offered (progress : Progress) (tree : Expr) : Prop :=
  ∃ inquiry ∈ progress.inquiries, inquiry.isSourcing = false ∧
    inquiry.answer = .offer (some tree)

/-- The sourcer has answered with a tree. -/
def Answered (progress : Progress) (mode : SourceMode) (sourced : Expr) : Prop :=
  ∃ inquiry ∈ progress.inquiries, inquiry.point = .source mode ∧
    inquiry.answer = .offer (some sourced)

end Progress

theorem Later.offered {before after : Progress} {tree : Expr} (later : Later before after)
    (offered : before.Offered tree) : after.Offered tree := by
  obtain ⟨inquiry, member, answer⟩ := offered
  exact ⟨inquiry, later.inquiries.mem member, answer⟩

theorem Later.answered {before after : Progress} {mode : SourceMode} {sourced : Expr}
    (later : Later before after) (answered : before.Answered mode sourced) :
    after.Answered mode sourced := by
  obtain ⟨inquiry, member, answer⟩ := answered
  exact ⟨inquiry, later.inquiries.mem member, answer⟩

section Hooks

variable (registry : Registry) (model : Model) (request : RequestContext)

/-- A hook that has answered when it was asked about a node. -/
def Hook.Answers (hook : Hook α) (node : Expr) (answer : α) : Prop :=
  ∃ context ambient after, context.About model request node ∧
    (hook.run context).run.run ambient = (.ok answer, after)

/-- Every inspector has let a node pass. -/
def Registry.Passes (node : Expr) : Prop :=
  ∀ hook ∈ registry.inspectors, hook.Answers model request node true

/-- A hook other than the sourcer has offered a tree for a node. -/
def Registry.Offers (node offered : Expr) : Prop :=
  ∃ hook, (hook ∈ registry.normalizers ∨ hook ∈ registry.expanders ∨ hook ∈ registry.filters) ∧
    hook.Answers model request node (some offered)

/-- The sourcer has answered with a tree for a node. -/
def Registry.Sources (mode : SourceMode) (node sourced : Expr) : Prop :=
  ∃ sourcer ∈ registry.sourcer, (sourcer.hook mode).Answers model request node (some sourced)

/-- The sourcer is asked about a data reference, in some mode and next to a root if there is one. -/
structure Inquiry.Seeks (inquiry : Inquiry) (mode : SourceMode) (root : Option Root)
    (node : Expr) : Prop where
  point : inquiry.point = .source mode
  seen : inquiry.context.root = root
  about : inquiry.context.About model request node
  source : node.isSource = true

/-- A tree is taken in the place of a node: it was offered for the node, and is acceptable there. -/
structure Registry.Takes (progress : Progress) (node offered : Expr) : Prop where
  offers : registry.Offers model request node offered
  known : progress.Offered offered
  accepted : node.type.accepts offered.type = true

end Hooks

theorem Registry.Takes.later {registry : Registry} {before after : Progress} {node offered : Expr}
    (takes : registry.Takes model request before node offered) (later : Later before after) :
    registry.Takes model request after node offered :=
  ⟨takes.offers, later.offered takes.known, takes.accepted⟩

/-- What a walk with the hooks of a registry, over a model and for a request, keeps to. -/
structure Discipline (registry : Registry) (model : Model) (request : RequestContext) where
  holds : Option Root → List Inquiry → Prop
  failed : Error → Option Root → List Inquiry → Prop
  /-- The trees that may stand for a node. -/
  stands : Progress → Expr → Expr → Prop
  /-- The trees that a visit may make of a node. -/
  made : Progress → Expr → Expr → Prop
  failed_of_holds {root : Option Root} {inquiries : List Inquiry} (error : Error) :
    holds root inquiries → failed error root inquiries
  stands_later {before after : Progress} {node tree : Expr} :
    Later before after → stands before node tree → stands after node tree
  made_later {before after : Progress} {node tree : Expr} :
    Later before after → made before node tree → made after node tree
  stands_source {progress : Progress} {node : Expr} :
    node.isSource = true → registry.Passes model request node → stands progress node node
  stands_itself {progress : Progress} {node tree : Expr} :
    stands progress node tree → stands progress tree tree
  stands_made {progress : Progress} {node tree : Expr} :
    made progress node tree → stands progress node tree
  stands_rebuilt {progress : Progress} {node : Expr} {given : List Expr} (supply : NodeSupply) :
    node.isSource = false → List.Forall₂ (made progress) node.children given →
      stands progress node ((node.withChildren given).run supply).1
  made_settled {progress : Progress} {node tree : Expr} :
    stands progress node tree → (tree = node → node.isSource = false) → made progress node tree
  made_taken {progress : Progress} {node offered tree : Expr} :
    registry.Takes model request progress node offered → made progress offered tree →
      made progress node tree
  made_substituted {progress : Progress} {node substitute tree : Expr} :
    stands progress node substitute → made progress substitute tree → made progress node tree
  /-- A hook other than the sourcer answers, and an offer is acceptable or stands already. -/
  holds_asked {root : Option Root} {inquiries : List Inquiry} {inquiry : Inquiry} {node : Expr} :
    holds root inquiries → inquiry.isSourcing = false → inquiry.context.root = root →
      inquiry.context.About model request node →
      (∀ offered, inquiry.answer = .offer (some offered) →
        node.type.accepts offered.type = true ∨ stands ⟨root, inquiries⟩ node offered) →
      holds root (inquiry :: inquiries)
  /-- A hook other than the sourcer offers what is not acceptable. -/
  failed_mistyped {root : Option Root} {inquiries : List Inquiry} {inquiry : Inquiry}
    {node offered : Expr} :
    holds root inquiries → inquiry.isSourcing = false → inquiry.context.root = root →
      inquiry.context.About model request node → inquiry.answer = .offer (some offered) →
      node.type.accepts offered.type = false →
      failed (.typeMismatch inquiry.hook node.type offered.type) root (inquiry :: inquiries)
  /-- The sourcer is asked for the root, and none comes of it. -/
  failed_root {inquiries : List Inquiry} {inquiry : Inquiry} {node : Expr} (error : Error) :
    holds none inquiries → inquiry.Seeks model request .root none node →
      stands ⟨none, inquiries⟩ node node → failed error none (inquiry :: inquiries)
  holds_root {inquiries : List Inquiry} {inquiry : Inquiry} {stamp : Stamp} {proxy : ProxyId}
    {element : QueryType} {node tree : Expr} :
    holds none inquiries → inquiry.Seeks model request .root none node →
      stands ⟨none, inquiries⟩ node node →
      inquiry.answer = .offer (some (.queryable stamp proxy element tree)) →
      holds (some ⟨proxy, element, tree⟩) (inquiry :: inquiries)
  /-- The sourcer is asked for a fragment, and none is taken. -/
  failed_embedded {root : Root} {inquiries : List Inquiry} {inquiry : Inquiry} {node : Expr}
    (error : Error) :
    holds (some root) inquiries → inquiry.Seeks model request .embedded (some root) node →
      stands ⟨some root, inquiries⟩ node node →
      (∀ sourced, inquiry.answer = .offer (some sourced) → sourced.isQueryable = true →
        ∃ reference, error = .badSource (.standaloneQueryable reference)) →
      failed error (some root) (inquiry :: inquiries)
  holds_embedded {root : Root} {inquiries : List Inquiry} {inquiry : Inquiry} {node tree : Expr} :
    holds (some root) inquiries → inquiry.Seeks model request .embedded (some root) node →
      stands ⟨some root, inquiries⟩ node node → inquiry.answer = .offer (some tree) →
      tree.isQueryable = false → holds (some root) (inquiry :: inquiries)
  made_root {inquiries : List Inquiry} {stamp : Stamp} {proxy : ProxyId} {element : QueryType}
    {node tree : Expr} :
    registry.Sources model request .root node (.queryable stamp proxy element tree) →
      Progress.Answered ⟨some ⟨proxy, element, tree⟩, inquiries⟩ .root
        (.queryable stamp proxy element tree) →
      node.type.accepts tree.type = true → made ⟨some ⟨proxy, element, tree⟩, inquiries⟩ node tree
  made_embedded {root : Root} {inquiries : List Inquiry} {node tree : Expr} :
    registry.Sources model request .embedded node tree →
      Progress.Answered ⟨some root, inquiries⟩ .embedded tree →
      node.type.accepts tree.type = true → tree.isQueryable = false →
      tree.hasNode (Walk.checkEmbedded.foreign root.proxy) = false →
      made ⟨some root, inquiries⟩ node tree

namespace Discipline

open Walk

variable {registry : Registry} (discipline : Discipline registry model request) {α β : Type}

/-- A setting is one of a walk over the model for the request, in which every substitute stands for
its node. -/
structure Standing (setting : Context) (progress : Progress) : Prop where
  model_eq : setting.model = model
  request_eq : setting.request = request
  substitutes : ∀ entry ∈ setting.substitutions, discipline.stands progress entry.1 entry.2

/-- A discipline asks nothing of the settings in which steps begin. -/
def regime : Regime Progress where
  view := Progress.mk
  holds progress := discipline.holds progress.root progress.inquiries
  guards _ _ := True
  failed error progress := discipline.failed error progress.root progress.inquiries
  leads _ := Later
  failed_of_holds error := discipline.failed_of_holds error
  refl _ := .refl
  trans := .trans
  leads_outside _ later := later
  guards_later _ _ := trivial
  guards_substitute _ _ _ := trivial

/-- A step keeps to the regime of the discipline. -/
abbrev Obeys (setting : Context) (progress : Progress) (step : Walk α)
    (leaves : Context → Progress → α → Prop) : Prop :=
  discipline.regime.Obeys setting progress step leaves

/-- A visit that keeps to the discipline wherever substitutes stand for their nodes. -/
def Visits (visit : Expr → Walk Expr) : Prop :=
  ∀ setting progress, discipline.Standing setting progress → ∀ node,
    discipline.Obeys setting progress (visit node)
      fun left after tree => left = setting ∧ discipline.made after node tree

variable {discipline} {setting : Context} {progress : Progress}

theorem Standing.later {after : Progress} (standing : discipline.Standing setting progress)
    (later : Later progress after) : discipline.Standing setting after :=
  { standing with
    substitutes := fun entry member =>
      discipline.stands_later later (standing.substitutes entry member) }

theorem Standing.substitute {node tree : Expr} (standing : discipline.Standing setting progress)
    (stands : discipline.stands progress node tree) :
    discipline.Standing (setting.substitute node tree) progress where
  model_eq := standing.model_eq
  request_eq := standing.request_eq
  substitutes := List.forall_mem_cons.mpr ⟨stands, standing.substitutes⟩

theorem Standing.inside {entered : Context} (standing : discipline.Standing setting progress)
    (around : entered.surroundings = setting) : discipline.Standing entered progress := by
  subst around
  exact ⟨standing.model_eq, standing.request_eq, standing.substitutes⟩

section Rules

variable {step : Walk α} {leaves : Context → Progress → α → Prop}

theorem obeys_iff : discipline.Obeys setting progress step leaves ↔
    ∀ before : Recording, before.context.setting = setting → before.progress = progress →
      discipline.holds progress.root progress.inquiries →
      Ends step
        (fun value after => Later progress after.progress ∧
          discipline.holds after.progress.root after.progress.inquiries ∧
          leaves after.context.setting after.progress value)
        (fun error after => discipline.failed error after.progress.root after.progress.inquiries)
        before :=
  ⟨fun obeys before same here holds => obeys before same here holds trivial,
    fun ends before same here holds _ => ends before same here holds⟩

theorem obeys_context : discipline.Obeys setting progress context
    fun left after context => left = setting ∧ after = progress ∧ context.setting = setting ∧
      context.root = progress.root := by
  refine Regime.obeys_context.mono ?_
  rintro left after context - ⟨same, here, seen, inquiries, rfl⟩
  exact ⟨same, here, seen, rfl⟩

theorem obeys_nested {node : Option Expr}
    (inside : ∀ entered, setting.push node = .ok entered → entered.surroundings = setting →
      discipline.Obeys entered progress step
        fun left after value => leaves left.surroundings after value) :
    discipline.Obeys setting progress (nested node step) leaves :=
  Regime.obeys_nested fun entered pushed around => ⟨id, inside entered pushed around⟩

end Rules

section Frame

variable {node : Expr} {point : Point}

section Hooks

variable (about : setting.About model request node)

include about

/-- Asking a hook for a tree, where what comes next refuses a tree that neither is acceptable nor
stands for the node already. -/
theorem obeys_offer {hook : TreeHook} {next : Option Expr → Walk β}
    {leaves : Context → Progress → β → Prop} (ordinary : (point matches .source _) = false)
    (listed : hook ∈ registry.normalizers ∨ hook ∈ registry.expanders ∨ hook ∈ registry.filters)
    (proceeds : ∀ offered after, Later progress after →
      (∀ tree, offered = some tree → node.type.accepts tree.type = true →
        registry.Takes model request after node tree) →
      discipline.Obeys setting after (next offered) leaves)
    (refuses : ∀ tree before, node.type.accepts tree.type = false →
      ¬discipline.stands progress node tree →
      Ends (next (some tree)) (fun _ _ => False)
        (fun error after => error = .typeMismatch hook.name node.type tree.type ∧ after = before)
        before) :
    discipline.Obeys setting progress (consult .offer point hook >>= next) leaves := by
  rw [obeys_iff]
  rintro before rfl rfl holds
  have about : (before.context.consulting point hook.name).About model request node :=
    about.of_setting rfl
  rw [ends_bind, ends_consult]
  split
  · next offered ambient ran =>
    let asked : Inquiry :=
      ⟨point, hook.name, before.context.consulting point hook.name, .offer offered⟩
    let answered : Recording :=
      { context := asked.context, ambient, inquiries := asked :: before.inquiries }
    by_cases fits : ∀ tree, offered = some tree →
        node.type.accepts tree.type = true ∨ discipline.stands before.progress node tree
    · have takes : ∀ tree, offered = some tree → node.type.accepts tree.type = true →
          registry.Takes model request ⟨before.context.root, asked :: before.inquiries⟩ node
            tree := by
        rintro tree rfl accepted
        exact ⟨⟨hook, listed, _, _, _, about, ran⟩, ⟨asked, List.mem_cons_self, ordinary, rfl⟩,
          accepted⟩
      have holds : discipline.holds before.context.root (asked :: before.inquiries) := by
        refine discipline.holds_asked holds ordinary rfl about fun tree answer => ?_
        exact fits tree (Answer.offer.inj answer)
      refine (proceeds offered _ .asked takes answered rfl rfl holds trivial).weaken ?_
      rintro value after ⟨later, holds, left⟩
      exact ⟨Later.asked.trans later, holds, left⟩
    · push Not at fits
      obtain ⟨tree, rfl, mistyped, strange⟩ := fits
      have mistyped : node.type.accepts tree.type = false := by simpa using mistyped
      refine (refuses tree _ mistyped strange).mono (fun _ _ none => none.elim) ?_
      rintro error after ⟨rfl, rfl⟩
      have plain : asked.isSourcing = false := ordinary
      exact discipline.failed_mistyped holds plain rfl about rfl mistyped
  · next error ambient ran =>
    refine discipline.failed_of_holds _ (discipline.holds_asked holds ordinary rfl about ?_)
    intro tree answer
    contradiction

theorem obeys_replacement? (ordinary : (point matches .source _) = false) {hooks : List TreeHook}
    (listed : ∀ hook ∈ hooks,
      hook ∈ registry.normalizers ∨ hook ∈ registry.expanders ∨ hook ∈ registry.filters) :
    discipline.Obeys setting progress (replacement? point node hooks)
      fun left after offered => left = setting ∧ ∀ tree, offered = some tree →
        registry.Takes model request after node tree := by
  induction hooks generalizing progress with
  | nil => exact Regime.obeys_pure ⟨rfl, fun _ none => nomatch none⟩
  | cons hook rest ih =>
    obtain ⟨here, below⟩ := List.forall_mem_cons.mp listed
    refine obeys_offer about ordinary here (fun offered after later takes => ?_)
      fun tree before mistyped strange => ?_
    · cases offered with
      | none => exact ih below
      | some tree =>
        dsimp only
        split
        · exact ih below
        · refine (Regime.obeys_checkType _ _ _).bind_same fun _ accepted => ?_
          refine Regime.obeys_pure ⟨rfl, fun _ same => ?_⟩
          cases same
          exact takes tree rfl accepted
    · have other : tree ≠ node := by
        rintro rfl
        simp [QueryType.accepts_refl] at mistyped
      dsimp only
      rw [if_neg other, ends_bind, ends_checkType, if_neg (by simp [mistyped])]
      exact ⟨rfl, rfl⟩

/-- After normalizing, the frame is that of the node still, or of a tree taken in its place. -/
theorem obeys_normalize :
    discipline.Obeys setting progress (normalize registry node) fun left after _ =>
      left.depth = setting.depth ∧ left.surroundings = setting.surroundings ∧
        ∃ normal, left.About model request normal ∧
          (normal = node ∨ registry.Takes model request after node normal) := by
  have normalizing : ∀ hook ∈ registry.normalizers.reverse,
      hook ∈ registry.normalizers ∨ hook ∈ registry.expanders ∨ hook ∈ registry.filters :=
    fun hook member => .inl (List.mem_reverse.mp member)
  refine (obeys_replacement? about rfl normalizing).bind_later fun after offered _ takes => ?_
  cases offered with
  | none => exact Regime.obeys_pure ⟨rfl, rfl, node, about, .inl rfl⟩
  | some normal =>
    refine Regime.obeys_quiet fun before same here => ?_
    subst same
    rw [ends_trying]
    split
    · next changed replaced =>
      obtain ⟨frame, outer, frames⟩ : ∃ frame outer, before.context.frames = frame :: outer :=
        about.exists_frames
      obtain ⟨binding, bound, rfl⟩ := Context.replace_inside frames replaced
      refine ⟨here, ?_, ?_, normal, ?_, .inr (takes normal rfl)⟩
      · simp only [Context.depth, Context.setting, frames, List.length_cons]
      · simp only [Context.surroundings, Context.setting, frames, List.tail_cons]
      · exact ⟨about.model_eq, about.request_eq, rfl, outer, bound⟩
    · exact here

/-- All inspectors have let a node pass that passes inspection. -/
theorem obeys_inspect (inspectors : List (Hook Bool)) :
    discipline.Obeys setting progress (inspect node inspectors)
      fun left _ _ => left = setting ∧
        ∀ hook ∈ inspectors, hook.Answers model request node true := by
  induction inspectors generalizing progress with
  | nil => exact Regime.obeys_pure ⟨rfl, List.forall_mem_nil _⟩
  | cons hook rest ih =>
    rw [obeys_iff]
    rintro before rfl rfl holds
    have about : (before.context.consulting .inspect hook.name).About model request node :=
      about.of_setting rfl
    unfold inspect
    rw [ends_bind, ends_consult]
    split
    · next passes ambient ran =>
      let asked : Inquiry :=
        ⟨.inspect, hook.name, before.context.consulting .inspect hook.name, .verdict passes⟩
      let answered : Recording :=
        { context := asked.context, ambient, inquiries := asked :: before.inquiries }
      have holds : discipline.holds before.context.root (asked :: before.inquiries) := by
        refine discipline.holds_asked holds rfl rfl about fun tree answer => ?_
        contradiction
      cases passes with
      | true =>
        refine (ih answered rfl rfl holds trivial).weaken ?_
        rintro value after ⟨later, holds, same, passed⟩
        exact ⟨Later.asked.trans later, holds, same,
          List.forall_mem_cons.mpr ⟨⟨_, _, _, about, ran⟩, passed⟩⟩
      | false =>
        simp only [Bool.false_eq_true, if_false, ends_bind, ends_context, ends_event]
        exact discipline.failed_of_holds _ holds
    · refine discipline.failed_of_holds _ (discipline.holds_asked holds rfl rfl about ?_)
      intro tree answer
      contradiction

theorem obeys_sourcing_root {sourcer : Sourcer} (registered : registry.sourcer = some sourcer)
    (reference : String) (here : progress.root = none) (source : node.isSource = true)
    (stands : discipline.stands progress node node) :
    discipline.Obeys setting progress
      (do
        match ← consult .offer (.source .root) (sourcer.hook .root) with
        | none => throw (.unsupported (.notSourced sourcer.name reference))
        | some sourced => takeRoot sourcer.name reference node sourced)
      fun left after tree => left = setting ∧ discipline.made after node tree := by
  rw [obeys_iff]
  rintro before rfl rfl holds
  have here : before.context.root = none := here
  have started : before.progress = ⟨none, before.inquiries⟩ :=
    congrArg (Progress.mk · before.inquiries) here
  rw [started] at holds stands ⊢
  let asking := before.context.consulting (.source .root) sourcer.name
  have about : asking.About model request node := about.of_setting rfl
  have failed (answer : Answer) (error : Error) :
      discipline.failed error before.context.root
        (⟨.source .root, sourcer.name, asking, answer⟩ :: before.inquiries) := by
    rw [here]
    exact discipline.failed_root error holds ⟨rfl, here, about, source⟩ stands
  rw [ends_bind, ends_consult]
  split
  · next sourced ambient ran =>
    cases sourced with
    | none => exact failed _ _
    | some sourced =>
      refine (takeRoot_ends sourcer.name reference node sourced).mono ?_ ?_
      · rintro tree after ⟨stamp, proxy, element, ambient, rfl, accepted, rfl⟩
        refine ⟨⟨nofun, List.suffix_cons _ _⟩,
          discipline.holds_root holds ⟨rfl, here, about, source⟩ stands rfl, rfl, ?_⟩
        exact discipline.made_root ⟨sourcer, registered, _, _, _, about, ran⟩
          ⟨_, List.mem_cons_self, rfl, rfl⟩ accepted
      · rintro error after ⟨rfl, -⟩
        exact failed _ _
  · exact failed _ _

theorem obeys_sourcing_embedded {sourcer : Sourcer} (registered : registry.sourcer = some sourcer)
    (reference : String) {root : Root} (here : progress.root = some root)
    (source : node.isSource = true) (stands : discipline.stands progress node node) :
    discipline.Obeys setting progress
      (do
        match ← consult .offer (.source .embedded) (sourcer.hook .embedded) with
        | none => throw (.unsupported (.notSourced sourcer.name reference))
        | some sourced => takeFragment sourcer.name reference node sourced root)
      fun left after tree => left = setting ∧ discipline.made after node tree := by
  rw [obeys_iff]
  rintro before rfl rfl holds
  have here : before.context.root = some root := here
  have started : before.progress = ⟨some root, before.inquiries⟩ :=
    congrArg (Progress.mk · before.inquiries) here
  rw [started] at holds stands ⊢
  let asking := before.context.consulting (.source .embedded) sourcer.name
  have about : asking.About model request node := about.of_setting rfl
  have failed (answer : Answer) (error : Error)
      (named : ∀ sourced, answer = .offer (some sourced) → sourced.isQueryable = true →
        ∃ reference, error = .badSource (.standaloneQueryable reference)) :
      discipline.failed error before.context.root
        (⟨.source .embedded, sourcer.name, asking, answer⟩ :: before.inquiries) := by
    rw [here]
    exact discipline.failed_embedded error holds ⟨rfl, here, about, source⟩ stands named
  rw [ends_bind, ends_consult]
  split
  · next sourced ambient ran =>
    cases sourced with
    | none => exact failed _ _ nofun
    | some sourced =>
      refine (takeFragment_ends sourcer.name reference node sourced root).mono ?_ ?_
      · rintro tree after ⟨rfl, accepted, fragment, native, ambient, rfl⟩
        have rooted : (before.context.consulting (.source .embedded)
            (sourcer.hook .embedded).name).root = some root := here
        simp only [Recording.progress, Recording.inquired, rooted]
        refine ⟨.asked,
          discipline.holds_embedded holds ⟨rfl, here, about, source⟩ stands rfl fragment, rfl, ?_⟩
        exact discipline.made_embedded ⟨sourcer, registered, _, _, _, about, ran⟩
          ⟨_, List.mem_cons_self, rfl, rfl⟩ accepted fragment native
      · rintro error after ⟨rfl, refused⟩
        refine failed _ _ fun other answer standalone => ?_
        cases answer
        rcases refused with ⟨-, rfl⟩ | ⟨fragment, -⟩
        · exact ⟨reference, rfl⟩
        · rw [fragment] at standalone
          contradiction
  · exact failed _ _ nofun

theorem obeys_sourcing {sourcer : Sourcer} (registered : registry.sourcer = some sourcer)
    (reference : String) (source : node.isSource = true)
    (stands : discipline.stands progress node node) {root : Option Root}
    (here : progress.root = root) {mode : SourceMode}
    (asked : mode = if root.isNone then .root else .embedded) :
    discipline.Obeys setting progress
      (do
        match ← consult .offer (.source mode) (sourcer.hook mode) with
        | none => throw (.unsupported (.notSourced sourcer.name reference))
        | some sourced =>
          match root with
          | none => takeRoot sourcer.name reference node sourced
          | some root => takeFragment sourcer.name reference node sourced root)
      fun left after tree => left = setting ∧ discipline.made after node tree := by
  subst asked
  cases root with
  | none => exact obeys_sourcing_root about registered reference here source stands
  | some root => exact obeys_sourcing_embedded about registered reference here source stands

/-- At the end of a frame what stands for its node is settled: it is sourced if it still is the node
and a data reference, and left as it is otherwise. -/
theorem obeys_source {current : Expr} (stands : discipline.stands progress node current) :
    discipline.Obeys setting progress (source registry current)
      fun left after tree => left = setting ∧ discipline.made after node tree := by
  refine obeys_context.bind_same ?_
  rintro context ⟨seen, here⟩
  have about : context.About model request node := about.of_setting seen
  cases refers : context.binding.reference? with
  | none =>
    refine Regime.obeys_pure ⟨rfl, discipline.made_settled stands fun _ => ?_⟩
    rw [about.isSource, Binding.isReference, refers]
    rfl
  | some reference =>
    dsimp only
    rw [about.under]
    split
    · next same =>
      cases same
      cases registered : registry.sourcer with
      | none => exact Regime.obeys_throw _
      | some sourcer =>
        have source : node.isSource = true := by
          rw [about.isSource, Binding.isReference, refers]
          rfl
        exact obeys_sourcing ‹_› registered reference.name source stands here.symm rfl
    · next other =>
      refine Regime.obeys_pure ⟨rfl, discipline.made_settled stands fun same => ?_⟩
      exact (other (same ▸ rfl)).elim

theorem obeys_expansion (isReference : Bool) :
    discipline.Obeys setting progress (expansion registry node isReference)
      fun left after offered => left = setting ∧ ∀ tree, offered = some tree →
        registry.Takes model request after node tree := by
  unfold expansion
  split
  · exact obeys_replacement? about rfl fun hook member => .inr (.inl (List.mem_reverse.mp member))
  · exact Regime.obeys_pure ⟨rfl, fun _ none => nomatch none⟩

end Hooks

theorem obeys_revisited {revisited : Expr → Walk Expr} (again : discipline.Visits revisited)
    (standing : discipline.Standing setting progress) {offered : Expr}
    (takes : registry.Takes model request progress node offered) :
    discipline.Obeys setting progress (revisited offered)
      fun left after tree => left = setting ∧ discipline.stands after node tree := by
  refine (again setting progress standing offered).mono ?_
  rintro left after tree later ⟨same, made⟩
  exact ⟨same, discipline.stands_made (discipline.made_taken (takes.later later) made)⟩

theorem obeys_filtered {revisited : Expr → Walk Expr} (again : discipline.Visits revisited)
    (about : setting.About model request node) {filters : List TreeHook}
    (listed : ∀ hook ∈ filters, hook ∈ registry.filters) {current : Expr}
    (standing : discipline.Standing setting progress)
    (stands : discipline.stands progress node current) :
    discipline.Obeys setting progress (filtered revisited node filters current)
      fun left after tree => left = setting ∧ discipline.stands after node tree := by
  induction filters generalizing progress current with
  | nil => exact Regime.obeys_pure ⟨rfl, stands⟩
  | cons hook rest ih =>
    obtain ⟨here, below⟩ := List.forall_mem_cons.mp listed
    refine obeys_offer about rfl (.inr (.inr here)) (fun offered asked early takes => ?_)
      fun tree before mistyped strange => ?_
    · have standing := standing.later early
      have stands := discipline.stands_later early stands
      cases offered with
      | none => exact ih below standing stands
      | some offered =>
        dsimp only
        split
        · exact ih below standing stands
        · refine (Regime.obeys_checkType _ _ _).bind_same fun _ accepted => ?_
          have walked : discipline.Obeys setting asked
              (substituting node current (revisited offered))
              fun left after tree => left = setting ∧ discipline.stands after node tree := by
            refine Regime.obeys_substituting ((obeys_revisited again (standing.substitute stands)
              (takes offered rfl accepted)).mono ?_)
            rintro left after tree - ⟨rfl, stands⟩
            exact ⟨rfl, stands⟩
          exact walked.bind_later fun after tree later stands =>
            ih below (standing.later later) stands
    -- A tree of a wrong type is neither the node nor what stands for it, so its type is checked.
    · have other : ¬(tree = node ∨ tree = current) := by
        rintro (rfl | rfl)
        · simp [QueryType.accepts_refl] at mistyped
        · exact strange stands
      dsimp only
      rw [if_neg other, ends_bind, ends_checkType, if_neg (by simp [mistyped])]
      exact ⟨rfl, rfl⟩

theorem obeys_mapM {visited : Expr → Walk Expr} (each : discipline.Visits visited)
    (nodes : List Expr) (standing : discipline.Standing setting progress) :
    discipline.Obeys setting progress (nodes.mapM visited)
      fun left after trees => left = setting ∧
        List.Forall₂ (discipline.made after) nodes trees := by
  induction nodes generalizing progress with
  | nil => exact Regime.obeys_pure ⟨rfl, .nil⟩
  | cons node rest ih =>
    rw [List.mapM_cons]
    refine (each setting progress standing node).bind_later fun middle tree early made => ?_
    refine (ih (standing.later early)).bind_later fun after trees late others => ?_
    exact Regime.obeys_pure ⟨rfl, .cons (discipline.made_later late made) others⟩

/-- A data reference is left to the inspectors as it is. -/
theorem obeys_descended {visited : Expr → Walk Expr} (each : discipline.Visits visited)
    (standing : discipline.Standing setting progress) :
    discipline.Obeys setting progress (descended visited node node.isSource)
      fun left after tree => left = setting ∧
        (node.isSource = true ∧ tree = node ∨ discipline.stands after node tree) := by
  unfold descended
  split
  · next source => exact Regime.obeys_pure ⟨rfl, .inl ⟨source, rfl⟩⟩
  · next plain =>
    refine (obeys_mapM each node.children standing).bind_later fun after given later made => ?_
    refine Regime.obeys_quiet fun before same here => ?_
    rw [ends_build]
    exact ⟨here, same, .inr (discipline.stands_rebuilt _ (by simpa using plain) made)⟩

theorem obeys_normalized {visited revisited : Expr → Walk Expr}
    (each : discipline.Visits visited) (again : discipline.Visits revisited) (entered : Expr)
    (about : setting.About model request node)
    (standing : discipline.Standing setting progress) :
    discipline.Obeys setting progress (normalized registry visited revisited entered)
      fun left after tree => left = setting ∧ discipline.made after node tree := by
  refine obeys_context.bind_same fun context ⟨seen, _⟩ =>
    obeys_context.bind_same fun now ⟨seenNow, _⟩ => ?_
  have node_eq : context.node? = some node := (about.of_setting seen).under
  have source_eq : now.binding.isReference = node.isSource :=
    (about.of_setting seenNow).isSource.symm
  dsimp only
  rw [node_eq, Option.getD_some, source_eq]
  refine (obeys_descended each standing).bind_later fun visited rewritten first descends => ?_
  have standing := standing.later first
  refine (obeys_inspect about _).bind_later fun inspected _ second passed => ?_
  have standing := standing.later second
  have stands : discipline.stands inspected node rewritten := by
    rcases descends with ⟨source, rfl⟩ | stands
    · exact discipline.stands_source source fun hook member =>
        passed hook (List.mem_reverse.mpr member)
    · exact discipline.stands_later second stands
  refine (obeys_expansion about _).bind_later fun asked expanded third takes => ?_
  have standing := standing.later third
  have stands := discipline.stands_later third stands
  have current : discipline.Obeys setting asked (expandedOr revisited rewritten expanded)
      fun left after tree => left = setting ∧ discipline.stands after node tree := by
    cases expanded with
    | none => exact Regime.obeys_pure ⟨rfl, stands⟩
    | some expanded => exact obeys_revisited again standing (takes expanded rfl)
  refine current.bind_later fun _ current fourth stands => ?_
  refine (obeys_filtered again about (fun _ member => member) (standing.later fourth)
    stands).bind_later fun _ filtered _ stands => ?_
  exact obeys_source about stands

/-- Where a substitute stands for a node, a visit of the node is what becomes of the substitute. -/
theorem obeys_substituted {substitute : Expr} (standing : discipline.Standing setting progress)
    (stands : discipline.stands progress node substitute) :
    discipline.Obeys setting progress (nested (some substitute) (source registry substitute))
      fun left after tree => left = setting ∧ discipline.made after node tree := by
  refine obeys_nested fun entered pushed around => ?_
  have about := Context.About.of_push pushed standing.model_eq standing.request_eq
  refine (obeys_source about (discipline.stands_itself stands)).mono ?_
  rintro left after tree later ⟨rfl, made⟩
  exact ⟨around, discipline.made_substituted (discipline.stands_later later stands) made⟩

end Frame

section Whole

theorem obeys_entered {node : Expr} {visited revisited : Expr → Walk Expr}
    (each : discipline.Visits visited) (again : discipline.Visits revisited)
    (standing : discipline.Standing setting progress) :
    discipline.Obeys setting progress
      (nested (some node) (inFrame registry visited revisited node))
      fun left after tree => left = setting ∧ discipline.made after node tree := by
  refine obeys_nested fun entered pushed around => ?_
  have about := Context.About.of_push pushed standing.model_eq standing.request_eq
  refine (obeys_normalize about).bind ?_
  rintro left asked - early ⟨level, same, normal, about, normalizes⟩
  have around := same.trans around
  have standing := (standing.later early).inside around
  refine ⟨level, id, (obeys_normalized each again node about standing).mono ?_⟩
  rintro _ after tree late ⟨rfl, made⟩
  refine ⟨around, ?_⟩
  rcases normalizes with rfl | takes
  · exact made
  · exact discipline.made_taken (takes.later late) made

/-- Every visit keeps to a discipline, by induction on the frames that may still be entered. -/
theorem visits (discipline : Discipline registry model request) (room : Nat) :
    discipline.Visits (visit registry room) ∧ discipline.Visits (revisit registry room) := by
  induction room with
  | zero =>
    have deep (setting : Context) (progress : Progress) (node : Expr) :
        discipline.Obeys setting progress tooDeep
          fun left after tree => left = setting ∧ discipline.made after node tree := by
      refine Regime.obeys_quiet fun before same here => ?_
      exact here
    exact ⟨fun setting progress _ node => deep setting progress node,
      fun setting progress _ node => deep setting progress node⟩
  | succ room ih =>
    obtain ⟨each, again⟩ := ih
    refine ⟨fun setting progress standing node => ?_, fun setting progress standing node => ?_⟩
    · refine obeys_context.bind_same fun context seen => ?_
      have substitution : context.substitution? node = setting.substitution? node := by
        rw [← seen.1]
        rfl
      rw [substitution]
      cases found : setting.substitution? node with
      | none => exact obeys_entered each again standing
      | some substitute =>
        obtain ⟨entry, first, rfl⟩ := Option.map_eq_some_iff.mp found
        have same : entry.1 = node := by simpa using List.find?_some first
        refine obeys_substituted standing ?_
        rw [← same]
        exact standing.substitutes entry (List.mem_of_find?_eq_some first)
    · refine obeys_nested fun entered pushed around => ?_
      refine (each entered progress (standing.inside around) node).mono ?_
      rintro _ after tree - ⟨rfl, made⟩
      exact ⟨around, made⟩

variable (discipline : Discipline registry model request) {query : Expr} {maxDepth : Nat}
  {ambient : Ambient} {after : Recording} (holds : discipline.holds none [])

include holds

/-- A whole walk keeps to a discipline that holds in the beginning. -/
theorem ends_whole (query : Expr) (maxDepth : Nat) (ambient : Ambient) :
    Ends (whole registry query)
      (fun tree after => discipline.holds after.progress.root after.progress.inquiries ∧
        discipline.made after.progress query tree)
      (fun error after => discipline.failed error after.progress.root after.progress.inquiries)
      { context := { model, request, maxDepth }, ambient } := by
  let context : Context := { model, request, maxDepth }
  have standing : discipline.Standing context ⟨none, []⟩ := ⟨rfl, rfl, List.forall_mem_nil _⟩
  have whole : discipline.Obeys context ⟨none, []⟩ (whole registry query)
      fun left after tree => left = context ∧ discipline.made after query tree :=
    obeys_context.bind_same fun now _ => (discipline.visits _).2 _ _ standing query
  refine (whole { context, ambient } rfl rfl holds trivial).weaken ?_
  rintro tree after ⟨-, holds, -, made⟩
  exact ⟨holds, made⟩

theorem keeps_of_ok {tree : Expr}
    (ran : recorded registry query { model, request, maxDepth } ambient = (.ok tree, after)) :
    discipline.holds after.progress.root after.progress.inquiries ∧
      discipline.made after.progress query tree :=
  (discipline.ends_whole holds query maxDepth ambient).done_of_ok ran

theorem keeps_of_error {error : Error}
    (ran : recorded registry query { model, request, maxDepth } ambient = (.error error, after)) :
    discipline.failed error after.progress.root after.progress.inquiries :=
  (discipline.ends_whole holds query maxDepth ambient).failed_of_error ran

end Whole

end Discipline

end QueryRewriting.Rewriting
