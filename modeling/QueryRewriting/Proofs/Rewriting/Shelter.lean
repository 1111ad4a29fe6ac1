import QueryRewriting.Access.RowFilter
import QueryRewriting.Evaluation.Backend
import QueryRewriting.Proofs.Rewriting.Regime

/-! A node is sheltered while the tree that a filter has offered for it is walked: a substitute
stands for it, and no hook but the sourcer is asked about it. Such a walk takes place in an unbound
frame right inside of the frame that was filtered, so the inquiries that belong to it can be told by
the frames that they see. -/
namespace QueryRewriting.Rewriting

open Schema

/-- A context lies in an unbound frame right inside of the frame in which a hook was asked. -/
def Inquiry.Encloses (inquiry : Inquiry) (context : Context) : Prop :=
  {} :: inquiry.context.frames <:+ context.frames

instance (inquiry : Inquiry) (context : Context) : Decidable (inquiry.Encloses context) :=
  inferInstanceAs (Decidable (_ <:+ _))

/-- What a filter has offered is still walked: since it was asked, nothing has happened outside of
the unbound frame in its own. -/
structure Rewalking (filtering : Inquiry) (since : List Inquiry) (context : Context) : Prop where
  point : filtering.point = .filter
  enclosed : ∀ inquiry ∈ since, filtering.Encloses inquiry.context
  here : filtering.Encloses context

instance (filtering : Inquiry) (since : List Inquiry) (context : Context) :
    Decidable (Rewalking filtering since context) :=
  decidable_of_iff (filtering.point = .filter ∧
      (∀ inquiry ∈ since, filtering.Encloses inquiry.context) ∧ filtering.Encloses context)
    ⟨fun ⟨point, enclosed, here⟩ => ⟨point, enclosed, here⟩,
      fun ⟨point, enclosed, here⟩ => ⟨point, enclosed, here⟩⟩

/-- Every node whose filtering is still walked has a substitute. -/
def Guarded (context : Context) (inquiries : List Inquiry) : Prop :=
  ∀ since filtering earlier, inquiries = since ++ filtering :: earlier →
    Rewalking filtering since context → ∀ node, filtering.context.node? = some node →
      (context.substitution? node).isSome = true

/-- No normalizer has offered a node while a substitute stood for it. -/
def Genuine (inquiries : List Inquiry) : Prop :=
  ∀ inquiry ∈ inquiries, inquiry.point = .normalize → ∀ tree,
    inquiry.answer = .offer (some tree) → inquiry.context.substitution? tree = none

/-- No substitute stands for a node, unless a normalizer has offered a substituted one. -/
def Open (context : Context) (inquiries : List Inquiry) (node : Expr) : Prop :=
  Genuine inquiries → context.substitution? node = none

/-- Every inquiry was made in a guarded context, and about an open node if no sourcer was asked. -/
inductive Sheltered : List Inquiry → Prop
  | start : Sheltered []
  | asked {inquiry : Inquiry} {earlier : List Inquiry} :
    Sheltered earlier → Guarded inquiry.context earlier →
      (inquiry.isSourcing = false → ∀ node, inquiry.context.node? = some node →
        Open inquiry.context earlier node) →
      Sheltered (inquiry :: earlier)

/-- Inquiries have been added, none of them outside of so many frames. -/
def Grown (depth : Nat) (before after : List Inquiry) : Prop :=
  ∃ asked, after = asked ++ before ∧ ∀ inquiry ∈ asked, depth ≤ inquiry.context.depth

/-- What is walked in a further unbound frame is guarded. -/
def Ready (context : Context) (inquiries : List Inquiry) : Prop :=
  Guarded { context with frames := {} :: context.frames } inquiries

/-- The latest inquiry was made at a point, in a setting, and has come to an answer. -/
def Latest (point : Point) (answer : Answer) (setting : Context) (inquiries : List Inquiry) :
    Prop :=
  ∃ inquiry earlier, inquiries = inquiry :: earlier ∧ inquiry.point = point ∧
    inquiry.context.setting = setting ∧ inquiry.answer = answer

section Windows

variable {context entered : Context} {filtering latest : Inquiry} {node tree : Expr}
  {depth : Nat} {inquiries before middle after : List Inquiry}

theorem Inquiry.Encloses.depth_lt (encloses : filtering.Encloses context) :
    filtering.context.depth < context.depth := by
  have deep := encloses.length_le
  simp only [List.length_cons] at deep
  simp only [Context.depth]
  omega

theorem Grown.refl : Grown depth inquiries inquiries :=
  ⟨[], rfl, List.forall_mem_nil _⟩

theorem Grown.trans (first : Grown depth before middle) (second : Grown depth middle after) :
    Grown depth before after := by
  obtain ⟨early, rfl, deep⟩ := first
  obtain ⟨late, rfl, deeper⟩ := second
  exact ⟨late ++ early, (List.append_assoc ..).symm, List.forall_mem_append.mpr ⟨deeper, deep⟩⟩

theorem Grown.mono {outer : Nat} (grown : Grown depth before after) (within : outer ≤ depth) :
    Grown outer before after := by
  obtain ⟨asked, rfl, deep⟩ := grown
  exact ⟨asked, rfl, fun inquiry member => Nat.le_trans within (deep inquiry member)⟩

theorem Genuine.of_grown (genuine : Genuine after) (grown : Grown depth before after) :
    Genuine before := by
  obtain ⟨asked, rfl, -⟩ := grown
  exact fun inquiry member => genuine inquiry (List.mem_append_right _ member)

theorem Open.grown (opened : Open context before node) (grown : Grown depth before after) :
    Open context after node :=
  fun genuine => opened (genuine.of_grown grown)

theorem guarded_nil (context : Context) : Guarded context [] := by
  intro since filtering earlier split
  simp at split

/-- An inquiry made in a frame, or deeper, does not enclose the frame. -/
theorem Guarded.grown (guarded : Guarded context before)
    (grown : Grown context.depth before after) : Guarded context after := by
  obtain ⟨asked, rfl, deep⟩ := grown
  intro since filtering earlier split rewalking
  rcases List.append_eq_append_iff.mp split with ⟨rest, rfl, more⟩ | ⟨rest, rfl, more⟩
  · have enclosed := (List.forall_mem_append.mp rewalking.enclosed).2
    exact guarded rest filtering earlier more { rewalking with enclosed }
  · cases rest with
    | nil =>
      have enclosed : ∀ inquiry : Inquiry, inquiry ∈ [] → filtering.Encloses inquiry.context :=
        List.forall_mem_nil _
      exact guarded [] filtering earlier more.symm { rewalking with enclosed }
    | cons first rest =>
      obtain ⟨rfl, -⟩ := List.cons.inj more
      have shallow := rewalking.here.depth_lt
      have inside := deep filtering (by simp)
      omega

theorem Guarded.substitute (guarded : Guarded context inquiries) :
    Guarded (context.substitute node tree) inquiries := by
  intro since filtering earlier split rewalking other filtered
  have found := guarded since filtering earlier split { rewalking with } other filtered
  simp only [Context.isSome_substitution?, Context.substitute, List.any_cons] at found ⊢
  simp only [found, Bool.or_true]

/-- A context is guarded that no more inquiries enclose, and in which the same is substituted. -/
theorem Guarded.of_encloses (guarded : Guarded context inquiries)
    (encloses : ∀ filtering : Inquiry, filtering.Encloses entered → filtering.Encloses context)
    (same : entered.substitutions = context.substitutions) : Guarded entered inquiries := by
  intro since filtering earlier split rewalking
  rw [Context.substitution?_congr same]
  have here : filtering.Encloses context := encloses filtering rewalking.here
  exact guarded since filtering earlier split { rewalking with here }

theorem Guarded.of_setting (guarded : Guarded context inquiries)
    (same : entered.setting = context.setting) : Guarded entered inquiries := by
  have frames : entered.frames = context.frames := congrArg (·.frames) same
  apply guarded.of_encloses
  · intro filtering encloses
    simpa only [Inquiry.Encloses, frames] using encloses
  · exact congrArg (·.substitutions) same

/-- The frame of a node is guarded as the frames around it are. -/
theorem Guarded.named {binding : Binding} {outer : List Frame}
    (guarded : Guarded context inquiries) (around : outer <:+ context.frames)
    (frames : entered.frames = ⟨some node, binding⟩ :: outer)
    (same : entered.substitutions = context.substitutions) : Guarded entered inquiries := by
  apply guarded.of_encloses _ same
  intro filtering encloses
  simp only [Inquiry.Encloses, frames, List.suffix_cons_iff] at encloses
  rcases encloses with unbound | inside
  · simp at unbound
  · exact inside.trans around

theorem Guarded.push (guarded : Guarded context inquiries)
    (pushed : context.push (some node) = .ok entered) : Guarded entered inquiries := by
  obtain ⟨binding, -, rfl⟩ := Context.push_some pushed
  exact guarded.named List.suffix_rfl rfl rfl

/-- Whether the next unbound frame is guarded depends on the inquiry just made in the frame. -/
theorem Guarded.ready (guarded : Guarded context (latest :: inquiries))
    (frames : latest.context.frames = context.frames)
    (stands : latest.point = .filter → ∀ node, latest.context.node? = some node →
      (context.substitution? node).isSome = true) : Ready context (latest :: inquiries) := by
  intro since filtering earlier split rewalking other filtered
  rcases List.suffix_cons_iff.mp rewalking.here with innermost | here
  · have same : filtering.context.frames = context.frames := (List.cons.inj innermost).2
    cases since with
    | nil =>
      obtain ⟨rfl, -⟩ := List.cons.inj split
      exact stands rewalking.point other filtered
    | cons first since =>
      obtain ⟨rfl, -⟩ := List.cons.inj split
      have shallow := (rewalking.enclosed latest List.mem_cons_self).depth_lt
      simp only [Context.depth, frames, same] at shallow
      omega
  · exact guarded since filtering earlier split { rewalking with here } other filtered

end Windows

namespace Walk

variable {α β : Type}

/-- In settings that are guarded, inquiries are sheltered, and more of them are not made outside. -/
def sheltering : Regime (List Inquiry) where
  view _ inquiries := inquiries
  holds := Sheltered
  guards := Guarded
  failed _ := Sheltered
  leads := Grown
  failed_of_holds _ sheltered := sheltered
  refl _ _ := .refl
  trans := .trans
  leads_outside within grown := grown.mono within
  guards_later guarded grown := guarded.grown grown
  guards_substitute _ _ guarded := guarded.substitute

/-- Begun in a guarded setting after some inquiries, a step makes further ones that are sheltered,
and if it succeeds it leaves a setting and inquiries as they are asked for. -/
abbrev Shelters (setting : Context) (inquiries : List Inquiry) (step : Walk α)
    (leaves : Context → List Inquiry → α → Prop) : Prop :=
  sheltering.Obeys setting inquiries step leaves

section Rules

variable {setting : Context} {inquiries : List Inquiry} {step : Walk α}

/-- Nothing is asked, and the setting stays as it is. -/
def Course.quiet : Course where
  leads before after :=
    after.context.setting = before.context.setting ∧ after.inquiries = before.inquiries
  refl _ := ⟨rfl, rfl⟩
  trans early late := ⟨late.1.trans early.1, late.2.trans early.2⟩
  rebuilt _ _ _ := ⟨rfl, rfl⟩
  logged _ _ := ⟨rfl, rfl⟩

theorem shelters_quiet (quiet : Follows .quiet step) :
    Shelters setting inquiries step fun left _ _ => left = setting := by
  refine Regime.obeys_quiet fun before same here => (quiet before).mono ?_ ?_
  · rintro value after ⟨kept, unasked⟩
    exact ⟨unasked.trans here, kept.trans same⟩
  · rintro error after ⟨-, unasked⟩
    exact unasked.trans here

theorem shelters_consult {answer : α → Answer} {point : Point} {hook : Hook α}
    (opened : (point matches .source _) = false → ∀ node, setting.node? = some node →
      Open setting inquiries node) :
    Shelters setting inquiries (consult answer point hook) fun left after value =>
      left = setting ∧ Latest point (answer value) setting after := by
  rintro before rfl rfl sheltered guarded
  have asked (answer : Answer) (ambient : Ambient) :
      Sheltered (before.inquired point hook.name answer ambient).inquiries :=
    .asked sheltered (guarded.of_setting rfl) opened
  rw [ends_consult]
  split
  · next value ambient ran =>
    refine ⟨⟨[_], rfl, ?_⟩, asked _ ambient, rfl, _, _, rfl, rfl, rfl, rfl⟩
    exact List.forall_mem_singleton.mpr (Nat.le_refl _)
  · next error ambient ran => exact asked _ ambient

end Rules

/-- A visit that shelters whatever node it is of. -/
def Visits (visit : Expr → Walk Expr) : Prop :=
  ∀ setting inquiries node, Shelters setting inquiries (visit node) fun left _ _ => left = setting

/-- A visit under an unbound frame that shelters where that frame is guarded. -/
def Revisits (revisit : Expr → Walk Expr) : Prop :=
  ∀ setting inquiries, Ready setting inquiries → ∀ node,
    Shelters setting inquiries (revisit node) fun left _ _ => left = setting

section Frame

variable {setting : Context} {inquiries : List Inquiry} {node : Expr}

section Hooks

variable (under : setting.node? = some node) (opened : Open setting inquiries node)

include under opened

theorem shelters_asked {answer : α → Answer} {point : Point} {hook : Hook α} :
    Shelters setting inquiries (consult answer point hook) fun left after value =>
      left = setting ∧ Latest point (answer value) setting after := by
  refine shelters_consult fun _ other same => ?_
  cases under.symm.trans same
  exact opened

theorem shelters_replacement? {point : Point} (hooks : List TreeHook) :
    Shelters setting inquiries (replacement? point node hooks) fun left after offered =>
      left = setting ∧
        ∀ tree, offered = some tree → Latest point (.offer (some tree)) setting after := by
  induction hooks generalizing inquiries with
  | nil => exact Regime.obeys_pure ⟨rfl, nofun⟩
  | cons hook rest ih =>
    refine (shelters_asked under opened).bind_later fun asked offered grown latest => ?_
    cases offered with
    | none => exact ih (opened.grown grown)
    | some offered =>
      dsimp only
      split
      · exact ih (opened.grown grown)
      · refine (Regime.obeys_checkType _ _ _).bind_same fun _ _ => ?_
        refine Regime.obeys_pure ⟨rfl, ?_⟩
        rintro tree ⟨rfl⟩
        exact latest

theorem shelters_expansion (registry : Registry) (isReference : Bool) :
    Shelters setting inquiries (expansion registry node isReference) fun left after offered =>
      left = setting ∧
        ∀ tree, offered = some tree → Latest .expand (.offer (some tree)) setting after := by
  unfold expansion
  split
  · exact shelters_replacement? under opened _
  · exact Regime.obeys_pure ⟨rfl, nofun⟩

theorem shelters_inspect (inspectors : List (Hook Bool)) :
    Shelters setting inquiries (inspect node inspectors) fun left _ _ => left = setting := by
  induction inspectors generalizing inquiries with
  | nil => exact Regime.obeys_pure rfl
  | cons hook rest ih =>
    refine (shelters_asked under opened).bind_later fun asked passes grown _ => ?_
    cases passes with
    | true => exact ih (opened.grown grown)
    | false =>
      refine shelters_quiet ?_
      exact follows_context.bind fun _ => (follows_event _ _).bind fun _ => follows_throw _

/-- What a filter has offered is walked while a substitute stands for the node of the frame, and in
an unbound frame that is guarded therefore. -/
theorem shelters_filtered {revisited : Expr → Walk Expr} (again : Revisits revisited)
    (filters : List TreeHook) (current : Expr) :
    Shelters setting inquiries (filtered revisited node filters current)
      fun left _ _ => left = setting := by
  induction filters generalizing inquiries current with
  | nil => exact Regime.obeys_pure rfl
  | cons hook rest ih =>
    refine (shelters_asked under opened).bind_later fun asked offered grown latest => ?_
    cases offered with
    | none => exact ih (opened.grown grown) current
    | some offered =>
      dsimp only
      split
      · exact ih (opened.grown grown) current
      · refine (Regime.obeys_checkType _ _ _).bind_same fun _ _ => ?_
        have walked : Shelters setting asked
            (substituting node current (revisited offered)) fun left _ _ => left = setting := by
          obtain ⟨inquiry, earlier, rfl, -, seen, -⟩ := latest
          have here : inquiry.context.setting.node? = setting.node? := congrArg Context.node? seen
          refine Regime.obeys_substituting (.of_guarded fun guarded => ?_)
          refine (again _ _ (guarded.ready (congrArg (·.frames) seen) fun _ other filtered => ?_)
            offered).mono ?_
          · cases filtered.symm.trans (here.trans under)
            rw [Context.substitution?_substitute, Option.isSome_some]
          · rintro _ after tree - rfl
            rfl
        exact walked.bind_kept fun _ current more => ih (opened.grown (grown.trans more)) current

end Hooks

theorem shelters_source (registry : Registry) (current : Expr) :
    Shelters setting inquiries (source registry current) fun left _ _ => left = setting := by
  refine Regime.obeys_context.bind_same fun context _ => ?_
  split
  · split
    · split
      · exact Regime.obeys_throw _
      · refine (shelters_consult fun ordinary => ?_).bind_later fun _ sourced _ _ => ?_
        · contradiction
        cases sourced with
        | none => exact Regime.obeys_throw _
        | some sourced =>
          refine shelters_quiet ?_
          cases context.root with
          | none => exact @follows_takeRoot .quiet (fun _ _ => ⟨rfl, rfl⟩) _ _ _ _
          | some root => exact follows_takeFragment _ _ _ _ _
    · exact Regime.obeys_pure rfl
  · exact Regime.obeys_pure rfl

theorem shelters_mapM {visited : Expr → Walk Expr} (each : Visits visited)
    (nodes : List Expr) :
    Shelters setting inquiries (nodes.mapM visited) fun left _ _ => left = setting := by
  induction nodes generalizing inquiries with
  | nil => exact Regime.obeys_pure rfl
  | cons node rest ih =>
    rw [List.mapM_cons]
    refine (each setting inquiries node).bind_kept fun middle _ _ => ?_
    exact ih.bind_kept fun _ _ _ => Regime.obeys_pure rfl

theorem shelters_descended {visited : Expr → Walk Expr} (each : Visits visited)
    (isReference : Bool) :
    Shelters setting inquiries (descended visited node isReference)
      fun left _ _ => left = setting := by
  unfold descended
  split
  · exact Regime.obeys_pure rfl
  · refine (shelters_mapM each _).bind_kept fun _ _ _ => ?_
    exact shelters_quiet (follows_acting fun _ => ⟨rfl, rfl⟩)

/-- After normalizing, the frame is that of an open node. -/
theorem shelters_normalize (registry : Registry) {binding : Binding} {outer : List Frame}
    (frames : setting.frames = ⟨some node, binding⟩ :: outer)
    (opened : Open setting inquiries node) :
    Shelters setting inquiries (normalize registry node) fun left after _ =>
      ∃ normal binding, left = { setting with frames := ⟨some normal, binding⟩ :: outer } ∧
        Open left after normal := by
  have under : setting.node? = some node := Context.node?_of_frames frames
  refine (shelters_replacement? under opened _).bind_later fun after offered grown offers => ?_
  cases offered with
  | none =>
    have same : setting = { setting with frames := ⟨some node, binding⟩ :: outer } := by
      rw [← frames]
    exact Regime.obeys_pure ⟨node, binding, same, opened.grown grown⟩
  | some normal =>
    obtain ⟨inquiry, earlier, rfl, point, seen, answer⟩ := offers normal rfl
    refine Regime.obeys_quiet fun before same here => ?_
    have inside : before.context.frames = ⟨some node, binding⟩ :: outer :=
      (congrArg (·.frames) same).trans frames
    rw [ends_trying]
    split
    · next entered replaced =>
      obtain ⟨binding, -, rfl⟩ := Context.replace_inside inside replaced
      refine ⟨here, normal, binding, ?_, fun genuine => ?_⟩
      · exact congrArg (fun context : Context =>
          { context with frames := ⟨some normal, binding⟩ :: outer }) same
      · have unsubstituted := genuine inquiry List.mem_cons_self point normal answer
        have here : inquiry.context.setting.substitution? normal = none := unsubstituted
        rw [seen, ← same] at here
        exact here
    · exact here

theorem shelters_normalized (registry : Registry) {visited revisited : Expr → Walk Expr}
    (each : Visits visited) (again : Revisits revisited) (entered : Expr)
    (under : setting.node? = some node) (opened : Open setting inquiries node) :
    Shelters setting inquiries (normalized registry visited revisited entered)
      fun left _ _ => left = setting := by
  refine Regime.obeys_context.bind_same fun context ⟨seen, _⟩ =>
    Regime.obeys_context.bind_same fun now _ => ?_
  have node_eq : context.node?.getD entered = node := by
    rw [show context.node? = context.setting.node? from rfl, seen, under]
    rfl
  dsimp only
  rw [node_eq]
  refine (shelters_descended each _).bind_kept fun _ rewritten grown => ?_
  have opened := opened.grown grown
  refine (shelters_inspect under opened _).bind_kept fun _ _ grown => ?_
  have opened := opened.grown grown
  have expands := shelters_expansion under opened registry now.binding.isReference
  refine expands.bind_later fun asked expanded grown offers => ?_
  have opened := opened.grown grown
  have current : Shelters setting asked (expandedOr revisited rewritten expanded)
      fun left _ _ => left = setting := by
    cases expanded with
    | none => exact Regime.obeys_pure rfl
    | some expanded =>
      obtain ⟨inquiry, earlier, rfl, point, seen, -⟩ := offers expanded rfl
      refine .of_guarded fun guarded => again _ _ ?_ expanded
      -- Expanders are asked before filters, so nothing is filtered in this frame yet.
      refine guarded.ready (congrArg (·.frames) seen) fun filtering => ?_
      rw [point] at filtering
      contradiction
  refine current.bind_kept fun _ current grown => ?_
  refine (shelters_filtered under (opened.grown grown) again _ _).bind_kept fun _ _ _ => ?_
  exact shelters_source registry _

theorem shelters_substituted (registry : Registry) (substitute : Expr) :
    Shelters setting inquiries (nested (some substitute) (source registry substitute))
      fun left _ _ => left = setting := by
  refine Regime.obeys_nested fun entered pushed around => ?_
  refine ⟨fun guarded => guarded.push pushed, (shelters_source _ _).mono ?_⟩
  rintro left after tree - rfl
  exact around

theorem shelters_entered (registry : Registry) {visited revisited : Expr → Walk Expr}
    (each : Visits visited) (again : Revisits revisited)
    (opened : Open setting inquiries node) :
    Shelters setting inquiries
      (nested (some node) (inFrame registry visited revisited node))
      fun left _ _ => left = setting := by
  refine Regime.obeys_nested fun entered pushed around => ⟨fun guarded => guarded.push pushed, ?_⟩
  obtain ⟨binding, -, rfl⟩ := Context.push_some pushed
  have opened : Open { setting with frames := ⟨some node, binding⟩ :: setting.frames } inquiries
      node := opened
  refine (shelters_normalize registry rfl opened).bind ?_
  rintro left after - grown ⟨normal, binding, rfl, opened⟩
  refine ⟨rfl, fun guarded => guarded.named (List.suffix_cons _ _) rfl rfl, ?_⟩
  refine (shelters_normalized registry each again node rfl opened).mono ?_
  rintro left after tree - rfl
  exact (Context.surroundings_framed rfl).trans around

end Frame

/-- Every visit shelters, by induction on the frames that may still be entered. -/
theorem visits (registry : Registry) (room : Nat) :
    Visits (visit registry room) ∧ Revisits (revisit registry room) := by
  have deep (setting : Context) (inquiries : List Inquiry) :
      Shelters setting inquiries tooDeep fun left _ _ => left = setting :=
    shelters_quiet follows_tooDeep
  induction room with
  | zero => exact ⟨fun setting inquiries _ => deep setting inquiries,
      fun setting inquiries _ _ => deep setting inquiries⟩
  | succ room ih =>
    obtain ⟨each, again⟩ := ih
    constructor
    · intro setting inquiries node
      refine Regime.obeys_context.bind_same fun context ⟨seen, _⟩ => ?_
      have substitution : context.substitution? node = setting.substitution? node := by
        rw [← seen]
        rfl
      rw [substitution]
      cases found : setting.substitution? node with
      | some substitute => exact shelters_substituted registry substitute
      | none => exact shelters_entered registry each again fun _ => found
    · intro setting inquiries ready node
      refine Regime.obeys_nested fun entered pushed around => ?_
      cases Context.push_none pushed
      refine ⟨fun _ => ready, (each _ _ node).mono ?_⟩
      rintro left after tree - rfl
      exact around

/-- A whole walk that nothing was asked before makes sheltered inquiries only. -/
theorem sheltered_recorded (registry : Registry) (query : Expr) (context : Context)
    (ambient : Ambient) : Sheltered (recorded registry query context ambient).2.inquiries := by
  have shelters : Shelters context.setting [] (whole registry query)
      fun left _ _ => left = context.setting :=
    Regime.obeys_context.bind_same fun now _ => (visits registry _).2 _ _ (guarded_nil _) query
  exact ends_always_iff.mp ((shelters { context, ambient } rfl rfl .start (guarded_nil _)).mono
    (fun _ _ left => left.2.1) (fun _ _ sheltered => sheltered))

end Walk

/-- Whatever comes later, an inquiry was made in a guarded context and about an open node. -/
theorem Sheltered.at_split {inquiries later earlier : List Inquiry} {inquiry : Inquiry}
    (sheltered : Sheltered inquiries) (split : inquiries = later ++ inquiry :: earlier) :
    Guarded inquiry.context earlier ∧ (inquiry.isSourcing = false → ∀ node,
      inquiry.context.node? = some node → Open inquiry.context earlier node) := by
  induction sheltered generalizing later with
  | start => simp at split
  | asked _ guarded opened ih =>
    cases later with
    | nil =>
      cases split
      exact ⟨guarded, opened⟩
    | cons first later => exact ih (List.cons.inj split).2

/-- A walk ends with the frames and the substitutions that it began with, also where it fails. While
the tree that a filter has offered for a node is walked, no hook but the sourcer is asked about the
node, provided that no normalizer offers a node while a substitute stands for it. -/
theorem sheltered_run (registry : Registry) (query : Expr) (context : Context) (ambient : Ambient) :
    let walked := recorded registry query context ambient
    run registry query context ambient = (walked.1, walked.2.toState) ∧
      walked.2.context.frames = context.frames ∧
      walked.2.context.substitutions = context.substitutions ∧
      (context.journal = [] →
        walked.2.context.journal = walked.2.inquiries.map Inquiry.consultation) ∧
      (Genuine walked.2.inquiries → ∀ later asked since filtering earlier,
        walked.2.inquiries = later ++ asked :: (since ++ filtering :: earlier) →
        Rewalking filtering since asked.context → asked.isSourcing = false →
        ∀ node, filtering.context.node? = some node → asked.context.node? ≠ some node) := by
  intro walked
  obtain ⟨same, faithful⟩ := recorded_run registry query context ambient
  have kept : walked.2.context.setting = context.setting :=
    (Walk.returning registry).leads_recorded query context ambient
  refine ⟨same, congrArg (·.frames) kept, congrArg (·.substitutions) kept,
    fun fresh => (faithful fresh).journal_eq, ?_⟩
  intro genuine later asked since filtering earlier split rewalking ordinary node filtered under
  have sheltered : Sheltered walked.2.inquiries :=
    Walk.sheltered_recorded registry query context ambient
  obtain ⟨guarded, opened⟩ := sheltered.at_split split
  have substituted := guarded since filtering earlier rfl rewalking node filtered
  have unsubstituted : asked.context.substitution? node = none := by
    refine opened ordinary node under fun inquiry member => genuine inquiry ?_
    rw [split]
    exact List.mem_append_right _ (List.mem_cons_of_mem _ member)
  rw [unsubstituted] at substituted
  contradiction

/-- When the predicate over the orders is done with, they are still what is filtered, and it is not
they that the filter is asked about. -/
theorem orders_sheltered :
    let model : Model := {
      space := "shop"
      entityTypes := [("Order", { name := "Order", fields := [("open", { type := .bool })] })]
      elements := [("Orders", .collection "Orders" "Order")] }
    let store : Evaluation.Store := { collections := [("Orders", [])] }
    let opened : Access.CollectionFilter :=
      ⟨[("Orders", fun row => Fresh.member row "open" .bool)]⟩
    let orders : Expr := .source ⟨0, .queryable (.entity "Order")⟩ none "Orders" []
    let inquiries := (recorded { filters := [opened.hook], sourcer := some store.sourcer } orders
      { model, request := .ofCaller .service, maxDepth := 8 } { supply := ⟨1⟩ }).2.inquiries
    ∃ asked since filtering, inquiries = asked :: (since ++ [filtering]) ∧
      Rewalking filtering since asked.context ∧ asked.point = .filter ∧
      filtering.context.node? = some orders ∧ asked.context.node? ≠ some orders := by
  intro model store opened orders inquiries
  have genuine : ∀ inquiry ∈ inquiries, inquiry.point ≠ .normalize := by decide +kernel
  have long : 1 < inquiries.length := by decide +kernel
  have seen : ∀ asked ∈ inquiries.head?, ∀ filtering ∈ inquiries.tail.getLast?,
      Rewalking filtering inquiries.tail.dropLast asked.context ∧ asked.point = .filter ∧
        filtering.context.node? = some orders := by
    decide +kernel
  have unasked {asked filtering : Inquiry} {since : List Inquiry}
      (split : inquiries = asked :: (since ++ [filtering])) :=
    (sheltered_run { filters := [opened.hook], sourcer := some store.sourcer } orders
      { model, request := .ofCaller .service, maxDepth := 8 } { supply := ⟨1⟩ }).2.2.2.2
        (fun inquiry member normalizing => (genuine inquiry member normalizing).elim)
        [] asked since filtering [] split
  clear_value inquiries
  obtain ⟨asked, rest, rfl⟩ := List.exists_cons_of_length_pos (Nat.zero_lt_of_lt long)
  rcases List.eq_nil_or_concat' rest with rfl | ⟨since, filtering, rfl⟩
  · contradiction
  · obtain ⟨rewalking, point, filtered⟩ := seen asked rfl filtering List.getLast?_concat
    rw [List.tail_cons, List.dropLast_concat] at rewalking
    have ordinary : asked.isSourcing = false := by rw [Inquiry.isSourcing, point]
    exact ⟨asked, since, filtering, rfl, rewalking, point, filtered,
      unasked rfl rewalking ordinary orders filtered⟩

end QueryRewriting.Rewriting
