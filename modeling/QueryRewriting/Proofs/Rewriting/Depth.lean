import QueryRewriting.Evaluation.Backend
import QueryRewriting.Proofs.Binding
import QueryRewriting.Proofs.Expr.Levels
import QueryRewriting.Proofs.Rewriting.Recording
import QueryRewriting.Proofs.Rewriting.Sourcing

/-! The limit on nested frames is exact. Where only a sourcer is asked, and never in vain, a walk
needs a frame for each node on the longest path of the query and one around them all, so that it
fails exactly where the limit is lower, and for that reason. Whatever the hooks of a walk are, none
of them ever sees more frames than the limit allows. -/
namespace QueryRewriting.Rewriting

open Schema

/-- If a sourcer was asked, its answer can be taken: as the root, or as a fragment that belongs with
the root there is. -/
def Inquiry.served (inquiry : Inquiry) : Bool :=
  !inquiry.isSourcing ||
    match inquiry.context.node?, inquiry.answer with
    | some node, .offer (some sourced) =>
      match inquiry.context.root, sourced with
      | none, .queryable _ _ _ expression => node.type.accepts expression.type
      | none, _ => false
      | some root, fragment => !fragment.isQueryable &&
          !fragment.hasNode (Walk.checkEmbedded.foreign root.proxy) &&
          node.type.accepts fragment.type
    | _, _ => false

/-- A registry without hooks other than a sourcer. -/
def Registry.only (sourcer : Option Sourcer) : Registry := { sourcer }

namespace Context

/-- So many more frames may be entered. All frames can be bound, and nothing is substituted. -/
structure Leaves (model : Model) (room : Nat) (context : Context) : Prop where
  model_eq : context.model = model
  room_eq : context.depth + room = context.maxDepth
  binds : ∀ frame ∈ context.frames, ∀ node, frame.node = some node → node.binds model = true
  unsubstituted : context.substitutions = []

variable {context earlier : Context} {model : Model} {room : Nat}

theorem Leaves.of_setting (leaves : Leaves model room earlier)
    (same : context.setting = earlier.setting) : Leaves model room context where
  model_eq := (congrArg (·.model) same : context.model = _).trans leaves.model_eq
  room_eq := by
    have frames : context.frames = earlier.frames := congrArg (·.frames) same
    have limit : context.maxDepth = earlier.maxDepth := congrArg (·.maxDepth) same
    rw [depth, frames, limit]
    exact leaves.room_eq
  binds := by
    have frames : context.frames = earlier.frames := congrArg (·.frames) same
    rw [frames]
    exact leaves.binds
  unsubstituted :=
    (congrArg (·.substitutions) same : context.substitutions = _).trans leaves.unsubstituted

/-- With room for it a node that can be bound gets its frame, which leaves less room. -/
theorem Leaves.push (leaves : Leaves model (room + 1) context) {node : Expr}
    (binds : node.binds model = true) :
    ∃ binding, context.bindIn context.frames node = .ok binding ∧
      context.push (some node) =
        .ok { context with frames := ⟨some node, binding⟩ :: context.frames } ∧
      Leaves model room { context with frames := ⟨some node, binding⟩ :: context.frames } := by
  obtain ⟨model_eq, room_eq, outer, unsubstituted⟩ := leaves
  have shallow : context.depth < context.maxDepth := by omega
  obtain ⟨binding, bound⟩ :=
    bindIn_of_binds (model_eq ▸ binds) (model_eq ▸ outer)
  refine ⟨binding, bound, push_of_bound shallow bound, model_eq, ?_, ?_, unsubstituted⟩
  · simp only [depth, List.length_cons] at room_eq ⊢
    omega
  · intro frame member inner shape
    rcases List.mem_cons.mp member with rfl | member
    · cases shape
      exact binds
    · exact outer frame member inner shape

theorem Leaves.push_unbound (leaves : Leaves model (room + 1) context) :
    context.push none = .ok { context with frames := {} :: context.frames } ∧
      Leaves model room { context with frames := {} :: context.frames } := by
  obtain ⟨model_eq, room_eq, outer, unsubstituted⟩ := leaves
  refine ⟨if_neg (by omega), model_eq, ?_, ?_, unsubstituted⟩
  · simp only [depth, List.length_cons] at room_eq ⊢
    omega
  · intro frame member inner shape
    rcases List.mem_cons.mp member with rfl | member
    · contradiction
    · exact outer frame member inner shape

end Context

namespace Walk

variable {α β : Type} {before : Recording} {fits : Prop}

/-- What fits. A step succeeds only if something does, and fails for depth only if it does not. -/
def fathoming : Account Prop where
  done fits _ _ := fits
  failed fits error before after := error = .depthExceeded before.context.maxDepth ∧ ¬fits ∨
    ∃ inquiry ∈ after.inquiries, inquiry.served = false
  idle := True
  join first rest := first ∧ rest
  idle_join _ := propext (and_iff_right trivial)
  join_idle _ := propext (and_iff_left trivial)
  done_idle _ _ := trivial
  done_join early late := ⟨early, late⟩
  failed_first := .imp_left (And.imp_right fun unfit fits => unfit fits.1)
  failed_rest same _ := .imp_left fun ⟨deep, unfit⟩ =>
    ⟨deep.trans (congrArg Error.depthExceeded (congrArg (·.maxDepth) same)),
      fun fits => unfit fits.2⟩

theorem fathoming_unstacked : fathoming.Unstacked :=
  ⟨fun _ _ _ => .rfl, fun _ _ _ _ => .rfl⟩

/-- Unless a sourcer is asked in vain, the step succeeds where something fits, and fails for depth
where it does not. A success hands the setting back. -/
abbrev Fathoms (step : Walk α) (fits : Prop) (before : Recording) : Prop :=
  fathoming.Charges fits step (fun _ => True) before

theorem Fathoms.congr {step : Walk α} {fits' : Prop} (fathoms : Fathoms step fits before)
    (same : fits ↔ fits') : Fathoms step fits' before := propext same ▸ fathoms

theorem fathoms_tooDeep (unfit : ¬fits) : Fathoms tooDeep fits before := .inl ⟨rfl, unfit⟩

theorem fathoms_mapM {visit : Expr → Walk Expr} {fits : Expr → Prop} {nodes : List Expr}
    (each : ∀ node ∈ nodes, ∀ state, state.context.setting = before.context.setting →
      Fathoms (visit node) (fits node) state) :
    Fathoms (nodes.mapM visit) (∀ node ∈ nodes, fits node) before := by
  let all (nodes : List Expr) := ∀ node ∈ nodes, fits node
  have none : all [] = fathoming.idle := propext (iff_of_true (List.forall_mem_nil _) trivial)
  have some (node : Expr) (rest : List Expr) :
      all (node :: rest) = fathoming.join (fits node) (all rest) := propext List.forall_mem_cons
  have visited : fathoming.Charges (all nodes) _ _ before := Account.charges_mapM none some each
  exact visited.mono fun _ _ => trivial

section Frame

variable {node : Expr} {binding : Binding} {outer : List Frame} {sourcer : Option Sourcer}

/-- Without other hooks a node in its frame is visited below and then sourced. -/
theorem ends_framed {visit revisit : Expr → Walk Expr} {done : Expr → Recording → Prop}
    {failed : Error → Recording → Prop}
    (frames : before.context.frames = ⟨some node, binding⟩ :: outer) :
    Ends (inFrame (.only sourcer) visit revisit node) done failed before ↔
      Ends (descended visit node binding.isReference >>= source (.only sourcer)) done failed
        before := by
  have unfiltered (current : Expr) :
      filtered revisit node (Registry.only sourcer).filters current = pure current := rfl
  rw [ends_unhooked (show (Registry.only sourcer).normalizers = [] from rfl) rfl rfl frames]
  simp only [unfiltered, pure_bind]

theorem fathoms_settled {current : Expr} (unbound : before.context.binding.reference? = none) :
    Fathoms (source (.only sourcer) current) True before := by
  apply (ends_source_settled (.inl unbound)).mpr
  exact ⟨rfl, trivial, trivial⟩

/-- The sourcing of a reference in its frame fails only if the sourcer is asked in vain. -/
theorem fathoms_sourced {target : DataReference} (asked : sourcer.isSome = true)
    (under : before.context.node? = some node)
    (here : before.context.binding.reference? = some target) :
    Fathoms (source (.only sourcer) node) True before := by
  obtain ⟨sourcer, rfl⟩ := Option.isSome_iff_exists.mp asked
  unfold Fathoms Account.Charges source
  rw [ends_bind, ends_context, here, under]
  simp only [if_true, Registry.only]
  rw [ends_bind, ends_consult]
  have seen (mode : SourceMode) (hook : String) :
      (before.context.consulting (.source mode) hook).node? = some node := under
  have rooted (mode : SourceMode) (hook : String) :
      (before.context.consulting (.source mode) hook).root = before.context.root := rfl
  split
  · next offered ambient ran =>
    cases offered with
    | none => exact .inr ⟨_, List.mem_cons_self, by simp [Inquiry.served, Inquiry.isSourcing]⟩
    | some sourced =>
      dsimp only
      cases taken : before.context.root with
      | none =>
        refine (takeRoot_ends _ _ _ _).mono ?_ ?_
        · rintro tree after ⟨_, _, _, _, -, -, rfl⟩
          exact ⟨rfl, trivial, trivial⟩
        · rintro error after ⟨rfl, refused⟩
          refine .inr ⟨_, List.mem_cons_self, ?_⟩
          simp only [Inquiry.served, Inquiry.isSourcing, seen, rooted, taken]
          cases sourced with
          | queryable stamp proxy element tree => simp [refused stamp proxy element tree rfl]
          | _ => rfl
      | some root =>
        refine (takeFragment_ends _ _ _ _ _).mono ?_ ?_
        · rintro tree after ⟨-, -, -, -, ambient, rfl⟩
          exact ⟨rfl, trivial, trivial⟩
        · rintro error after ⟨rfl, refused⟩
          refine .inr ⟨_, List.mem_cons_self, ?_⟩
          simp only [Inquiry.served, Inquiry.isSourcing, seen, rooted, taken]
          rcases refused with ⟨standalone, -⟩ | ⟨-, foreign | mistyped⟩
          · simp [standalone]
          · simp [foreign]
          · simp [mistyped]
  · next error ambient ran =>
    exact .inr ⟨_, List.mem_cons_self, by simp [Inquiry.served, Inquiry.isSourcing]⟩

end Frame

section Visits

variable {sourcer : Option Sourcer} {model : Model} {room : Nat}

/-- Wherever so many more frames may be entered, a visit of a tree whose references can be bound
succeeds if the tree is not higher than that. -/
def Measures (sourcer : Option Sourcer) (model : Model) (room : Nat) (added : Nat)
    (visit : Expr → Walk Expr) : Prop :=
  ∀ e before, e.binds model = true → (e.outerReferences = [] ∨ sourcer.isSome = true) →
    before.context.Leaves model room → Fathoms (visit e) (e.outerHeight + added ≤ room) before

theorem measures_plain {e : Expr} {binding : Binding} {before : Recording}
    (plain : e.isSource = false) (binds : e.binds model = true)
    (asked : e.outerReferences = [] ∨ sourcer.isSome = true)
    (each : Measures sourcer model room 0 (visit (.only sourcer) room))
    {outer : List Frame} (frames : before.context.frames = ⟨some e, binding⟩ :: outer)
    (unbound : binding.reference? = none) (leaves : before.context.Leaves model room) :
    Fathoms (descended (visit (.only sourcer) room) e binding.isReference >>=
      source (.only sourcer)) (e.outerHeight ≤ room + 1) before := by
  have unreferenced : binding.isReference = false := by simp [Binding.isReference, unbound]
  rw [Expr.binds_eq plain, List.all_eq_true] at binds
  rw [Expr.outerReferences_eq plain, List.flatMap_eq_nil_iff] at asked
  have children : Fathoms (e.children.mapM (visit (.only sourcer) room))
      (∀ child ∈ e.children, child.outerHeight ≤ room) before := by
    refine fathoms_mapM fun child member state same => ?_
    exact each child state (binds child member) (asked.imp_left fun none => none child member)
      (leaves.of_setting same)
  rw [descended, unreferenced, if_neg Bool.false_ne_true]
  refine Fathoms.congr ?_ (Expr.levels_le_succ_iff plain).symm
  have made := (Account.charges_children children).mono fun _ _ => trivial
  refine made.andThen fun tree after same _ => fathoms_settled ?_
  rw [Context.binding_of_setting same, Context.binding_of_frames frames]
  exact unbound

theorem measures_visit (each : Measures sourcer model room 0 (visit (.only sourcer) room)) :
    Measures sourcer model (room + 1) 0 (visit (.only sourcer) (room + 1)) := by
  intro e before binds asked leaves
  obtain ⟨binding, bound, pushed, inside⟩ := leaves.push binds
  have free := Context.substitution?_of_bare leaves.unsubstituted e
  apply (ends_visit free).mpr
  refine Account.charges_pushed fathoming_unstacked pushed ((ends_framed rfl).mpr ?_)
  cases shape : e.isSource with
  | false =>
    exact measures_plain shape binds asked each rfl (Context.unbound_of_bindIn bound shape) inside
  | true =>
    obtain ⟨target, rfl⟩ := Binding.ofNode_of_isSource shape (Context.bindIn_ok bound)
    rw [Expr.outerReferences_of_isSource shape] at asked
    have served : Fathoms (source (.only sourcer) e) True
        { before with context := { before.context with
          frames := ⟨some e, .reference target⟩ :: before.context.frames } } :=
      fathoms_sourced (asked.resolve_left (List.cons_ne_nil _ _)) rfl rfl
    refine served.congr ?_
    rw [Expr.outerHeight, Expr.levels_of_isSource shape]
    simp

/-- By induction on the frames that may still be entered. -/
theorem measures_walk (room : Nat) :
    Measures sourcer model room 0 (visit (.only sourcer) room) ∧
      Measures sourcer model room 1 (revisit (.only sourcer) room) := by
  have unfit (e : Expr) (added : Nat) : ¬e.outerHeight + added ≤ 0 := by
    have := e.levels_pos fun _ => 0
    unfold Expr.outerHeight
    omega
  induction room with
  | zero =>
    exact ⟨fun e before _ _ _ => fathoms_tooDeep (unfit e 0),
      fun e before _ _ _ => fathoms_tooDeep (unfit e 1)⟩
  | succ room ih =>
    refine ⟨measures_visit ih.1, fun e before binds asked leaves => ?_⟩
    obtain ⟨pushed, inside⟩ := leaves.push_unbound
    have walked := Account.charges_pushed fathoming_unstacked pushed (ih.1 e _ binds asked inside)
    refine Fathoms.congr walked ?_
    omega

end Visits

end Walk

/-- No more frames are open than a limit allows, and none were when a hook was consulted. -/
structure Context.Shallow (limit : Nat) (context : Context) : Prop where
  maxDepth_eq : context.maxDepth = limit
  frames : context.depth ≤ limit
  entries : ∀ entry ∈ context.journal, entry.depth ≤ limit

namespace Context.Shallow

variable {context entered : Context} {limit : Nat}

theorem push {node : Option Expr} (shallow : context.Shallow limit)
    (pushed : context.push node = .ok entered) : entered.Shallow limit := by
  obtain ⟨maxDepth_eq, -, entries⟩ := shallow
  have room : context.depth < limit := by
    unfold Context.push at pushed
    split at pushed
    · contradiction
    · omega
  cases node with
  | none =>
    cases push_none pushed
    exact ⟨maxDepth_eq, room, entries⟩
  | some node =>
    obtain ⟨binding, -, rfl⟩ := push_some pushed
    exact ⟨maxDepth_eq, room, entries⟩

theorem replace {node : Expr} (shallow : context.Shallow limit)
    (replaced : context.replace node = .ok entered) : entered.Shallow limit := by
  cases frames : context.frames with
  | cons frame outer =>
    obtain ⟨binding, -, rfl⟩ := replace_inside frames replaced
    refine ⟨shallow.maxDepth_eq, ?_, shallow.entries⟩
    have opened := shallow.frames
    simpa only [depth, frames, List.length_cons] using opened
  | nil =>
    unfold Context.replace at replaced
    rw [frames, List.tail_nil] at replaced
    cases bound : context.bindIn [] node with
    | error error => simp [bound, bind, Except.bind] at replaced
    | ok binding =>
      simp only [bound, bind, Except.bind] at replaced
      exact shallow.push replaced

theorem pop (shallow : context.Shallow limit) : context.pop.Shallow limit := by
  unfold Context.pop
  split
  · exact shallow
  · next left outer frames =>
    refine ⟨shallow.maxDepth_eq, Nat.le_trans ?_ shallow.frames, shallow.entries⟩
    simp [depth, frames]

theorem consulting (shallow : context.Shallow limit) (point : Point) (hook : String) :
    (context.consulting point hook).Shallow limit :=
  ⟨shallow.maxDepth_eq, shallow.frames, List.forall_mem_cons.mpr ⟨shallow.frames, shallow.entries⟩⟩

end Context.Shallow

/-- A walk keeps a limit on frames. -/
def shallow (limit : Nat) (registry : Registry) : Conduct registry where
  leads before after := before.context.Shallow limit → after.context.Shallow limit
  inside before after := before.context.Shallow limit → after.context.Shallow limit
  refl _ := id
  trans early late shallow := late (early shallow)
  rebuilt _ _ _ := id
  logged _ _ := id
  inside_refl _ := id
  leads_inside early late shallow := late (early shallow)
  inside_leads early late shallow := late (early shallow)
  asked _ _ shallow := shallow.consulting _ _
  replaced replaced shallow := shallow.replace replaced
  framed pushed within shallow := (within (shallow.push pushed)).pop
  substituted within shallow :=
    have ended := within ⟨shallow.maxDepth_eq, shallow.frames, shallow.entries⟩
    ⟨ended.maxDepth_eq, ended.frames, ended.entries⟩
  rooted _ _ shallow := ⟨shallow.maxDepth_eq, shallow.frames, shallow.entries⟩

/-- Without other hooks than a sourcer that is never asked in vain, a walk over a query whose
references name sources succeeds if the limit allows a frame for each node of its longest path and
one more, and otherwise it fails for its depth. No hook of any walk sees more frames than the limit
allows. -/
theorem depth_exact (model : Model) (request : RequestContext) (maxDepth : Nat)
    (ambient : Ambient) :
    (∀ sourcer query, query.binds model = true →
      (query.outerReferences = [] ∨ sourcer.isSome = true) →
      (∀ inquiry ∈ (recorded (.only sourcer) query { model, request, maxDepth }
        ambient).2.inquiries, inquiry.served = true) →
      ∀ error, (run (.only sourcer) query { model, request, maxDepth } ambient).1 = .error error ↔
        maxDepth < query.outerHeight + 1 ∧ error = .depthExceeded maxDepth) ∧
    ∀ registry query, ∀ inquiry ∈ (recorded registry query { model, request, maxDepth }
      ambient).2.inquiries, inquiry.context.depth ≤ maxDepth := by
  constructor
  · intro sourcer query binds asked served error
    have start : ({ model, request, maxDepth } : Context).Leaves model maxDepth :=
      ⟨rfl, Nat.zero_add _, nofun, rfl⟩
    have walked : Walk.Fathoms (Walk.whole (.only sourcer) query) (query.outerHeight + 1 ≤ maxDepth)
        { context := { model, request, maxDepth }, ambient } := by
      apply (Walk.ends_whole _ _).mpr
      exact (Walk.measures_walk maxDepth).2 query _ binds asked start
    rw [(recorded_run (.only sourcer) query { model, request, maxDepth } ambient).1]
    unfold recorded at served ⊢
    unfold Walk.Fathoms Walk.Account.Charges Ends at walked
    generalize (Walk.whole (.only sourcer) query).run.run _ = result at *
    rcases result with ⟨failure | tree, after⟩
    · rcases walked with ⟨deep, unfit⟩ | ⟨inquiry, listed, vain⟩
      · subst deep
        rw [Except.error.injEq, eq_comm, and_iff_right (Nat.lt_of_not_le unfit)]
      · rw [served inquiry listed] at vain
        contradiction
    · exact ⟨nofun, fun deep => absurd walked.2.1 (Nat.not_le_of_lt deep.1)⟩
  · intro registry query inquiry listed
    have faithful := (recorded_run registry query { model, request, maxDepth } ambient).2
    have start : ({ model, request, maxDepth } : Context).Shallow maxDepth :=
      ⟨rfl, Nat.zero_le _, nofun⟩
    have entries := ((shallow maxDepth registry).leads_recorded query _ ambient start).entries
    rw [(faithful rfl).journal_eq] at entries
    exact entries _ (List.mem_map.mpr ⟨inquiry, listed, rfl⟩)

/-- Whether there is an order that is not open: the longest path of the query has six nodes. -/
theorem orders_fathomed :
    let model : Model := {
      space := "shop"
      entityTypes := [("Order", { name := "Order", fields := [("open", { type := .bool })] })]
      elements := [("Orders", .collection "Orders" "Order")] }
    let store : Evaluation.Store := { collections := [("Orders", [])] }
    let order : QueryType := .entity "Order"
    let closed : Expr :=
      .not ⟨0, .bool⟩ (.member ⟨1, .bool⟩ (.parameter ⟨2, order⟩ "o") "open")
    let query : Expr := .call ⟨3, .bool⟩ .any [.call ⟨4, .queryable order⟩ .filter
      [.source ⟨5, .queryable order⟩ none "Orders" [], .lambda ⟨6, .bool⟩ "o" closed]]
    (run (.only (some store.sourcer)) query
        { model, request := .ofCaller .service, maxDepth := 6 } { supply := ⟨7⟩ }).1 =
          .error (.depthExceeded 6) ∧
      ∀ inquiry ∈ (recorded (.only (some store.sourcer)) query
        { model, request := .ofCaller .service, maxDepth := 7 } { supply := ⟨7⟩ }).2.inquiries,
        inquiry.context.depth ≤ 7 := by
  intro model store order closed query
  have served : (recorded (.only (some store.sourcer)) query
      { model, request := .ofCaller .service, maxDepth := 6 }
        { supply := ⟨7⟩ }).2.inquiries.all Inquiry.served = true := by
    decide +kernel
  have height : query.outerHeight = 6 := by decide +kernel
  have measured := (depth_exact model (.ofCaller .service) 6 { supply := ⟨7⟩ }).1
    (some store.sourcer) query (by decide +kernel) (.inr rfl) (List.all_eq_true.mp served)
    (.depthExceeded 6)
  rw [height] at measured
  exact ⟨measured.mpr ⟨Nat.lt_succ_self 6, rfl⟩,
    (depth_exact model (.ofCaller .service) 7 { supply := ⟨7⟩ }).2 _ query⟩

end QueryRewriting.Rewriting
