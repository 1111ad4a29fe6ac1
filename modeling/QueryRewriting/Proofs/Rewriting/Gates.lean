import QueryRewriting.Proofs.Rewriting.Notice

/-! Inspectors as gates. An inspector whose verdict is a function of the context only decides
whether a walk goes on. A walk with such inspectors is followed next to the record of a walk that
is merely looked at: as long as all verdicts about the recorded inspection points are favourable,
both walks do the same, and after the first one that is not, the walk with inspectors has failed. -/
namespace QueryRewriting.Rewriting

variable {α β : Type} (notice : Notice)

/-- An inspector whose verdict is a function of the context, that never fails itself, and that does
nothing which is noticed. -/
structure Gate where
  hook : Hook Bool
  verdict : Context → Bool
  verdict_substance (context : Context) : verdict context.substance = verdict context
  run_eq (context : Context) (ambient : Ambient) : ∃ after,
    (hook.run context).run.run ambient = (.ok (verdict context), after) ∧
      notice.alike ambient after

/-- The gate that only gives its verdict. -/
def Gate.ofVerdict (name : String) (verdict : Context → Bool)
    (seen : ∀ context, verdict context.substance = verdict context) : Gate notice where
  hook := ⟨name, fun context => return verdict context⟩
  verdict := verdict
  verdict_substance := seen
  run_eq _ ambient := ⟨ambient, rfl, notice.equivalence.refl ambient⟩

variable {notice} in
theorem Gate.verdict_eq (gate : Gate notice) {context other : Context}
    (same : context.substance = other.substance) : gate.verdict context = gate.verdict other := by
  rw [← gate.verdict_substance context, same, gate.verdict_substance]

/-- The inspector that passes everything. -/
def onlooker : Hook Bool := ⟨"onlooker", fun _ => return true⟩

namespace Registry

/-- The registry with an onlooker in place of its inspectors. -/
def watched (registry : Registry) : Registry := { registry with inspectors := [onlooker] }

/-- The contexts that a walk without inspectors has at its inspection points, the latest first. -/
def inspectionPoints (registry : Registry) (query : Expr) (context : Context) (ambient : Ambient) :
    List Context :=
  ((recorded registry.watched query context ambient).2.inquiries.filter
    fun inquiry => inquiry.point = .inspect).map Inquiry.context

end Registry

section Guarding

open Walk

variable {notice : Notice} (gates : List (Gate notice)) (request : RequestContext)

/-- All gates pass all inspection points of a record. -/
def Passed (inquiries : List Inquiry) : Prop :=
  ∀ inquiry ∈ inquiries, inquiry.point = .inspect →
    ∀ gate ∈ gates, gate.verdict inquiry.context = true

/-- A walk has failed at one of the gates. -/
def Barred (outcome : Except Error α) : Prop :=
  ∃ gate ∈ gates, ∃ target, outcome = .error (.inspectionFailed gate.hook.name target)

/-- A record is for a request: all contexts in it are. -/
structure Requested (recording : Recording) : Prop where
  current : recording.context.request = request
  inquired : ∀ inquiry ∈ recording.inquiries, inquiry.context.request = request

/-- A record only grows, and stays one for a request. -/
structure Traced (before after : Recording) : Prop where
  grows : before.inquiries ⊆ after.inquiries
  requested : Requested request before → Requested request after

/-- A walk and a record of a walk without its gates, as long as all gates have passed. -/
structure InStep (state : State) (recording : Recording) : Prop where
  near : Near notice state recording.toState
  passed : Passed gates recording.inquiries
  requested : Requested request recording

variable {request} in
theorem Traced.of_unasked {before after : Recording} (unasked : Unasked before after) :
    Traced request before after where
  grows := by rw [unasked.inquiries]; exact List.Subset.refl _
  requested start := by
    refine ⟨unasked.request.trans start.current, ?_⟩
    rw [unasked.inquiries]
    exact start.inquired

variable {request} in
theorem Traced.inquired (before : Recording) (point : Point) (hook : String) (answer : Answer)
    (ambient : Ambient) : Traced request before (before.inquired point hook answer ambient) where
  grows := List.subset_cons_self _ _
  requested start := by
    refine ⟨start.current, fun inquiry listed => ?_⟩
    rcases List.mem_cons.mp listed with rfl | listed
    · exact start.current
    · exact start.inquired inquiry listed

/-- The record grows in the course of a walk, and stays one for its request. -/
def Walk.Course.tracing : Walk.Course where
  leads := Traced request
  refl state := .of_unasked (.refl state)
  trans early late :=
    ⟨List.Subset.trans early.grows late.grows, fun start => late.requested (early.requested start)⟩
  rebuilt _ _ _ := .of_unasked ⟨rfl, rfl⟩
  logged _ _ := .of_unasked ⟨rfl, rfl⟩

/-- A step guards one that is watched: where its gates pass all that is recorded, it does the same,
and otherwise it fails at a gate. -/
structure Guards (step watched : Walk α) : Prop where
  follows : Follows (.tracing request) watched
  ends : ∀ state recording : Recording, InStep gates request state.toState recording →
    (step.run.run state).1 = (watched.run.run recording).1 ∧
        InStep gates request (step.run.run state).2.toState (watched.run.run recording).2 ∨
      ¬Passed gates (watched.run.run recording).2.inquiries ∧ Barred gates (step.run.run state).1

variable {gates request}

theorem Guards.traced {step watched : Walk α} (guards : Guards gates request step watched)
    (recording : Recording) : Traced request recording (watched.run.run recording).2 :=
  ends_always_iff.mp (guards.follows recording)

theorem Guards.bind {step watched : Walk α} {next next' : α → Walk β}
    (first : Guards gates request step watched)
    (rest : ∀ value, Guards gates request (next value) (next' value)) :
    Guards gates request (step >>= next) (watched >>= next') where
  follows := first.follows.bind fun value => (rest value).follows
  ends state recording level := by
    have early := first.ends state recording level
    rw [run_bind, run_bind]
    rcases ran : step.run.run state with ⟨answer, middle⟩
    rcases ran' : watched.run.run recording with ⟨answer', middle'⟩
    rw [ran, ran'] at early
    rcases early with ⟨same, level⟩ | ⟨failed, gate, listed, target, refused⟩
    · have same : answer = answer' := same
      subst same
      cases answer with
      | error error => exact .inl ⟨rfl, level⟩
      | ok value => exact (rest value).ends middle middle' level
    · have refused : answer = .error (.inspectionFailed gate.hook.name target) := refused
      subst refused
      refine .inr ⟨?_, gate, listed, target, rfl⟩
      cases answer' with
      | error error => exact failed
      | ok value =>
        intro passed
        apply failed
        exact fun inquiry earlier => passed inquiry (((rest value).traced middle').grows earlier)

theorem guards_pure (value : α) : Guards gates request (pure value) (pure value) where
  follows := follows_pure value
  ends _ _ level := .inl ⟨rfl, level⟩

theorem guards_throw (error : Error) :
    Guards gates request (throw error : Walk α) (throw error) where
  follows := follows_throw error
  ends _ _ level := .inl ⟨rfl, level⟩

theorem guards_blind {step : Walk α} (blind : Blind notice step) :
    Guards gates request step step where
  follows recording := by
    have traced : Traced request recording (step.run.run recording).2 :=
      .of_unasked (blind recording recording (.refl _)).2.2
    rcases ran : step.run.run recording with ⟨_ | _, after⟩
    all_goals
      rw [ran] at traced
      exact (ends_iff_of_run ran).mpr traced
  ends state recording level := by
    obtain ⟨same, near, unasked⟩ := blind state recording level.near
    refine .inl ⟨same, near, ?_, (Traced.of_unasked unasked).requested level.requested⟩
    rw [unasked.inquiries]
    exact level.passed

/-- A step that looks at the context first, of which only the substance matters. -/
theorem guards_context {next next' : Context → Walk α}
    (rest : ∀ context other, context.substance = other.substance →
      Guards gates request (next context) (next' other)) :
    Guards gates request (context >>= next) (context >>= next') where
  follows := follows_context.bind fun context => (rest context context rfl).follows
  ends state recording level :=
    (rest state.context recording.context level.near.substance).ends state recording level

theorem guards_andThen {step watched : Walk α} (guards : Guards gates request step watched)
    {change : Context → Context}
    (commutes : ∀ context, (change context).substance = change context.substance)
    (kept : ∀ context, (change context).request = context.request) :
    Guards gates request (andThen step change) (andThen watched change) where
  follows recording := by
    have changed {after : Recording} (traced : Traced request recording after) :
        Traced request recording { after with context := change after.context } :=
      (Walk.Course.tracing request).trans traced (.of_unasked ⟨kept _, rfl⟩)
    rw [ends_andThen]
    exact (guards.follows recording).mono (fun _ _ => changed) fun _ _ => changed
  ends state recording level := by
    rcases guards.ends state recording level with ⟨same, near, passed, requested⟩ | refused
    · have changed := (congrArg change near.substance).trans (commutes _).symm
      refine .inl ⟨same, ⟨(commutes _).trans changed, near.alike⟩, passed, ?_⟩
      exact ⟨(kept _).trans requested.current, requested.inquired⟩
    · exact .inr refused

theorem guards_nested (node : Option Expr) {step watched : Walk α}
    (guards : Guards gates request step watched) :
    Guards gates request (nested node step) (nested node watched) :=
  (guards_blind (blind_push node)).bind fun _ =>
    guards_andThen guards Context.substance_pop Context.request_pop

theorem guards_substituting (node replacement : Expr) {step watched : Walk α}
    (guards : Guards gates request step watched) :
    Guards gates request (substituting node replacement step)
      (substituting node replacement watched) := by
  have substitutes : Blind notice
      (changing fun context => context.substitute node replacement) :=
    blind_changing (fun _ => rfl) fun _ => rfl
  apply (guards_blind substitutes).bind
  exact fun _ => guards_andThen guards (fun _ => rfl) fun _ => rfl

theorem Passed.more {inquiry : Inquiry} {inquiries : List Inquiry}
    (passed : Passed gates inquiries)
    (new : inquiry.point = .inspect → ∀ gate ∈ gates, gate.verdict inquiry.context = true) :
    Passed gates (inquiry :: inquiries) := by
  intro other listed
  rcases List.mem_cons.mp listed with rfl | listed
  · exact new
  · exact passed other listed

/-- A consistent hook that is no inspector answers the same in both walks. -/
theorem guards_consult {answer : α → Answer} {point : Point} {hook : Hook α}
    (other : point ≠ .inspect) (consistent : hook.Consistent notice) :
    Guards gates request (consult answer point hook) (consult answer point hook) where
  follows := follows_consult fun before => Traced.inquired before point hook.name _ _
  ends state recording level := by
    have seen := Context.substance_consulting level.near.substance point hook.name
    have answers := consistent _ _ _ _ seen level.near.alike
    rw [run_consult, run_consult]
    refine .inl ⟨answers.1, ⟨seen, answers.2⟩, ?_, ?_⟩
    · exact level.passed.more fun same => (other same).elim
    · exact (Traced.inquired recording point hook.name _ _).requested level.requested

theorem guards_replacement? {point : Point} (other : point ≠ .inspect) (node : Expr)
    {hooks : List TreeHook} (consistent : ∀ hook ∈ hooks, hook.Consistent notice) :
    Guards gates request (replacement? point node hooks) (replacement? point node hooks) := by
  induction hooks with
  | nil => exact guards_pure none
  | cons hook rest ih =>
    have ih := ih fun next listed => consistent next (List.mem_cons_of_mem _ listed)
    apply (guards_consult other (consistent hook List.mem_cons_self)).bind
    intro offered
    cases offered with
    | none => exact ih
    | some offered =>
      dsimp only
      split
      · exact ih
      · exact (guards_blind (blind_checkType _ _ _)).bind fun _ => guards_pure _

/-- Where all gates pass a context, asking them changes nothing that is noticed. -/
theorem inspect_passing (node : Expr) {listed : List (Gate notice)} (state : Recording)
    (passes : ∀ gate ∈ listed, gate.verdict state.context = true) :
    ((inspect node (listed.map Gate.hook)).run.run state).1 = .ok () ∧
      Near notice ((inspect node (listed.map Gate.hook)).run.run state).2.toState
        state.toState := by
  induction listed generalizing state with
  | nil => exact ⟨rfl, .refl _⟩
  | cons gate rest ih =>
    obtain ⟨after, ran, quiet⟩ :=
      gate.run_eq (state.context.consulting .inspect gate.hook.name) state.ambient
    have same := gate.verdict_eq (state.context.substance_inspecting gate.hook.name)
    rw [passes gate List.mem_cons_self] at same
    rw [List.map_cons, inspect, run_bind, run_consult, ran, same]
    have others : ∀ other ∈ rest,
        other.verdict (state.context.consulting .inspect gate.hook.name) = true := by
      intro other listed
      rw [other.verdict_eq (state.context.substance_inspecting gate.hook.name)]
      exact passes other (List.mem_cons_of_mem _ listed)
    obtain ⟨passed, near⟩ :=
      ih (state.inquired .inspect gate.hook.name (.verdict true) after) others
    refine ⟨passed, near.substance, ?_⟩
    exact notice.equivalence.trans near.alike (notice.equivalence.symm quiet)

/-- A gate that does not pass a context ends the walk there, or one before it does. -/
theorem inspect_refusing (node : Expr) {listed : List (Gate notice)} {state : Recording}
    (refuses : ∃ gate ∈ listed, gate.verdict state.context = false) :
    Barred listed ((inspect node (listed.map Gate.hook)).run.run state).1 := by
  induction listed generalizing state with
  | nil =>
    obtain ⟨gate, listed, -⟩ := refuses
    contradiction
  | cons gate rest ih =>
    obtain ⟨after, ran, -⟩ :=
      gate.run_eq (state.context.consulting .inspect gate.hook.name) state.ambient
    rw [List.map_cons, inspect, run_bind, run_consult, ran]
    have unchanged (other : Gate notice) :
        other.verdict (state.context.consulting .inspect gate.hook.name) =
          other.verdict state.context :=
      other.verdict_eq (state.context.substance_inspecting gate.hook.name)
    rw [unchanged]
    cases verdict : gate.verdict state.context with
    | false => exact ⟨gate, List.mem_cons_self, _, rfl⟩
    | true =>
      have later : ∃ other ∈ rest,
          other.verdict (state.context.consulting .inspect gate.hook.name) = false := by
        obtain ⟨other, listed, refuses⟩ := refuses
        rcases List.mem_cons.mp listed with rfl | listed
        · rw [verdict] at refuses
          contradiction
        · exact ⟨other, listed, (unchanged other).trans refuses⟩
      obtain ⟨other, listed, target, refused⟩ :=
        @ih (state.inquired .inspect gate.hook.name (.verdict true) after) later
      exact ⟨other, List.mem_cons_of_mem _ listed, target, refused⟩

theorem run_onlooker (node : Expr) (recording : Recording) :
    (inspect node [onlooker]).run.run recording = (.ok (),
      recording.inquired .inspect onlooker.name (.verdict true) recording.ambient) := by
  rw [inspect, run_bind, run_consult]
  rfl

/-- The gates pass where an onlooker has been asked, or the walk is refused. -/
theorem guards_inspect (node : Expr) {listed : List (Gate notice)}
    (all : ∀ gate, gate ∈ listed ↔ gate ∈ gates) :
    Guards gates request (inspect node (listed.map Gate.hook)) (inspect node [onlooker]) where
  follows := follows_inspect (fun _ _ => follows_consult fun before =>
    Traced.inquired before .inspect _ _ _) node
  ends state recording level := by
    have seen (gate : Gate notice) :
        gate.verdict (recording.context.consulting .inspect onlooker.name) =
          gate.verdict state.context :=
      gate.verdict_eq level.near.substance.symm
    rw [run_onlooker]
    by_cases passes : ∀ gate ∈ gates, gate.verdict state.context = true
    · obtain ⟨passed, near⟩ := inspect_passing node state fun gate member =>
        passes gate ((all gate).mp member)
      refine .inl ⟨passed, ⟨?_, ?_⟩, ?_, ?_⟩
      · exact near.substance.trans level.near.substance
      · exact notice.equivalence.trans near.alike level.near.alike
      · exact level.passed.more fun _ gate member => (seen gate).trans (passes gate member)
      · exact (Traced.inquired recording .inspect onlooker.name _ _).requested level.requested
    · right
      simp only [not_forall] at passes
      obtain ⟨gate, member, refuses⟩ := passes
      have refuses : gate.verdict state.context = false := by simpa using refuses
      constructor
      · intro passed
        have passes := passed _ List.mem_cons_self rfl gate member
        rw [seen gate, refuses] at passes
        contradiction
      · obtain ⟨other, listed, target, refused⟩ :=
          inspect_refusing node ⟨gate, (all gate).mpr member, refuses⟩
        exact ⟨other, (all other).mp listed, target, refused⟩

variable (notice request) in
/-- One list of filters has those of another one, in order, and next to them filters that have
nothing to do for a request. -/
inductive Padded : List TreeHook → List TreeHook → Prop
  | nil : Padded [] []
  | cons {hook : TreeHook} {rest rest' : List TreeHook} (consistent : hook.Consistent notice) :
    Padded rest rest' → Padded (hook :: rest) (hook :: rest')
  | idle {hook : TreeHook} {rest rest' : List TreeHook}
    (idle : ∀ context ambient, context.request = request → ∃ after,
      (hook.run context).run.run ambient = (.ok none, after) ∧ notice.alike ambient after) :
    Padded rest rest' → Padded (hook :: rest) rest'

theorem guards_filtered {revisit revisited : Expr → Walk Expr}
    (again : ∀ node, Guards gates request (revisit node) (revisited node)) (node : Expr)
    {filters filters' : List TreeHook} (padded : Padded notice request filters filters')
    (current : Expr) :
    Guards gates request (filtered revisit node filters current)
      (filtered revisited node filters' current) := by
  induction padded generalizing current with
  | nil => exact guards_pure current
  | cons consistent _ ih =>
    apply (guards_consult (by simp) consistent).bind
    intro offered
    cases offered with
    | none => exact ih current
    | some offered =>
      dsimp only
      split
      · exact ih current
      · apply (guards_blind (blind_checkType _ _ _)).bind
        intro _
        exact (guards_substituting _ _ (again offered)).bind ih
  | @idle hook rest rest' idle _ ih =>
    refine ⟨(ih current).follows, ?_⟩
    intro state recording level
    have asked : (state.context.consulting .filter hook.name).request = request := by
      have same : state.context.request = recording.context.request :=
        level.near.same Context.request fun _ => rfl
      exact same.trans level.requested.current
    obtain ⟨after, ran, quiet⟩ := idle _ state.ambient asked
    rw [filtered, run_bind, run_consult, ran]
    apply (ih current).ends
    refine ⟨⟨level.near.substance, ?_⟩, level.passed, level.requested⟩
    exact notice.equivalence.trans (notice.equivalence.symm quiet) level.near.alike

variable (gates request) in
/-- One registry has the hooks of another one but for the inspectors, which are gates, and filters
that have nothing to do for a request. -/
structure Registry.Guarded (registry other : Registry) : Prop where
  normalizers : registry.normalizers = other.normalizers
  inspectors : registry.inspectors = gates.map Gate.hook
  expanders : registry.expanders = other.expanders
  filters : Padded notice request registry.filters other.filters
  sourcer : registry.sourcer = other.sourcer
  consistent : other.Consistent notice

variable {registry other : Registry} (guarded : registry.Guarded gates request other)

include guarded

theorem guards_normalize (node : Expr) :
    Guards gates request (normalize registry node) (normalize other.watched node) := by
  unfold Walk.normalize
  rw [guarded.normalizers]
  have consistent : ∀ hook ∈ other.normalizers.reverse, hook.Consistent notice :=
    fun hook listed => guarded.consistent.normalizers hook (List.mem_reverse.mp listed)
  apply (guards_replacement? (by simp) node consistent).bind
  intro offered
  cases offered with
  | none => exact guards_pure ()
  | some normalized =>
    apply guards_blind
    exact blind_trying (fun context => context.substance_replace normalized)
      fun _ _ => Context.request_replace

theorem guards_source (current : Expr) :
    Guards gates request (source registry current) (source other.watched current) := by
  unfold source
  apply guards_context
  intro context context' same
  have binding : context.binding = context'.binding := (congrArg Context.binding same :)
  have node : context.node? = context'.node? := (congrArg Context.node? same :)
  have root : context.root = context'.root := (congrArg Context.root same :)
  rw [binding, node, root, guarded.sourcer]
  cases context'.binding.reference? with
  | none => exact guards_pure current
  | some reference =>
    dsimp only
    split
    · cases sourcer : other.sourcer with
      | none =>
        have none : other.watched.sourcer = none := sourcer
        rw [none]
        exact guards_throw _
      | some asked =>
        have some : other.watched.sourcer = some asked := sourcer
        rw [some]
        apply (guards_consult (by simp) (guarded.consistent.sourcer asked sourcer _)).bind
        intro sourced
        cases sourced with
        | none => exact guards_throw _
        | some sourced =>
          cases context'.root with
          | none => exact guards_blind (blind_takeRoot _ _ _ _)
          | some root => exact guards_blind (blind_takeFragment _ _ _ _ _)
    · exact guards_pure current

theorem guards_normalized {visit revisit visited revisited : Expr → Walk Expr}
    (each : ∀ node, Guards gates request (visit node) (visited node))
    (again : ∀ node, Guards gates request (revisit node) (revisited node)) (node : Expr) :
    Guards gates request (normalized registry visit revisit node)
      (normalized other.watched visited revisited node) := by
  apply guards_context
  intro context context' same
  have here : context.node? = context'.node? := (congrArg Context.node? same :)
  rw [here]
  apply guards_context
  intro now now' same
  have binding : now.binding = now'.binding := (congrArg Context.binding same :)
  rw [binding]
  apply Guards.bind
  · unfold descended
    split
    · exact guards_pure _
    · have visits (nodes : List Expr) :
          Guards gates request (nodes.mapM visit) (nodes.mapM visited) := by
        induction nodes with
        | nil => exact guards_pure []
        | cons node rest ih =>
          rw [List.mapM_cons, List.mapM_cons]
          exact (each node).bind fun _ => ih.bind fun _ => guards_pure _
      exact (visits _).bind fun _ => guards_blind (blind_acting (Act.heedless_build _))
  · intro rewritten
    apply Guards.bind
    · rw [guarded.inspectors, ← List.map_reverse]
      exact guards_inspect _ fun gate => List.mem_reverse
    · intro _
      apply Guards.bind
      · unfold expansion
        split
        · rw [guarded.expanders]
          exact guards_replacement? (by simp) _ fun hook listed =>
            guarded.consistent.expanders hook (List.mem_reverse.mp listed)
        · exact guards_pure none
      · intro expanded
        apply Guards.bind
        · cases expanded with
          | none => exact guards_pure rewritten
          | some expanded => exact again expanded
        · intro current
          apply (guards_filtered again _ guarded.filters current).bind
          exact fun current => guards_source guarded current

/-- Every visit guards the visit without its gates. -/
theorem guards_walk (room : Nat) :
    (∀ node, Guards gates request (visit registry room node)
      (visit other.watched room node)) ∧
    ∀ node, Guards gates request (revisit registry room node)
      (revisit other.watched room node) := by
  have deep : Guards gates request tooDeep tooDeep := by
    apply guards_blind
    intro state other near
    have limit : state.context.maxDepth = other.context.maxDepth :=
      near.same Context.maxDepth fun _ => rfl
    have ran (state : Recording) : tooDeep.run.run state =
      (.error (.depthExceeded state.context.maxDepth), state) := rfl
    rw [ran, ran, limit]
    exact ⟨rfl, near, .refl _⟩
  induction room with
  | zero => exact ⟨fun _ => deep, fun _ => deep⟩
  | succ room ih =>
    refine ⟨fun node => ?_, fun node => guards_nested none (ih.1 node)⟩
    apply guards_context
    intro context context' same
    have found : context.substitution? node = context'.substitution? node :=
      (congrArg (fun context : Context => context.substitution? node) same :)
    rw [found]
    cases context'.substitution? node with
    | some substitute => exact guards_nested _ (guards_source guarded substitute)
    | none =>
      apply guards_nested
      apply (guards_normalize guarded node).bind
      exact fun _ => guards_normalized guarded ih.1 ih.2 node

theorem guards_whole (query : Expr) :
    Guards gates request (whole registry query) (whole other.watched query) := by
  apply guards_context
  intro context context' same
  have room : context.maxDepth - context.depth = context'.maxDepth - context'.depth :=
    (congrArg (fun context : Context => context.maxDepth - context.depth) same :)
  rw [room]
  exact (guards_walk guarded _).2 query

/-- A walk with gates does what is recorded without them if they all pass the inspection points of
the record, and otherwise fails at one of them. -/
theorem run_guarded (query : Expr) {context : Context} {ambient ambient' : Ambient}
    (alike : notice.alike ambient ambient') (requested : context.request = request) :
    let ran := run registry query context ambient
    let record := recorded other.watched query context ambient'
    ran.1 = record.1 ∧ InStep gates request ran.2 record.2 ∨
      ¬Passed gates record.2.inquiries ∧ Barred gates ran.1 := by
  apply (guards_whole guarded query).ends { context, ambient } { context, ambient := ambient' }
  refine ⟨⟨rfl, alike⟩, ?_, requested, ?_⟩
  · exact fun _ none => absurd none List.not_mem_nil
  · exact fun _ none => absurd none List.not_mem_nil

/-- Gates that let a request pass everywhere leave its walks as they are. -/
theorem run_passing (passing : ∀ gate ∈ gates, ∀ context : Context, context.request = request →
      gate.verdict context = true) (query : Expr) {context : Context} {ambient ambient' : Ambient}
    (alike : notice.alike ambient ambient') (requested : context.request = request) :
    let ran := run registry query context ambient
    let record := recorded other.watched query context ambient'
    ran.1 = record.1 ∧ Near notice ran.2 record.2.toState := by
  have recorded : Requested request (recorded other.watched query context ambient').2 := by
    refine ((guards_whole guarded query).traced { context, ambient := ambient' }).requested ?_
    exact ⟨requested, fun _ none => absurd none List.not_mem_nil⟩
  rcases run_guarded guarded query alike requested with ⟨same, level⟩ | ⟨failed, -⟩
  · exact ⟨same, level.near⟩
  · refine absurd ?_ failed
    intro inquiry listed _ gate member
    exact passing gate member inquiry.context (recorded.inquired inquiry listed)

end Guarding

section Results

variable {notice : Notice} {registry : Registry} (consistent : registry.Consistent notice)
  (gates : List (Gate notice)) (query : Expr) (context : Context) (ambient : Ambient)

theorem padded_refl (request : RequestContext) {filters : List TreeHook}
    (consistent : ∀ hook ∈ filters, hook.Consistent notice) :
    Padded notice request filters filters := by
  induction filters with
  | nil => exact .nil
  | cons hook rest ih =>
    apply Padded.cons
    · exact consistent hook List.mem_cons_self
    · exact ih fun next listed => consistent next (List.mem_cons_of_mem _ listed)

include consistent

theorem guarded_by (request : RequestContext) :
    Registry.Guarded gates request { registry with inspectors := gates.map Gate.hook }
      registry where
  normalizers := rfl
  inspectors := rfl
  expanders := rfl
  filters := padded_refl request consistent.filters
  sourcer := rfl
  consistent := consistent

/-- The record of a walk that is looked at is that of a walk without inspectors. -/
theorem run_uninspected :
    let ran := run { registry with inspectors := [] } query context ambient
    let record := recorded registry.watched query context ambient
    ran.1 = record.1 ∧ Walk.Near notice ran.2 record.2.toState := by
  rcases run_guarded (guarded_by consistent [] context.request) query
      (notice.equivalence.refl ambient) rfl with
    ⟨same, level⟩ | ⟨failed, -⟩
  · exact ⟨same, level.near⟩
  · exact absurd (fun _ _ _ gate none => absurd none List.not_mem_nil) failed

/-- Gates that pass all inspection points leave a walk as it is; it fails at a gate otherwise. -/
theorem run_gated :
    let plain := run { registry with inspectors := [] } query context ambient
    let ran := run { registry with inspectors := gates.map Gate.hook } query context ambient
    if ∀ gate ∈ gates, ∀ point ∈ registry.inspectionPoints query context ambient,
        gate.verdict point = true then
      ran.1 = plain.1 ∧ Walk.Near notice ran.2 plain.2
    else Barred gates ran.1 := by
  intro plain ran
  obtain ⟨same, near⟩ := run_uninspected consistent query context ambient
  have points : (∀ gate ∈ gates, ∀ point ∈ registry.inspectionPoints query context ambient,
      gate.verdict point = true) ↔
      Passed gates (recorded registry.watched query context ambient).2.inquiries := by
    simp only [Registry.inspectionPoints, Passed, List.mem_map, List.mem_filter, decide_eq_true_eq]
    grind
  rcases run_guarded (guarded_by consistent gates context.request) query
      (notice.equivalence.refl ambient) rfl with
    ⟨same', level⟩ | ⟨failed, refused⟩
  · rw [if_pos (points.mpr level.passed)]
    refine ⟨same'.trans same.symm, level.near.substance.trans near.substance.symm, ?_⟩
    exact notice.equivalence.trans level.near.alike (notice.equivalence.symm near.alike)
  · rw [if_neg fun passed => failed (points.mp passed)]
    exact refused

omit consistent in
/-- What a refused walk ends in. -/
theorem Barred.failed {gates : List (Gate notice)} {outcome : Except Error Expr}
    (refused : Barred gates outcome) :
    ∃ inspector target, outcome = .error (.inspectionFailed inspector target) := by
  obtain ⟨gate, -, target, failed⟩ := refused
  exact ⟨gate.hook.name, target, failed⟩

end Results

/-- Inspectors are gates. If a walk with some of them succeeds, the walk without any comes to the
same tree, sourcing calls, root and collection. It fails in an inspection exactly where one of them
rejects a context that the walk without inspectors has at an inspection point, or where that walk
fails so by itself. Whether a query succeeds, and what it becomes, does not depend on the order in
which inspectors are registered nor on how often. -/
theorem gates_decide {notice : Notice} {registry : Registry}
    (consistent : registry.Consistent notice) (gates : List (Gate notice)) (query : Expr)
    (context : Context) (ambient : Ambient) :
    let plain := run { registry with inspectors := [] } query context ambient
    let gated := fun gates : List (Gate notice) =>
      run { registry with inspectors := gates.map Gate.hook } query context ambient
    (∀ tree, (gated gates).1 = .ok tree → plain.1 = .ok tree ∧
      (gated gates).2.context.sourcingCalls = plain.2.context.sourcingCalls ∧
      (gated gates).2.context.root = plain.2.context.root ∧
      (gated gates).2.context.collection = plain.2.context.collection) ∧
    ((∃ inspector target, (gated gates).1 = .error (.inspectionFailed inspector target)) ↔
      (∃ gate ∈ gates, ∃ point ∈ registry.inspectionPoints query context ambient,
        gate.verdict point = false) ∨
      ∃ inspector target, plain.1 = .error (.inspectionFailed inspector target)) ∧
    ∀ others : List (Gate notice), (∀ gate, gate ∈ others ↔ gate ∈ gates) →
      ∀ tree, (gated others).1 = .ok tree ↔ (gated gates).1 = .ok tree := by
  intro plain gated
  have decided (gates : List (Gate notice)) :
      if ∀ gate ∈ gates, ∀ point ∈ registry.inspectionPoints query context ambient,
          gate.verdict point = true then
        (gated gates).1 = plain.1 ∧ Walk.Near notice (gated gates).2 plain.2
      else Barred gates (gated gates).1 := run_gated consistent gates query context ambient
  refine ⟨?_, ?_, ?_⟩
  · intro tree succeeds
    have decided := decided gates
    split at decided
    · obtain ⟨same, near⟩ := decided
      refine ⟨same.symm.trans succeeds, ?_, ?_, ?_⟩
      · exact near.same Context.sourcingCalls Context.sourcingCalls_substance
      · exact near.same Context.root fun _ => rfl
      · exact near.same Context.collection fun _ => rfl
    · obtain ⟨inspector, target, failed⟩ := decided.failed
      rw [succeeds] at failed
      contradiction
  · have decided := decided gates
    split at decided
    · next passed =>
      rw [decided.1]
      refine ⟨.inr, fun either => either.elim ?_ id⟩
      rintro ⟨gate, listed, point, reached, rejects⟩
      rw [passed gate listed point reached] at rejects
      contradiction
    · next rejected =>
      refine ⟨fun _ => .inl ?_, fun _ => decided.failed⟩
      simpa using rejected
  · intro others same tree
    have first := decided gates
    have second := decided others
    simp only [same] at second
    split at first <;> split at second
    · rw [first.1, second.1]
    · contradiction
    · contradiction
    · obtain ⟨_, _, failed⟩ := first.failed
      obtain ⟨_, _, failed'⟩ := second.failed
      rw [failed, failed']
      simp

/-- An inspector that takes notes, and lets nobody read orders, rejects a context that the walk
without it has: that of the orders in the predicate. -/
theorem orders_gated :
    let model : Schema.Model := {
      space := "shop"
      entityTypes := [("Customer", { name := "Customer", fields := [("Id", ⟨.int, true⟩)] }),
        ("Order", { name := "Order", fields := [("Id", ⟨.int, true⟩)] })]
      elements := [("Customers", .collection "Customers" "Customer"),
        ("Orders", .collection "Orders" "Order")] }
    let native : Sourcer := ⟨"native", fun mode context => do
      match context.binding.reference? with
      | some reference => some <$> Act.build (nativeFor reference ⟨"shop"⟩ mode)
      | none => return none⟩
    let registry : Registry := { sourcer := some native }
    let permits : Context → Bool := fun context =>
      context.binding.reference?.all fun reference => reference.name ≠ "Orders"
    let closed : Gate .unwritten := {
      hook := ⟨"closed", fun context => do
        Act.note "inspect:closed"
        return permits context⟩
      verdict := permits
      verdict_substance := fun _ => rfl
      run_eq := fun _ ambient =>
        ⟨{ ambient with notes := "inspect:closed" :: ambient.notes }, rfl, rfl⟩ }
    let query : Expr := .call ⟨4, .queryable (.entity "Customer")⟩ .filter [
      .source ⟨0, .queryable (.entity "Customer")⟩ none "Customers" [],
      .lambda ⟨3, .bool⟩ "c" (.call ⟨2, .bool⟩ .any [
        .source ⟨1, .queryable (.entity "Order")⟩ none "Orders" []])]
    let context : Context := { model, request := .ofCaller .anonymous, maxDepth := 16 }
    ∃ point ∈ registry.inspectionPoints query context { supply := ⟨5⟩ },
      closed.verdict point = false := by
  intro model native registry permits closed query context
  have consistent : registry.Consistent .unwritten := by
    constructor
    · exact fun _ none => absurd none List.not_mem_nil
    · exact fun _ none => absurd none List.not_mem_nil
    · exact fun _ none => absurd none List.not_mem_nil
    · rintro _ ⟨⟩ mode
      refine Hook.consistent (fun _ => rfl) fun context => ?_
      change (native.run mode context).Heedless _
      dsimp only [native]
      split
      · exact (Act.heedless_build _).map some
      · exact Act.heedless_pure none
  have failed : (run { registry with inspectors := [closed].map Gate.hook } query context
      { supply := ⟨5⟩ }).1 = .error (.inspectionFailed "closed" "Orders") := by decide +kernel
  have succeeds : (run { registry with inspectors := [] } query context
      { supply := ⟨5⟩ }).1.toOption.isSome = true := by decide +kernel
  obtain ⟨-, decides, -⟩ := gates_decide consistent [closed] query context { supply := ⟨5⟩ }
  rcases decides.mp ⟨_, _, failed⟩ with ⟨gate, listed, point, reached, rejects⟩ | ⟨_, _, failed⟩
  · rw [List.mem_singleton.mp listed] at rejects
    exact ⟨point, reached, rejects⟩
  · rw [failed] at succeeds
    exact absurd succeeds Bool.false_ne_true

end QueryRewriting.Rewriting
