import QueryRewriting.Proofs.Rewriting.Stack

/-! What steps of a walk are charged with. An account says what its entries mean for a step between
two states, for a success and for a failure apart. A step that hands the setting back is charged
with an entry, and steps that follow each other with what their entries join to. The rules are the
same for all accounts; what is particular to one is what its entries mean. -/
namespace QueryRewriting.Rewriting

/-- A state without its stacks, and without the collection that depends on them. -/
def Recording.unstacked (state : Recording) : Recording :=
  { state with
    context := { state.context with frames := [], substitutions := [], collection := none } }

namespace Recording

variable {state : Recording} {entered : Context} {node : Option Expr}

theorem unstacked_push (pushed : state.context.push node = .ok entered) :
    ({ state with context := entered } : Recording).unstacked = state.unstacked := by
  rw [Context.push_frames pushed]
  rfl

theorem unstacked_pop :
    ({ state with context := state.context.pop } : Recording).unstacked = state.unstacked := by
  unfold Context.pop
  split <;> rfl

end Recording

namespace Walk

/-- Entries that steps of a walk are charged with. -/
structure Account (γ : Type) where
  /-- What an entry means for a step that succeeds. -/
  done : γ → Recording → Recording → Prop
  /-- What an entry means for a step that fails. -/
  failed : γ → Error → Recording → Recording → Prop
  /-- The entry of a step that does nothing. -/
  idle : γ
  /-- The entry of two steps that follow each other. -/
  join : γ → γ → γ
  idle_join (entry : γ) : join idle entry = entry
  join_idle (entry : γ) : join entry idle = entry
  done_idle (state : Recording) (ambient : Ambient) : done idle state { state with ambient }
  done_join {first rest : γ} {before middle after : Recording} :
    done first before middle → done rest middle after → done (join first rest) before after
  failed_first {first rest : γ} {error : Error} {before after : Recording} :
    failed first error before after → failed (join first rest) error before after
  failed_rest {first rest : γ} {error : Error} {before middle after : Recording} :
    middle.context.surroundings = before.context.surroundings → done first before middle →
      failed rest error middle after → failed (join first rest) error before after

namespace Account

variable {α β γ : Type} (account : Account γ)

/-- A step is charged with an entry. If it succeeds, it hands the setting back, and its value is as
it is asked for. -/
def Charges (entry : γ) (step : Walk α) (good : α → Prop) (before : Recording) : Prop :=
  Ends step
    (fun value after => after.context.setting = before.context.setting ∧
      account.done entry before after ∧ good value)
    (fun error after => account.failed entry error before after) before

/-- The entries of an account have nothing to do with frames and substitutions. -/
structure Unstacked : Prop where
  done (entry : γ) (before after : Recording) :
    account.done entry before.unstacked after.unstacked ↔ account.done entry before after
  failed (entry : γ) (error : Error) (before after : Recording) :
    account.failed entry error before.unstacked after.unstacked ↔
      account.failed entry error before after

variable {account} {entry other : γ} {step : Walk α} {good : α → Prop} {before : Recording}

theorem Charges.mono {good' : α → Prop} (charges : account.Charges entry step good before)
    (weaker : ∀ value, good value → good' value) : account.Charges entry step good' before := by
  apply Ends.weaken charges
  rintro value after ⟨same, done, left⟩
  exact ⟨same, done, weaker value left⟩

theorem Charges.bind {next : α → Walk β} {good' : β → Prop}
    (first : account.Charges entry step good before)
    (rest : ∀ value middle, middle.context.setting = before.context.setting → good value →
      account.Charges other (next value) good' middle) :
    account.Charges (account.join entry other) (step >>= next) good' before := by
  unfold Charges
  rw [ends_bind]
  apply Ends.mono first
  · rintro value middle ⟨same, done, left⟩
    apply Ends.mono (rest value middle same left)
    · rintro result after ⟨still, done', right⟩
      exact ⟨still.trans same, account.done_join done done', right⟩
    · intro error after failed
      exact account.failed_rest (Context.surroundings_eq same) done failed
  · intro error after failed
    exact account.failed_first failed

/-- After a step that is charged with nothing. -/
theorem Charges.bind_idle {next : α → Walk β} {good' : β → Prop}
    (first : account.Charges account.idle step good before)
    (rest : ∀ value middle, middle.context.setting = before.context.setting → good value →
      account.Charges entry (next value) good' middle) :
    account.Charges entry (step >>= next) good' before := by
  rw [← account.idle_join entry]
  exact first.bind rest

/-- Before steps that are charged with nothing. -/
theorem Charges.andThen {next : α → Walk β} {good' : β → Prop}
    (first : account.Charges entry step good before)
    (rest : ∀ value middle, middle.context.setting = before.context.setting → good value →
      account.Charges account.idle (next value) good' middle) :
    account.Charges entry (step >>= next) good' before := by
  rw [← account.join_idle entry]
  exact first.bind rest

theorem charges_pure {value : α} (left : good value) :
    account.Charges account.idle (pure value) good before :=
  ⟨rfl, account.done_idle before before.ambient, left⟩

theorem charges_context :
    account.Charges account.idle context (fun now => now = before.context) before :=
  ⟨rfl, account.done_idle before before.ambient, rfl⟩

theorem charges_build (fresh : Fresh α) :
    account.Charges account.idle (acting (Act.build fresh))
      (fun value => value = (fresh.run before.ambient.supply).1) before := by
  unfold Charges
  rw [ends_build]
  exact ⟨rfl, account.done_idle before _, rfl⟩

theorem charges_checkType {hook : String} {replaced replacement : Expr}
    (refused : account.failed account.idle (.typeMismatch hook replaced.type replacement.type)
      before before) :
    account.Charges account.idle (checkType hook replaced replacement)
      (fun _ => replaced.type.accepts replacement.type = true) before := by
  unfold Charges
  rw [ends_checkType]
  split
  · next accepted => exact ⟨rfl, account.done_idle before before.ambient, accepted⟩
  · exact refused

/-- Visits in turn are charged with what their entries join to. -/
theorem charges_mapM {visit : Expr → Walk Expr} {each : Expr → γ} {all : List Expr → γ}
    (none : all [] = account.idle)
    (some : ∀ node rest, all (node :: rest) = account.join (each node) (all rest))
    {good : Expr → Expr → Prop} {nodes : List Expr}
    (visits : ∀ node ∈ nodes, ∀ state, state.context.setting = before.context.setting →
      account.Charges (each node) (visit node) (good node) state) :
    account.Charges (all nodes) (nodes.mapM visit) (List.Forall₂ good nodes) before := by
  induction nodes generalizing before with
  | nil =>
    rw [none]
    exact charges_pure .nil
  | cons node rest ih =>
    rw [some, List.mapM_cons]
    refine (visits node List.mem_cons_self before rfl).bind fun tree middle same first => ?_
    have others := ih fun other member state later =>
      visits other (List.mem_cons_of_mem _ member) state (later.trans same)
    exact others.andThen fun trees _ _ left => charges_pure (.cons first left)

/-- A node is put together again from what becomes of its children. -/
theorem charges_children {visit : Expr → Walk Expr} {node : Expr} {made : List Expr → Prop}
    (visits : account.Charges entry (node.children.mapM visit) made before) :
    account.Charges entry (children visit node)
      (fun tree => ∃ given, made given ∧ ∃ supply, tree = ((node.withChildren given).run supply).1)
      before := by
  refine visits.andThen fun given middle _ left => (charges_build _).mono ?_
  rintro tree rfl
  exact ⟨given, left, middle.ambient.supply, rfl⟩

variable (apart : account.Unstacked)

include apart

/-- In a frame of its own a step may change the frame. -/
theorem charges_framed {node : Option Expr}
    (refused : ∀ error, before.context.push node = .error error →
      account.failed entry error before before)
    (inside : ∀ entered, before.context.push node = .ok entered →
      Ends step
        (fun value after => after.context.surroundings = entered.surroundings ∧
          account.done entry { before with context := entered } after ∧ good value)
        (fun error after => account.failed entry error { before with context := entered } after)
        { before with context := entered }) :
    account.Charges entry (nested node step) good before := by
  unfold Charges
  rw [ends_nested]
  split
  · next entered pushed =>
    have began := Recording.unstacked_push pushed
    apply Ends.mono (inside entered pushed)
    · rintro value after ⟨same, done, left⟩
      refine ⟨?_, ?_, left⟩
      · rw [Context.setting_pop, same, Context.surroundings_push pushed]
      · rw [← apart.done, began] at done
        rw [← apart.done, Recording.unstacked_pop]
        exact done
    · intro error after failed
      rw [← apart.failed, began] at failed
      rw [← apart.failed, Recording.unstacked_pop]
      exact failed
  · next error unentered => exact refused error unentered

theorem charges_nested {node : Option Expr}
    (refused : ∀ error, before.context.push node = .error error →
      account.failed entry error before before)
    (inside : ∀ entered, before.context.push node = .ok entered →
      account.Charges entry step good { before with context := entered }) :
    account.Charges entry (nested node step) good before := by
  refine charges_framed apart refused fun entered pushed => Ends.weaken (inside entered pushed) ?_
  rintro value after ⟨same, done, left⟩
  exact ⟨Context.surroundings_eq same, done, left⟩

/-- In a frame that can be entered. -/
theorem charges_pushed {node : Option Expr} {entered : Context}
    (pushed : before.context.push node = .ok entered)
    (inside : account.Charges entry step good { before with context := entered }) :
    account.Charges entry (nested node step) good before := by
  apply charges_nested apart
  · intro error refused
    rw [pushed] at refused
    contradiction
  · intro other found
    cases pushed.symm.trans found
    exact inside

theorem charges_substituting {node replacement : Expr}
    (inside : account.Charges entry step good
      { before with context := before.context.substitute node replacement }) :
    account.Charges entry (substituting node replacement step) good before := by
  unfold Charges
  rw [ends_substituting]
  apply Ends.mono inside
  · rintro value after ⟨same, done, left⟩
    refine ⟨congrArg Context.endSubstitution same, ?_, left⟩
    rw [← apart.done] at done ⊢
    exact done
  · intro error after failed
    rw [← apart.failed] at failed ⊢
    exact failed

end Account

end Walk

end QueryRewriting.Rewriting
