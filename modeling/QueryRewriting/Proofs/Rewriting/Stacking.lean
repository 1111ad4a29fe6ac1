import Mathlib.Data.List.Perm.Basic
import QueryRewriting.Proofs.Rewriting.FilterDepth

/-! Row filters one by one. Whether a query is accepted under the rules of several filters is a
matter of each rule for itself: a rule refuses references whatever the others do with them, and the
filter that needs most frames says how many are needed. So neither the number of the filters matters
nor their order. -/
namespace QueryRewriting.Rewriting.Plan

open Access Schema

variable {plan : Plan} {e : Expr} {target : DataReference} {type : QueryType}
  {rules rules' : List RowRule}

/-- The same plan under other rules. -/
def ruled (plan : Plan) (rules : List RowRule) : Plan := { plan with rules }

theorem root_ruled (unrooted : plan.root = none) (rules : List RowRule) :
    (plan.ruled rules).root = none := unrooted

theorem isSome_mapM_iff {α β : Type} {f : α → Option β} {items : List α} :
    (items.mapM f).isSome = true ↔ ∀ item ∈ items, (f item).isSome = true := by
  constructor
  · exact fun all item member => isSome_of_mapM all member
  · intro all
    induction items with
    | nil => rfl
    | cons item rest ih =>
      obtain ⟨first, others⟩ := List.forall_mem_cons.mp all
      obtain ⟨value, found⟩ := Option.isSome_iff_exists.mp first
      obtain ⟨values, rest⟩ := Option.isSome_iff_exists.mp (ih others)
      rw [List.mapM_cons, found, rest]
      rfl

/-- Without a root a tree without references is taken as it is. -/
theorem resolving_free (unrooted : plan.root = none)
    (leaf : DataReference → QueryType → Option Expr) (free : e.hasDataReference = false) :
    plan.resolving leaf [] e = some e.erased := by
  induction e using Expr.ofChildren with
  | step e ih =>
    have role : plan.role e = .plain :=
      role_plain (Expr.isSource_of_hasDataReference free) (by simp [unrooted])
    have visited : e.children.mapM (plan.resolving leaf []) =
        some (e.children.map Expr.erased) := by
      rw [mapM_eq_some_iff, List.forall₂_map_right_iff, List.forall₂_same]
      exact fun child member => ih child member (Expr.hasDataReference_child free member)
    rw [resolving_plain rfl role, visited, Option.map_some, Expr.overChildren_self]

theorem reached_free (unrooted : plan.root = none) (free : e.hasDataReference = false) :
    plan.reached e = [] := by
  induction e using Expr.ofChildren with
  | step e ih =>
    have role : plan.role e = .plain :=
      role_plain (Expr.isSource_of_hasDataReference free) (by simp [unrooted])
    rw [reached_plain role, List.flatMap_eq_nil_iff]
    exact fun child member => ih child member (Expr.hasDataReference_child free member)

theorem selected?_free (unrooted : plan.root = none) {selector : Expr}
    (free : selector.hasDataReference = false) : plan.selected? selector = some selector.erased :=
  resolving_free unrooted _ free

/-- A fragment gets through all filters unless one of them refuses it. -/
theorem isSome_wrapped?_iff (unrooted : plan.root = none)
    (free : ∀ rule ∈ rules, RowRule.ReferenceFree rule) (current : Expr) :
    (plan.wrapped? target type rules current).isSome = true ↔
      ∀ rule ∈ rules, rule target type ≠ .refuse := by
  induction rules generalizing current with
  | nil => simp [wrapped?]
  | cons rule rest ih =>
    obtain ⟨freely, others⟩ := List.forall_mem_cons.mp free
    rw [List.forall_mem_cons, wrapped?]
    cases ruled : rule target type with
    | refuse => simp
    | leave => simpa using ih others current
    | wrap selector =>
      dsimp only
      rw [selected?_free unrooted (freely target type selector ruled)]
      simpa using ih others _

theorem isSome_sourced?_iff (unrooted : plan.root = none)
    (free : ∀ rule ∈ plan.rules, RowRule.ReferenceFree rule) :
    (plan.sourced? target type).isSome = true ↔
      (plan.fragment? target type).isSome = true ∧
        ∀ rule ∈ plan.rules, rule target type ≠ .refuse := by
  unfold sourced?
  cases plan.fragment? target type with
  | none => simp
  | some fragment => simpa using isSome_wrapped?_iff unrooted free fragment

/-- A tree can be resolved if its references can. -/
theorem isSome_resolve?_iff (unrooted : plan.root = none) :
    (plan.resolve? [] e).isSome = true ↔
      ∀ node ∈ e.outerReferences, (plan.resolve? [] node).isSome = true := by
  induction e using Expr.ofChildren with
  | step e ih =>
    cases shape : e.isSource with
    | true => rw [Expr.outerReferences_of_isSource shape, List.forall_mem_singleton]
    | false =>
      rw [Expr.outerReferences_eq shape, resolve?_plain rfl (role_plain shape (by simp [unrooted])),
        Option.isSome_map, isSome_mapM_iff, List.forall_mem_flatMap]
      exact forall₂_congr ih

section Rules

variable (unrooted : plan.root = none) (nonempty : rules ≠ [])

include unrooted nonempty

/-- A reference can be resolved under some rules if it can be under each of them. -/
theorem isSome_reference_iff (free : ∀ rule ∈ rules, RowRule.ReferenceFree rule)
    (source : e.isSource = true) :
    ((plan.ruled rules).resolve? [] e).isSome = true ↔
      ∀ rule ∈ rules, ((plan.ruled [rule]).resolve? [] e).isSome = true := by
  obtain ⟨some, listed⟩ := List.exists_mem_of_ne_nil rules nonempty
  cases role : plan.role e with
  | plain =>
    rw [isSource_of_plain role] at source
    contradiction
  | broken =>
    have broken (rules : List RowRule) : (plan.ruled rules).resolve? [] e = none :=
      resolve?_broken rfl role
    simp only [broken]
    exact iff_of_false nofun fun all => nomatch all some listed
  | reference target type =>
    have sourced (rules : List RowRule) :
        (plan.ruled rules).resolve? [] e = (plan.ruled rules).sourced? target type :=
      resolve?_reference rfl role
    have several (rules : List RowRule) (free : ∀ rule ∈ rules, RowRule.ReferenceFree rule) :
        ((plan.ruled rules).sourced? target type).isSome = true ↔
          (plan.fragment? target type).isSome = true ∧ ∀ rule ∈ rules, rule target type ≠ .refuse :=
      isSome_sourced?_iff (root_ruled unrooted rules) free
    have single (rule : RowRule) (member : rule ∈ rules) :
        ((plan.ruled [rule]).sourced? target type).isSome = true ↔
          (plan.fragment? target type).isSome = true ∧ rule target type ≠ .refuse := by
      rw [several [rule] (List.forall_mem_singleton.mpr (free rule member)),
        List.forall_mem_singleton]
    simp only [sourced]
    rw [several rules free, forall₂_congr single]
    constructor
    · rintro ⟨stored, passed⟩ rule member
      exact ⟨stored, passed rule member⟩
    · intro each
      exact ⟨(each some listed).1, fun rule member => (each rule member).2⟩

theorem isSome_ruled_iff (free : ∀ rule ∈ rules, RowRule.ReferenceFree rule) :
    ((plan.ruled rules).resolve? [] e).isSome = true ↔
      ∀ rule ∈ rules, ((plan.ruled [rule]).resolve? [] e).isSome = true := by
  have outer (rules : List RowRule) : ((plan.ruled rules).resolve? [] e).isSome = true ↔
      ∀ node ∈ e.outerReferences, ((plan.ruled rules).resolve? [] node).isSome = true :=
    isSome_resolve?_iff (root_ruled unrooted rules)
  have each (node : Expr) (member : node ∈ e.outerReferences) :
      ((plan.ruled rules).resolve? [] node).isSome = true ↔
        ∀ rule ∈ rules, ((plan.ruled [rule]).resolve? [] node).isSome = true :=
    isSome_reference_iff unrooted nonempty free (Expr.isSource_of_mem_outerReferences member)
  simp only [outer]
  rw [forall₂_congr each]
  exact ⟨fun all rule member node inside => all node inside rule member,
    fun all node inside rule member => all rule member node inside⟩

omit unrooted in
/-- A tree has as many levels as under the rule that needs most. -/
theorem levels_ruled_iff (room : Nat) :
    e.levels (plan.ruled rules).below ≤ room ↔
      ∀ rule ∈ rules, e.levels (plan.ruled [rule]).below ≤ room := by
  obtain ⟨some, listed⟩ := List.exists_mem_of_ne_nil rules nonempty
  have : Nonempty { rule // rule ∈ rules } := ⟨some, listed⟩
  rw [← Subtype.forall (p := fun rule => rule ∈ rules)
    (q := fun rule => e.levels (plan.ruled [rule.1]).below ≤ room)]
  refine Expr.levels_le_iff_forall (fun node _ room => ?_) room
  cases role : plan.role node with
  | plain | broken =>
    have none (rules : List RowRule) : (plan.ruled rules).below node = 0 := by
      have same : (plan.ruled rules).role node = plan.role node := rfl
      unfold below
      rw [same, role]
    simp [none]
  | reference target type =>
    have bound (rules : List RowRule) (room : Nat) : (plan.ruled rules).below node ≤ room ↔
        ∀ rule ∈ rules, (rule target type).levels ≤ room := below_le_iff role
    simp [bound]

/-- A query is accepted under some rules if it is under each of them. -/
theorem accepts_iff (free : ∀ rule ∈ rules, RowRule.ReferenceFree rule) (maxDepth : Nat) :
    (plan.ruled rules).Accepts e maxDepth ↔
      ∀ rule ∈ rules, (plan.ruled [rule]).Accepts e maxDepth := by
  have parts (rules : List RowRule) : (plan.ruled rules).Accepts e maxDepth ↔
      ((plan.ruled rules).resolve? [] e).isSome = true ∧
        e.levels (plan.ruled rules).below + 1 ≤ maxDepth :=
    ⟨fun accepts => ⟨accepts.resolvable, accepts.fits⟩, fun both => ⟨both.1, both.2⟩⟩
  simp only [parts, forall_and]
  rw [isSome_ruled_iff unrooted nonempty free]
  refine and_congr_right' ?_
  obtain ⟨some, listed⟩ := List.exists_mem_of_ne_nil rules nonempty
  cases maxDepth with
  | zero => exact iff_of_false nofun fun all => nomatch all some listed
  | succ room =>
    simp only [Nat.succ_le_succ_iff]
    exact levels_ruled_iff nonempty room

end Rules

/-- Rules may come in any order. -/
theorem accepts_perm (unrooted : plan.root = none)
    (free : ∀ rule ∈ rules, RowRule.ReferenceFree rule) (perm : rules.Perm rules')
    (maxDepth : Nat) :
    (plan.ruled rules).Accepts e maxDepth ↔ (plan.ruled rules').Accepts e maxDepth := by
  by_cases empty : rules = []
  · subst empty
    rw [List.nil_perm.mp perm]
  · have empty' : rules' ≠ [] := fun same => empty (same ▸ perm).eq_nil
    have free' : ∀ rule ∈ rules', RowRule.ReferenceFree rule :=
      fun rule member => free rule (perm.mem_iff.mpr member)
    rw [accepts_iff unrooted empty free, accepts_iff unrooted empty' free']
    exact forall_congr' fun rule => imp_congr_left perm.mem_iff

end QueryRewriting.Rewriting.Plan
