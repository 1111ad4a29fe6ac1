import Mathlib.Data.List.Basic
import QueryRewriting.Evaluation.Eval

/-! Stable sorting. A sorted list is determined by the order within each of its ties, and a stable
sort keeps that order; so sorting by one order after another is sorting by both, the last first. -/
namespace QueryRewriting.Evaluation

open Json

variable {α : Type}

/-- A list in an order; what ranks equal keeps its order. -/
def stableSort (cmp : α → α → Ordering) (items : List α) : List α :=
  items.mergeSort fun a b => (cmp a b).isLE

variable {cmp next : α → α → Ordering} [Std.TransCmp cmp] [Std.TransCmp next]

theorem isLE_refl (a : α) : (cmp a a).isLE = true := by
  rw [show cmp a a = .eq from Std.ReflCmp.compare_self]
  rfl

theorem isLE_trans (a b c : α) (first : (cmp a b).isLE = true) (second : (cmp b c).isLE = true) :
    (cmp a c).isLE = true := Std.TransCmp.isLE_trans first second

theorem isLE_total (a b : α) : ((cmp a b).isLE || (cmp b a).isLE) = true := by
  rw [@Std.OrientedCmp.eq_swap _ cmp _ b a]
  cases cmp a b <;> rfl

theorem pairwise_stableSort (items : List α) :
    (stableSort cmp items).Pairwise fun a b => (cmp a b).isLE = true :=
  List.pairwise_mergeSort isLE_trans isLE_total items

/-- The items that rank equal with one item keep their order. -/
theorem filter_stableSort (a : α) (items : List α) :
    (stableSort cmp items).filter (fun b => cmp a b = .eq) =
      items.filter fun b => cmp a b = .eq := by
  have tied : (items.filter fun b => cmp a b = .eq).Pairwise fun b c => (cmp b c).isLE = true := by
    refine List.pairwise_of_forall_mem_list fun b first c second => ?_
    have equal : cmp b a = .eq :=
      Std.OrientedCmp.eq_symm (by simpa using (List.mem_filter.mp first).2)
    rw [Std.TransCmp.eq_trans equal (by simpa using (List.mem_filter.mp second).2)]
    rfl
  have kept := (List.sublist_mergeSort isLE_trans isLE_total tied List.filter_sublist).filter
    fun b => cmp a b = .eq
  rw [List.filter_filter] at kept
  simp only [Bool.and_self] at kept
  have same := ((List.mergeSort_perm items fun a b => (cmp a b).isLE).filter
    fun b => cmp a b = .eq).length_eq
  exact (kept.eq_of_length same.symm).symm

/-- A sorted list is determined by its ties. -/
theorem eq_of_ties {first second : List α}
    (sorted : first.Pairwise fun a b => (cmp a b).isLE = true)
    (sorted' : second.Pairwise fun a b => (cmp a b).isLE = true)
    (ties : ∀ a, first.filter (fun b => cmp a b = .eq) = second.filter fun b => cmp a b = .eq) :
    first = second := by
  induction first generalizing second with
  | nil =>
    cases second with
    | nil => rfl
    | cons a rest =>
      have tie := ties a
      simp [Std.ReflCmp.compare_self] at tie
  | cons a rest ih =>
    cases second with
    | nil =>
      have tie := ties a
      simp [Std.ReflCmp.compare_self] at tie
    | cons b others =>
      have above : (cmp a b).isLE = true := by
        have listed : b ∈ (a :: rest).filter fun c => cmp b c = .eq := by
          rw [ties b]
          simp [Std.ReflCmp.compare_self]
        rcases List.mem_cons.mp (List.mem_filter.mp listed).1 with rfl | member
        · exact isLE_refl b
        · exact List.rel_of_pairwise_cons sorted member
      have below : (cmp b a).isLE = true := by
        have listed : a ∈ (b :: others).filter fun c => cmp a c = .eq := by
          rw [← ties a]
          simp [Std.ReflCmp.compare_self]
        rcases List.mem_cons.mp (List.mem_filter.mp listed).1 with rfl | member
        · exact isLE_refl a
        · exact List.rel_of_pairwise_cons sorted' member
      have equal : cmp a b = .eq := Std.OrientedCmp.isLE_antisymm above below
      have tie := ties a
      simp only [List.filter_cons, Std.ReflCmp.compare_self, equal, decide_true, if_true,
        List.cons.injEq] at tie
      obtain ⟨rfl, -⟩ := tie
      congr 1
      refine ih sorted.of_cons sorted'.of_cons fun c => ?_
      have tie := ties c
      simp only [List.filter_cons] at tie
      split at tie
      · exact List.tail_eq_of_cons_eq tie
      · exact tie

/-- Sorting by a second order after a first one is sorting by both, the second one first. -/
theorem stableSort_stableSort (items : List α) :
    stableSort cmp (stableSort next items) = stableSort (compareLex cmp next) items := by
  have tied (a b : α) : (compareLex cmp next a b = .eq) ↔ cmp a b = .eq ∧ next a b = .eq := by
    simp [compareLex, Ordering.then_eq_eq]
  refine @eq_of_ties _ (compareLex cmp next) _ _ _ ?_ (pairwise_stableSort items) fun a => ?_
  · rw [List.pairwise_iff_forall_sublist]
    intro a b before
    have first : (cmp a b).isLE = true :=
      List.pairwise_iff_forall_sublist.mp (pairwise_stableSort _) before
    have second (equal : cmp a b = .eq) : (next a b).isLE = true := by
      have among := before.filter fun c => cmp a c = .eq
      rw [filter_stableSort] at among
      simp only [List.filter_cons, Std.ReflCmp.compare_self, equal, decide_true, if_true,
        List.filter_nil] at among
      exact List.pairwise_iff_forall_sublist.mp (pairwise_stableSort items)
        (among.trans List.filter_sublist)
    cases order : cmp a b with
    | lt => simp [compareLex, order]
    | eq => simpa [compareLex, order] using second order
    | gt => rw [order] at first; contradiction
  · rw [filter_stableSort]
    simp only [tied, Bool.decide_and]
    calc (stableSort cmp (stableSort next items)).filter (fun b => cmp a b = .eq && next a b = .eq)
        = ((stableSort cmp (stableSort next items)).filter fun b => cmp a b = .eq).filter
            fun b => next a b = .eq := by rw [List.filter_filter]; simp only [Bool.and_comm]
      _ = ((stableSort next items).filter fun b => cmp a b = .eq).filter
            fun b => next a b = .eq := by rw [filter_stableSort]
      _ = ((stableSort next items).filter fun b => next a b = .eq).filter
            fun b => cmp a b = .eq := by simp only [List.filter_filter, Bool.and_comm]
      _ = (items.filter fun b => next a b = .eq).filter fun b => cmp a b = .eq := by
            rw [filter_stableSort]
      _ = items.filter fun b => cmp a b = .eq && next a b = .eq := by rw [List.filter_filter]

section Keys

variable {β : Type} (cmp : β → β → Ordering) [Std.TransCmp cmp] (key : α → β)

theorem transCmp_on : Std.TransCmp fun a b => cmp (key a) (key b) where
  eq_swap {a b} := @Std.OrientedCmp.eq_swap _ cmp _ (key a) (key b)
  isLE_trans {a b c} := @Std.TransCmp.isLE_trans _ cmp _ (key a) (key b) (key c)

theorem transCmp_swap_on : Std.TransCmp fun a b => (cmp (key a) (key b)).swap := by
  have flipped : (fun a b => (cmp (key a) (key b)).swap) = fun a b => cmp (key b) (key a) := by
    funext a b
    exact Std.OrientedCmp.eq_swap.symm
  rw [flipped]
  exact @Std.TransCmp.opposite _ _ (transCmp_on cmp key)

end Keys

/-- Sorting items by keys that are computed from them. -/
theorem sortedBy_map (compare : Value → Value → Ordering) (key : Value → Value)
    (items : List Value) :
    sortedBy compare items (items.map key) =
      stableSort (fun a b => compare (key a) (key b)) items := by
  unfold sortedBy stableSort
  rw [← List.map_prod_left_eq_zip]
  have first : (items.map fun item => (item, key item)).map Prod.fst = items := by
    rw [List.map_map]
    exact List.map_id items
  have keyed : ((items.map fun item => (item, key item)).mergeSort
        fun a b => (compare a.2 b.2).isLE).map Prod.fst =
      ((items.map fun item => (item, key item)).map Prod.fst).mergeSort
        fun a b => (compare (key a) (key b)).isLE := by
    refine List.map_mergeSort fun a listed b listed' => ?_
    obtain ⟨item, -, rfl⟩ := List.mem_map.mp listed
    obtain ⟨item', -, rfl⟩ := List.mem_map.mp listed'
    rfl
  rw [keyed, first]

/-- Where a value stands among those of its kind. -/
def numberKey : Value → Int
  | .bool truth => truth.toNat
  | .number number => number.toBinary64.rank
  | _ => 0

/-- Where a string stands among strings. -/
def stringKey : Value → String
  | .string text => text
  | _ => ""

theorem compareValues_eq : compareValues =
    compareLex (compareOn kindRank) (compareLex (compareOn numberKey) (compareOn stringKey)) := by
  funext a b
  cases a <;> cases b <;> try rfl
  case bool.bool a b => cases a <;> cases b <;> rfl
  case number.number a b =>
    simp [compareValues, compareNumbers, Binary64.compareValues, compareLex, compareOn, kindRank,
      numberKey, stringKey]

instance : Std.TransCmp compareValues := by
  rw [compareValues_eq]
  infer_instance

end QueryRewriting.Evaluation
