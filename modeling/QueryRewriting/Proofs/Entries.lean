import Mathlib.Data.List.Forall2
import Mathlib.Data.List.Nodup
import QueryRewriting.Entries

/-! Maps as sets of entries. Under one name there is one entry, and a map is determined by its
entries, so it does not matter in which order they have been inserted. Relating two maps name by name
is relating their lists. -/
namespace QueryRewriting.Entries

variable {α β : Type}

theorem mem_names_iff {entries : Entries α} {name : String} :
    name ∈ names entries ↔ ∃ value, (name, value) ∈ entries := by
  simp [names]

theorem contains_iff {entries : Entries α} {name : String} :
    contains entries name = true ↔ name ∈ names entries := by
  unfold contains find?
  simp [List.lookup_isSome_iff, names]

theorem Sorted.nodup {entries : Entries α} (sorted : Sorted entries) : (names entries).Nodup :=
  List.Pairwise.imp (fun below => String.ne_of_lt below) sorted

/-- What is listed under a name is found under it. -/
theorem find?_eq_some_iff {entries : Entries α} (nodup : (names entries).Nodup) {name : String}
    {value : α} : find? entries name = some value ↔ (name, value) ∈ entries := by
  constructor
  · exact mem_of_find?
  · intro listed
    have found := contains_iff.mpr (mem_names_iff.mpr ⟨value, listed⟩)
    obtain ⟨other, found⟩ := Option.isSome_iff_exists.mp found
    have same := List.inj_on_of_nodup_map nodup (mem_of_find? found) listed rfl
    rw [found, (Prod.mk.inj same).2]

theorem perm_insert {entries : Entries α} {name : String} (fresh : name ∉ names entries)
    (value : α) : (insert name value entries).Perm ((name, value) :: entries) := by
  induction entries with
  | nil => exact .refl _
  | cons entry rest ih =>
    obtain ⟨key, old⟩ := entry
    obtain ⟨other, fresh⟩ : name ≠ key ∧ name ∉ names rest := by simpa [names] using fresh
    unfold insert
    split
    · exact .refl _
    · exact ((ih fresh).cons _).trans (.swap _ _ _)

/-- Inserts pairs one after the other. -/
def insertAll (pairs : List (String × α)) (entries : Entries α) : Entries α :=
  pairs.foldl (fun entries pair => insert pair.1 pair.2 entries) entries

/-- Pairs under different names are just added, if the names are new. -/
theorem perm_insertAll (pairs : List (String × α)) (entries : Entries α)
    (nodup : (pairs.map Prod.fst ++ names entries).Nodup) :
    (insertAll pairs entries).Perm (pairs ++ entries) := by
  induction pairs generalizing entries with
  | nil => exact .refl _
  | cons pair rest ih =>
    have fresh : pair.1 ∉ names entries := by
      have apart := (List.nodup_cons.mp nodup).1
      exact fun listed => apart (List.mem_append_right _ listed)
    have added := perm_insert fresh pair.2
    have names : (names (insert pair.1 pair.2 entries)).Perm (pair.1 :: names entries) :=
      added.map Prod.fst
    have nodup : (rest.map Prod.fst ++ Entries.names (insert pair.1 pair.2 entries)).Nodup :=
      ((names.append_left _).trans List.perm_middle).nodup_iff.mpr nodup
    exact (ih _ nodup).trans ((added.append_left rest).trans List.perm_middle)

theorem perm_ofList {pairs : List (String × α)} (nodup : (pairs.map Prod.fst).Nodup) :
    (ofList pairs).Perm pairs := by
  have added := perm_insertAll pairs [] (by simpa [names] using nodup)
  rwa [List.append_nil] at added

theorem insertAll_append (pairs others : List (String × α)) (entries : Entries α) :
    insertAll (pairs ++ others) entries = insertAll others (insertAll pairs entries) :=
  List.foldl_append

section Items

variable {ι : Type} {items : List ι} {entry : ι → String × α}
  (nodup : (items.map fun item => (entry item).1).Nodup)

include nodup

/-- The map of items under different names has an entry for each of them. -/
theorem mem_ofList {pair : String × α} :
    pair ∈ ofList (items.map entry) ↔ pair ∈ items.map entry := by
  have keys : (items.map entry).map Prod.fst = items.map fun item => (entry item).1 := List.map_map
  exact (perm_ofList (keys ▸ nodup)).mem_iff

theorem mem_names_ofList {name : String} :
    name ∈ names (ofList (items.map entry)) ↔ name ∈ items.map fun item => (entry item).1 := by
  rw [mem_names_iff]
  simp only [mem_ofList nodup, List.mem_map, Prod.ext_iff]
  constructor
  · rintro ⟨value, item, listed, same, -⟩
    exact ⟨item, listed, same⟩
  · rintro ⟨item, listed, same⟩
    exact ⟨(entry item).2, item, listed, same, rfl⟩

end Items

/-- Maps with the same entries are one map. -/
theorem Sorted.eq_of_perm {entries others : Entries α} (sorted : Sorted entries)
    (sorted' : Sorted others) (same : entries.Perm others) : entries = others := by
  have below : entries.Pairwise fun a b => a.1 < b.1 := List.pairwise_map.mp sorted
  have below' : others.Pairwise fun a b => a.1 < b.1 := List.pairwise_map.mp sorted'
  refine same.eq_of_pairwise (fun a b _ _ first second => ?_) below below'
  exact (String.lt_asymm first second).elim

/-- The map of pairs under different names does not depend on their order. -/
theorem ofList_eq_of_perm {pairs others : List (String × α)} (nodup : (pairs.map Prod.fst).Nodup)
    (same : pairs.Perm others) : ofList pairs = ofList others := by
  have nodup' := (same.map Prod.fst).nodup_iff.mp nodup
  exact (sorted_ofList pairs).eq_of_perm (sorted_ofList others)
    ((perm_ofList nodup).trans (same.trans (perm_ofList nodup').symm))

theorem find?_cons (key name : String) (value : α) (rest : Entries α) :
    find? ((key, value) :: rest) name = if name = key then some value else find? rest name := by
  unfold find?
  rw [List.lookup_cons]
  by_cases same : name = key
  · simp [same]
  · simp [same, beq_false_of_ne same]

theorem find?_cons_self (key : String) (value : α) (rest : Entries α) :
    find? ((key, value) :: rest) key = some value := by rw [find?_cons, if_pos rfl]

/-- The first name of a map is the least one that has a value. -/
theorem Sorted.le_of_isSome {key name : String} {value : α} {rest : Entries α}
    (sorted : Sorted ((key, value) :: rest))
    (found : (find? ((key, value) :: rest) name).isSome = true) : key ≤ name := by
  rcases List.mem_cons.mp (contains_iff.mp found) with same | listed
  · exact same ▸ String.le_refl key
  · exact String.not_lt.mp (String.lt_asymm ((sorted_cons.mp sorted).1 name listed))

theorem Sorted.find?_rest {key : String} {value : α} {rest : Entries α}
    (sorted : Sorted ((key, value) :: rest)) : find? rest key = none := by
  by_contra found
  have listed := contains_iff.mp (Option.ne_none_iff_isSome.mp found)
  exact String.lt_irrefl key ((sorted_cons.mp sorted).1 key listed)

section Related

variable {related : α → β → Prop}

theorem isSome_eq_of_rel {first : Option α} {second : Option β}
    (close : Option.Rel related first second) : first.isSome = second.isSome := by
  cases close <;> rfl

theorem rel_find? {entries : Entries α} {others : Entries β}
    (pairs : List.Forall₂ (fun a b => a.1 = b.1 ∧ related a.2 b.2) entries others) (name : String) :
    Option.Rel related (find? entries name) (find? others name) := by
  induction pairs with
  | nil => exact .none
  | @cons a b rest rest' pair _ ih =>
    obtain ⟨key, value⟩ := a
    obtain ⟨key', value'⟩ := b
    obtain ⟨rfl, close⟩ : key = key' ∧ related value value' := pair
    rw [find?_cons, find?_cons]
    split
    · exact .some close
    · exact ih

variable {key key' : String} {value : α} {value' : β} {rest : Entries α} {rest' : Entries β}

/-- Maps with values under the same names begin with the same name, since each begins with the least. -/
theorem Sorted.first_eq (sorted : Sorted ((key, value) :: rest))
    (sorted' : Sorted ((key', value') :: rest'))
    (found : ∀ name, Option.Rel related (find? ((key, value) :: rest) name)
      (find? ((key', value') :: rest') name)) : key = key' := by
  have together (name : String) := isSome_eq_of_rel (found name)
  have first : key ≤ key' := by
    apply sorted.le_of_isSome
    rw [together, find?_cons_self, Option.isSome_some]
  have second : key' ≤ key := by
    apply sorted'.le_of_isSome
    rw [← together, find?_cons_self, Option.isSome_some]
  exact String.le_antisymm first second

theorem Sorted.rel_rest (sorted : Sorted ((key, value) :: rest))
    (sorted' : Sorted ((key, value') :: rest'))
    (found : ∀ name, Option.Rel related (find? ((key, value) :: rest) name)
      (find? ((key, value') :: rest') name)) (name : String) :
    Option.Rel related (find? rest name) (find? rest' name) := by
  by_cases same : name = key
  · rw [same, sorted.find?_rest, sorted'.find?_rest]
    exact .none
  · have close := found name
    rwa [find?_cons, find?_cons, if_neg same, if_neg same] at close

theorem Sorted.forall₂ {entries : Entries α} {others : Entries β} (sorted : Sorted entries)
    (sorted' : Sorted others)
    (found : ∀ name, Option.Rel related (find? entries name) (find? others name)) :
    List.Forall₂ (fun a b => a.1 = b.1 ∧ related a.2 b.2) entries others := by
  induction entries generalizing others with
  | nil =>
    cases others with
    | nil => exact .nil
    | cons b rest' =>
      have absent := isSome_eq_of_rel (found b.1)
      rw [find?_cons_self] at absent
      contradiction
  | cons a rest ih =>
    cases others with
    | nil =>
      have absent := isSome_eq_of_rel (found a.1)
      rw [find?_cons_self] at absent
      contradiction
    | cons b rest' =>
      obtain ⟨key, value⟩ := a
      obtain ⟨key', value'⟩ := b
      obtain rfl := sorted.first_eq sorted' found
      have heads := found key
      rw [find?_cons_self, find?_cons_self] at heads
      cases heads with
      | some close =>
        exact .cons ⟨rfl, close⟩
          (ih (sorted_cons.mp sorted).2 (sorted_cons.mp sorted').2 (sorted.rel_rest sorted' found))

/-- Maps are related entry by entry exactly if what they have under each name is. -/
theorem forall₂_iff_find? {entries : Entries α} {others : Entries β} (sorted : Sorted entries)
    (sorted' : Sorted others) :
    List.Forall₂ (fun a b => a.1 = b.1 ∧ related a.2 b.2) entries others ↔
      ∀ name, Option.Rel related (find? entries name) (find? others name) :=
  ⟨rel_find?, sorted.forall₂ sorted'⟩

end Related

section Registers

variable {σ ι ε : Type}

/-- Whether a step adds an item to a map in a state, under a name that is new, if the item fits. -/
structure Registers (step : σ → ι → Except ε σ) (entries : σ → Entries α)
    (place : σ → Entries α → σ) (entry : ι → String × α) (fits : σ → ι → Prop) : Prop where
  adds : ∀ state item after, step state item = .ok after ↔
    fits state item ∧ (entry item).1 ∉ names (entries state) ∧
      after = place state (insert (entry item).1 (entry item).2 (entries state))
  placed : ∀ state given, entries (place state given) = given
  replaced : ∀ state given other, place (place state given) other = place state other
  unchanged : ∀ state, place state (entries state) = state

theorem bind_eq_ok_iff {γ : Type} {step : Except ε β} {next : β → Except ε γ} {result : γ} :
    step >>= next = .ok result ↔ ∃ value, step = .ok value ∧ next value = .ok result := by
  cases step <;> simp [bind, Except.bind]

variable {step : σ → ι → Except ε σ} {entries : σ → Entries α} {place : σ → Entries α → σ}
  {entry : ι → String × α} {fits : σ → ι → Prop}

/-- Items can be added one by one exactly if each fits from the start and their names differ, as
long as no item makes another one fit. -/
theorem Registers.foldlM_eq_ok_iff (registers : Registers step entries place entry fits)
    {items : List ι} {state after : σ}
    (kept : ∀ item ∈ items, ∀ other ∈ items, ∀ state, (entry item).1 ∉ names (entries state) →
      (fits (place state (insert (entry item).1 (entry item).2 (entries state))) other ↔
        fits state other)) :
    items.foldlM step state = .ok after ↔
      (∀ item ∈ items, fits state item) ∧ (items.map fun item => (entry item).1).Nodup ∧
      (∀ item ∈ items, (entry item).1 ∉ names (entries state)) ∧
      after = place state (insertAll (items.map entry) (entries state)) := by
  induction items generalizing state with
  | nil => simp [insertAll, registers.unchanged, pure, Except.pure, @eq_comm _ after]
  | cons item rest ih =>
    have ih (state : σ) := @ih state fun first listed second listed' =>
      kept first (List.mem_cons_of_mem _ listed) second (List.mem_cons_of_mem _ listed')
    have kept := kept item List.mem_cons_self
    rw [List.foldlM_cons, bind_eq_ok_iff]
    simp only [registers.adds, ih, List.forall_mem_cons, List.map_cons, List.nodup_cons,
      List.mem_map]
    -- names that are new for the next state are new for this one and differ from the item's own
    constructor
    · rintro ⟨_, ⟨own, fresh, rfl⟩, others, nodup, names, same⟩
      simp only [registers.placed, registers.replaced, mem_names_insert, not_or] at names same
      refine ⟨⟨own, fun other listed => ?_⟩, ⟨?_, nodup⟩,
        ⟨fresh, fun other listed => (names other listed).2⟩, same⟩
      · exact (kept other (List.mem_cons_of_mem _ listed) state fresh).mp (others other listed)
      · rintro ⟨other, listed, same⟩
        exact (names other listed).1 same
    · rintro ⟨⟨own, others⟩, ⟨apart, nodup⟩, ⟨fresh, names⟩, same⟩
      refine ⟨_, ⟨own, fresh, rfl⟩, fun other listed => ?_, nodup, fun other listed => ?_, ?_⟩
      · exact (kept other (List.mem_cons_of_mem _ listed) state fresh).mpr (others other listed)
      · rw [registers.placed, mem_names_insert, not_or]
        exact ⟨fun same => apart ⟨other, listed, same⟩, names other listed⟩
      · rw [registers.placed, registers.replaced]
        exact same

end Registers

end QueryRewriting.Entries
