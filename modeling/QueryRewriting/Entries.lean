/-!
Finite maps from names. A map is a list of entries whose keys increase strictly in code-point
order, so two maps with the same entries are the same list, and listing a map is reading it.
`sorted_ofList` says that a map built from any pairs is in this order; `find?_insert_self` and
`find?_insert_of_ne` say that inserting changes the value of one name and of no other.
-/

namespace QueryRewriting

/-- The entries of a map from names, one for each name. -/
abbrev Entries (α : Type) := List (String × α)

namespace Entries

variable {α β : Type}

/-- The value of a name. -/
def find? (entries : Entries α) (name : String) : Option α :=
  List.lookup name entries

/-- Whether a name has an entry. -/
def contains (entries : Entries α) (name : String) : Bool :=
  (entries.find? name).isSome

/-- Gives a name a value; an older value of the name is dropped. -/
def insert (name : String) (value : α) : Entries α → Entries α
  | [] => [(name, value)]
  | (key, old) :: rest =>
    if name < key then (name, value) :: (key, old) :: rest
    else if name = key then (name, value) :: rest
    else (key, old) :: insert name value rest

/-- The map of a list of pairs; of two pairs with one name the later counts. -/
def ofList (pairs : List (String × α)) : Entries α :=
  pairs.foldl (fun entries pair => insert pair.1 pair.2 entries) []

/-- The names that have an entry, in order. -/
def names (entries : Entries α) : List String :=
  entries.map Prod.fst

/-- Strictly increasing keys: what `insert` keeps and `ofList` establishes. -/
def Sorted (entries : Entries α) : Prop :=
  entries.names.Pairwise (· < ·)

theorem mem_names_insert {name key : String} {value : α} {entries : Entries α} :
    key ∈ names (insert name value entries) ↔ key = name ∨ key ∈ names entries := by
  induction entries with
  | nil => simp [insert, names]
  | cons entry rest ih =>
    obtain ⟨head, old⟩ := entry
    simp only [names] at ih
    by_cases below : name < head
    · simp [insert, names, below]
    · by_cases same : name = head
      · subst same; simp [insert, names]
      · simp [insert, names, below, same, ih]; grind

theorem sorted_cons {key : String} {value : α} {rest : Entries α} :
    Sorted ((key, value) :: rest) ↔ (∀ other ∈ names rest, key < other) ∧ Sorted rest :=
  List.pairwise_cons

theorem sorted_insert {entries : Entries α} (sorted : Sorted entries) (name : String) (value : α) :
    Sorted (insert name value entries) := by
  induction entries with
  | nil => simp [insert, Sorted, names]
  | cons entry rest ih =>
    obtain ⟨head, old⟩ := entry
    obtain ⟨above, sortedRest⟩ := sorted_cons.1 sorted
    by_cases below : name < head
    · rw [insert, if_pos below, sorted_cons]
      refine ⟨fun key member => ?_, sorted⟩
      rcases List.mem_cons.1 member with rfl | member
      · exact below
      · exact String.lt_trans below (above key member)
    · by_cases same : name = head
      · subst same
        rw [insert, if_neg below, if_pos rfl]
        exact sorted_cons.2 ⟨above, sortedRest⟩
      · rw [insert, if_neg below, if_neg same, sorted_cons]
        refine ⟨fun key member => ?_, ih sortedRest⟩
        rcases mem_names_insert.1 member with rfl | member
        · exact Decidable.byContradiction fun notAbove =>
            same (String.le_antisymm (String.not_lt.1 notAbove) (String.not_lt.1 below))
        · exact above key member

theorem sorted_ofList (pairs : List (String × α)) : Sorted (ofList pairs) := by
  suffices kept : ∀ entries : Entries α, Sorted entries →
      Sorted (pairs.foldl (fun entries pair => insert pair.1 pair.2 entries) entries) from
    kept [] List.Pairwise.nil
  induction pairs with
  | nil => exact fun _ sorted => sorted
  | cons pair rest ih => exact fun entries sorted => ih _ (sorted_insert sorted _ _)

/-- What is found under a name is listed with it. -/
theorem mem_of_find? {entries : Entries α} {name : String} {value : α}
    (found : find? entries name = some value) : (name, value) ∈ entries := by
  obtain ⟨earlier, later, split, -⟩ := List.lookup_eq_some_iff.mp found
  rw [split]
  exact List.mem_append_right _ List.mem_cons_self

theorem find?_insert_self (name : String) (value : α) (entries : Entries α) :
    find? (insert name value entries) name = some value := by
  induction entries with
  | nil => simp [insert, find?]
  | cons entry rest ih =>
    obtain ⟨head, old⟩ := entry
    simp only [find?] at ih
    by_cases below : name < head
    · simp [insert, find?, below]
    · by_cases same : name = head
      · subst same; simp [insert, find?]
      · simp [insert, find?, List.lookup_cons, below, same, ih, beq_false_of_ne same]

theorem find?_insert_of_ne {name key : String} (other : key ≠ name) (value : α)
    (entries : Entries α) : find? (insert name value entries) key = find? entries key := by
  induction entries with
  | nil => simp [insert, find?, List.lookup_cons, beq_false_of_ne other]
  | cons entry rest ih =>
    obtain ⟨head, old⟩ := entry
    simp only [find?] at ih
    by_cases below : name < head
    · simp [insert, find?, below, List.lookup_cons, beq_false_of_ne other]
    · by_cases same : name = head
      · subst same
        simp [insert, find?, List.lookup_cons, beq_false_of_ne other]
      · simp [insert, find?, below, same, List.lookup_cons, ih]

end Entries

end QueryRewriting
