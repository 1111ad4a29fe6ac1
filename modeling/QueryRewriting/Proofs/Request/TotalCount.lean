import QueryRewriting.Proofs.Request.Lockstep

/-! A total count over a store changes nothing else about an answer. The second query that counts
the rows never fails where the first one has succeeded, and it never counts fewer rows than the
first one has returned: the rows of a page are an unbroken part of the rows it is a page of. -/
namespace QueryRewriting.Evaluation

open Json

/-- The rows of a `skip` or `take` call are a part of the rows it is applied to. -/
theorem operate?_paging {method : Method} (paging : method.isPaging = true) {all page : List Value}
    {argument : Option Value} {images : Option (List Value)}
    (paged : operate? method all argument images = some (.array page)) : page <:+: all := by
  cases method with
  | skip =>
    obtain ⟨count, -, same⟩ := Option.map_eq_some_iff.mp paged
    cases same
    exact (List.drop_suffix count all).isInfix
  | take =>
    obtain ⟨count, -, same⟩ := Option.map_eq_some_iff.mp paged
    cases same
    exact (List.take_prefix count all).isInfix
  | _ => contradiction

/-- Whatever the counts of an outermost run of pages are, without the run a tree has rows wherever
it has rows with it, and those it had are a part of them. -/
theorem value?_stripPaging {store : Store} {scope : Scope} {e : Expr} {page : List Value}
    (paged : value? store e scope = some (.array page)) :
    ∃ all, value? store e.stripPaging scope = some (.array all) ∧ page <:+: all := by
  induction e using Expr.ofChildren generalizing page with
  | step e ih =>
    cases paging : e.isPaging with
    | false =>
      rw [Expr.stripPaging_of_not_paging paging]
      exact ⟨page, paged, List.infix_rfl⟩
    | true =>
      cases e with
      | call stamp method args =>
        cases args with
        | nil => contradiction
        | cons inner rest =>
          rw [value?_call, Option.bind_eq_some_iff] at paged
          obtain ⟨items, listed, paged⟩ := paged
          obtain ⟨value, known, listed⟩ := Option.bind_eq_some_iff.mp listed
          cases value with
          | array items =>
            cases listed
            obtain ⟨all, counted, inside⟩ := ih inner List.mem_cons_self known
            rw [Expr.stripPaging_call paging]
            exact ⟨all, counted, (operate?_paging paging paged).trans inside⟩
          | _ => contradiction
      | _ => contradiction

namespace Store

variable {store : Store} {query : Expr} {ambient : Ambient}

/-- The rows of a sequence query, or why it has none. -/
def fetched (store : Store) (query : Expr) : Except Interruption (List Value) :=
  match evaluate store query with
  | .ok (.array items) => .ok items
  | .ok other => .error (.failed (.execution (.sequenceProduced other)))
  | .error error => .error (.failed (.execution (.evaluation error)))

theorem fetched_eq_ok {items : List Value} :
    store.fetched query = .ok items ↔ evaluate store query = .ok (.array items) := by
  unfold fetched
  split <;> simp_all

/-- Trees that are built alike have the same rows. -/
theorem fetched_of_erased {other : Expr} (alike : other.erased = query.erased) {items : List Value}
    (has : store.fetched query = .ok items) : store.fetched other = .ok items := by
  rw [fetched_eq_ok] at has ⊢
  have known : value? store query [] = some (.array items) := congrArg Except.toOption has
  rw [← value?_erased, ← alike, value?_erased] at known
  exact eq_ok_of_toOption known

theorem fetched_stripPaging {page : List Value} (has : store.fetched query = .ok page) :
    ∃ all, store.fetched query.stripPaging = .ok all ∧ page <:+: all := by
  have known : value? store query [] = some (.array page) :=
    congrArg Except.toOption (fetched_eq_ok.mp has)
  obtain ⟨all, counted, inside⟩ := value?_stripPaging known
  exact ⟨all, fetched_eq_ok.mpr (eq_ok_of_toOption counted), inside⟩

theorem executeSequence_run (active : ambient.cancelled = false) (query : Expr) :
    ∃ after : Ambient, after.cancelled = false ∧
      (store.executeSequence query).run.run ambient =
        ((store.fetched query).map fun items => { items }, after) := by
  obtain ⟨logged, kept, ran⟩ := store.execute_run query ambient
  unfold executeSequence fetched
  rw [run_bind, ran, active, if_neg Bool.false_ne_true]
  cases evaluate store query with
  | error error => exact ⟨ambient, active, rfl⟩
  | ok value => cases value <;> exact ⟨logged, kept.trans active, rfl⟩

/-- The count of a query whose rows are there without its pages. -/
theorem countRows_run (active : ambient.cancelled = false) (request : RequestContext)
    {all : List Value} (has : store.fetched query.stripPaging = .ok all) :
    ((store.executor.countRows request query).run.run ambient).1 = .ok all.length.toUInt64 := by
  have value : evaluate store ((Fresh.call .count [query.stripPaging]).run ambient.supply).1 =
      .ok (countOf all) := by
    have rows : eval store query.stripPaging [] = .ok (.array all) := fetched_eq_ok.mp has
    change eval store (.call _ .count [query.stripPaging]) [] = _
    rw [eval, rows]
    rfl
  obtain ⟨logged, -, ran⟩ := store.execute_run
    ((Fresh.call .count [query.stripPaging]).run ambient.supply).1
    { ambient with supply := ((Fresh.call .count [query.stripPaging]).run ambient.supply).2 }
  rw [if_neg (by simp [active]), value] at ran
  unfold Executor.countRows
  rw [run_bind, Act.run_build]
  dsimp only
  rw [run_bind, show store.executor.scalar request = store.execute from rfl, ran]
  dsimp only
  rw [totalCount_countOf]
  rfl

/-- What the dispatch of a sequence query comes to: its rows, and on demand the number of rows that
it has without its outermost pages. -/
theorem dispatch_run (store : Store) (many : Shape.of query.type = .sequence)
    (active : ambient.cancelled = false) (request : RequestContext) (options : ExecutionOptions) :
    match store.fetched query with
    | .error error =>
      ((store.executor.dispatch request query options).run.run ambient).1 = .error error
    | .ok items => ∃ all, store.fetched query.stripPaging = .ok all ∧ items <:+: all ∧
      ((store.executor.dispatch request query options).run.run ambient).1 =
        .ok { QueryResult.sequence items with totalCount :=
          if options.includeTotalCount then some all.length.toUInt64 else none } := by
  obtain ⟨after, still, ran⟩ := store.executeSequence_run active query
  unfold Executor.dispatch
  rw [many]
  dsimp only
  rw [run_bind, show store.executor.sequence request query options =
    store.executeSequence query from rfl, ran]
  cases has : store.fetched query with
  | error error => rfl
  | ok items =>
    obtain ⟨all, counted, inside⟩ := fetched_stripPaging has
    refine ⟨all, counted, inside, ?_⟩
    simp only [Except.map]
    cases options.includeTotalCount with
    | false => rfl
    | true =>
      have total := countRows_run still request counted
      simp only [if_true, ← bind_pure_comp, bind_assoc, pure_bind]
      rw [run_bind]
      generalize (store.executor.countRows request query).run.run after = result at *
      obtain ⟨answer, final⟩ := result
      cases (total : answer = _)
      rfl

/-- A total count that is asked for makes no query over a store fail and changes nothing else about
its answer. It is the number of rows that the query has without its outermost pages, at least as
many as are returned, and any other query that differs in these pages only reports it too. -/
theorem dispatch_counted (store : Store) (request : RequestContext) (query : Expr)
    (ambient ambient' : Ambient) (many : query.type.isCollection = true)
    (active : ambient.cancelled = false) (active' : ambient'.cancelled = false) :
    match ((store.executor.dispatch request query {}).run.run ambient).1,
      ((store.executor.dispatch request query { includeTotalCount := true }).run.run ambient').1 with
    | .error error, counted => counted = .error error
    | .ok result, counted => result.shape = .sequence ∧ result.totalCount = none ∧
      ∃ all, evaluate store query.stripPaging = .ok (.array all) ∧
        counted = .ok { result with totalCount := some all.length.toUInt64 } ∧
        result.results.length ≤ all.length ∧
        ∀ other ambient'', other.type.isCollection = true → ambient''.cancelled = false →
          other.stripPaging.erased = query.stripPaging.erased → ∀ result',
          ((store.executor.dispatch request other { includeTotalCount := true }).run.run
            ambient'').1 = .ok result' → result'.totalCount = some all.length.toUInt64 := by
  have shape {e : Expr} (many : e.type.isCollection = true) : Shape.of e.type = .sequence := by
    rw [Shape.of, if_pos many]
  have plain := dispatch_run store (shape many) active request {}
  have counting := dispatch_run store (shape many) active' request
    { includeTotalCount := true }
  cases has : store.fetched query with
  | error error =>
    rw [has] at plain counting
    rw [plain]
    exact counting
  | ok items =>
    rw [has] at plain counting
    obtain ⟨all, known, inside, plain⟩ := plain
    obtain ⟨_, known', -, counting⟩ := counting
    cases known.symm.trans known'
    rw [plain, counting]
    refine ⟨rfl, rfl, all, fetched_eq_ok.mp known, rfl, inside.length_le, ?_⟩
    intro other ambient'' many' active'' alike result' ran
    have others := dispatch_run store (shape many') active'' request
      { includeTotalCount := true }
    cases has' : store.fetched other with
    | error error =>
      rw [has'] at others
      cases others.symm.trans ran
    | ok items' =>
      rw [has'] at others
      obtain ⟨all', known', -, others⟩ := others
      cases (fetched_of_erased alike known).symm.trans known'
      cases others.symm.trans ran
      rfl

/-- The second page of one customer of three, with the total count. -/
theorem customers_counted :
    let store : Store := { collections := [("Customers", [.bool true, .null, .bool false])] }
    let type : QueryType := .sequence .any
    let customers : Expr := .native ⟨0, type⟩ store.proxy "Customers"
    let one (id : Nat) : Expr := .value ⟨id, .int⟩ (.ofUInt64 1)
    let later : Expr := .call ⟨1, type⟩ .skip [customers, one 2]
    let page : Expr := .call ⟨3, type⟩ .take [later, one 4]
    ((store.executor.dispatch (.ofCaller .service) page { includeTotalCount := true }).run.run
        {}).1 = .ok { QueryResult.sequence [.null] with totalCount := some 3 } := by
  intro store type customers one later page
  have counted := dispatch_counted store (.ofCaller .service) page {} {} rfl rfl rfl
  have returned : ((store.executor.dispatch (.ofCaller .service) page {}).run.run {}).1 =
      .ok (.sequence [.null]) := by
    decide +kernel
  rw [returned] at counted
  obtain ⟨-, -, all, stripped, counted, -, -⟩ := counted
  have known : evaluate store page.stripPaging =
      .ok (.array [.bool true, .null, .bool false]) := rfl
  cases known.symm.trans stripped
  exact counted

end Store

end QueryRewriting.Evaluation
