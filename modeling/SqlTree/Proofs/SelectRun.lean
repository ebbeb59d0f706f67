import SqlTree.Select
import SqlTree.Proofs.Scope

/-!
# Runs of calls on a query

A `SELECT` is built by calls, in any order and number, some of which fail. An
`Action` is one call with its arguments, `Action.step` is what it makes of a
`SELECT` and of the log, and `Select.run` is what a sequence of calls makes of
them. The joins that are added come from the operations on joins.

What a call does to the `FROM` clause and to the scope is one of four things
(`FromStep`), whatever the call and its outcome are: an invariant of the two is
proved for the four and holds along every run (`Select.run_invariant`).
-/

namespace SqlTree

namespace Select

/-- A call on a `SELECT`. -/
inductive Action where
  | addTable (name : Spelling) (aliasName : Option Spelling)
  | addCall (call : Call) (aliasName : Option Spelling)
  | addQuery (query : Query) (aliasName : Option Spelling)
  | addSource (source : Source)
  | addJoin (join : Join) (built : join.Built)
  | removeSource (key : String)
  | addProjection (expr : Expr) (aliasName : Option Spelling)
  | removeProjection (expr : Expr)
  | setQuantifier (quantifier : Option SetQuantifier)
  | setTop (top : Option Top)
  | addWhere (condition : Condition)
  | removeWhere (condition : Condition)
  | addGroupKey (expr : Expr)
  | removeGroupKey (expr : Expr)
  | addHaving (condition : Condition)
  | removeHaving (condition : Condition)
  | addSortKey (key : SortKey)
  | removeSortKey (key : SortKey)
  | setWrapped (wrapped : Bool)

/-- What a call does, without the answer that it gives. -/
def Action.edit : Action → Edit Select Unit
  | addTable name aliasName => Select.addTable name aliasName >>= fun _ => return
  | addCall call aliasName => Select.addCall call aliasName >>= fun _ => return
  | addQuery query aliasName => Select.addQuery query aliasName >>= fun _ => return
  | addSource source => Select.addSource source
  | addJoin join _ => Select.addJoin join
  | removeSource key => modify fun select => (select.removeSource key).2
  | addProjection expr aliasName => Select.addProjection expr aliasName
  | removeProjection expr => modify fun select => (select.removeProjection expr).2
  | setQuantifier quantifier => modify fun select => select.setQuantifier quantifier
  | setTop top => modify fun select => select.setTop top
  | addWhere condition => modify fun select => select.addWhere condition
  | removeWhere condition => modify fun select => (select.removeWhere condition).2
  | addGroupKey expr => modify fun select => select.addGroupKey expr
  | removeGroupKey expr => modify fun select => (select.removeGroupKey expr).2
  | addHaving condition => modify fun select => select.addHaving condition
  | removeHaving condition => modify fun select => (select.removeHaving condition).2
  | addSortKey key => modify fun select => select.addSortKey key
  | removeSortKey key => modify fun select => (select.removeSortKey key).2
  | setWrapped wrapped => modify fun select => select.setWrapped wrapped

/-- The `SELECT` and the log after a call that may have failed. -/
def Action.step (action : Action) (state : Select × Log) : Select × Log :=
  let ((_, select), log) := (action.edit.apply state.1).run state.2
  (select, log)

/-- The `SELECT` and the log after calls, one after the other. -/
def run (actions : List Action) (state : Select × Log) : Select × Log :=
  actions.foldl (fun state action => action.step state) state

/-- The `SELECT` that calls make of the empty one. -/
def built (actions : List Action) : Select :=
  (run actions (.empty, [])).1

/-- What a call can do to the `FROM` clause and to the scope. -/
inductive FromStep (select : Select) : Select → Prop where
  /-- Nothing: the call fails, or has to do with other clauses. -/
  | same {next : Select} (scope : next.scope = select.scope)
      (items : next.items = select.items) : FromStep select next
  /-- A source is added, which is made known if it has a key. -/
  | source (source : Source) {next : Select}
      (free : ∀ key ∈ source.key?, key ∉ select.scope.keys)
      (scope : next.scope.sources =
        select.scope.sources ++ [source].filter Source.isKeyed)
      (items : next.items = select.items ++ [.source source]) : FromStep select next
  /-- A join is added, and all that it knows is made known. -/
  | join (join : Join) {next : Select} (built : join.Built)
      (free : ∀ source ∈ join.scope.sources, ∀ key ∈ source.key?, key ∉ select.scope.keys)
      (scope : next.scope.sources =
        select.scope.sources ++ join.scope.sources.filter Source.isKeyed)
      (items : next.items = select.items ++ [.join join]) : FromStep select next
  /-- A known source is forgotten, and the items that are just it go. -/
  | removal (key : String) (source : Source) {next : Select}
      (found : select.scope.get? key = some source)
      (scope : next.scope = (select.scope.remove key).2)
      (items : next.items = select.items.filter (· ≠ .source source)) : FromStep select next

variable {select : Select} {log : Log}

/-- A source is added if it is inserted into the scope, and nothing happens
otherwise. -/
theorem run_addSource (source : Source) (select : Select) (log : Log) :
    ((Select.addSource source).apply select).run log =
      match (select.scope.insert source).run log with
      | (.ok scope, log) =>
        ((.ok (), { select with
            scope := scope
            items := addLast select.items (.source source) }), log)
      | (.error error, log) => ((.error error, select), log) := by
  change ((Edit.build (select.scope.insert source) >>= _).apply select).run log = _
  rw [Edit.run_bind, Edit.run_build]
  rcases (select.scope.insert source).run log with ⟨_ | _, _⟩ <;> rfl

/-- A join is added if all that it knows is inserted into the scope, and nothing
happens otherwise. -/
theorem run_addJoin (join : Join) (select : Select) (log : Log) :
    ((Select.addJoin join).apply select).run log =
      match (select.scope.insertEach join.scope.sources).run log with
      | (.ok scope, log) =>
        ((.ok (), { select with
            scope := scope
            items := addLast select.items (.join join) }), log)
      | (.error error, log) => ((.error error, select), log) := by
  change ((Edit.build (select.scope.insertEach join.scope.sources) >>= _).apply select).run
    log = _
  rw [Edit.run_bind, Edit.run_build]
  rcases (select.scope.insertEach join.scope.sources).run log with ⟨_ | _, _⟩ <;> rfl

/-- Adding a source that is built first leaves what adding it leaves, or nothing
happens. -/
theorem run_buildSource (source : Build Source) (select : Select) (log : Log) :
    (((do
        let source ← Edit.build source
        Select.addSource source
        return source) >>= fun _ => return : Edit Select Unit).apply select).run log =
      match source.run log with
      | (.ok source, log) => ((Select.addSource source).apply select).run log
      | (.error error, log) => ((.error error, select), log) := by
  rw [Edit.run_bind, Edit.run_bind, Edit.run_build]
  rcases source.run log with ⟨_ | source, middle⟩
  · rfl
  · simp only [Edit.run_bind]
    rcases ((Select.addSource source).apply select).run middle with ⟨⟨_ | _, _⟩, _⟩ <;> rfl

/-- What adding a source does to the `FROM` clause and to the scope. -/
theorem fromStep_addSource (source : Source) (select : Select) (log : Log) :
    FromStep select (((Select.addSource source).apply select).run log).1.2 := by
  rw [run_addSource]
  cases inserted : (select.scope.insert source).run log with
  | mk outcome after =>
    cases outcome with
    | error fault => exact .same rfl rfl
    | ok scope =>
      obtain ⟨sources, free⟩ := Scope.eq_of_run_insert inserted
      exact .source source free sources rfl

/-- What adding a source that is built first does to the `FROM` clause and to the
scope. -/
theorem fromStep_buildSource (source : Build Source) (select : Select) (log : Log) :
    FromStep select ((((do
        let source ← Edit.build source
        Select.addSource source
        return source) >>= fun _ => return : Edit Select Unit).apply select).run log).1.2 := by
  rw [run_buildSource]
  rcases source.run log with ⟨_ | source, middle⟩
  · exact .same rfl rfl
  · exact fromStep_addSource source select middle

/-- What adding a join does to the `FROM` clause and to the scope. -/
theorem fromStep_addJoin {join : Join} (built : join.Built) (select : Select) (log : Log) :
    FromStep select (((Select.addJoin join).apply select).run log).1.2 := by
  rw [run_addJoin]
  cases inserted : (select.scope.insertEach join.scope.sources).run log with
  | mk outcome after =>
    cases outcome with
    | error fault => exact .same rfl rfl
    | ok scope =>
      obtain ⟨sources, free⟩ := Scope.eq_of_run_insertEach inserted
      exact .join join built free sources rfl

/-- What forgetting a source does to the `FROM` clause and to the scope. -/
theorem fromStep_removeSource (key : String) (select : Select) :
    FromStep select (select.removeSource key).2 := by
  unfold Select.removeSource
  cases found : select.scope.get? key with
  | none =>
    simp only [Scope.remove, found]
    exact .same rfl rfl
  | some source =>
    simp only [Scope.remove, found]
    exact .removal key source found rfl rfl

/-- Adding an entry to the list leaves the `FROM` clause and the scope alone. -/
theorem fromStep_addProjection (expr : Expr) (aliasName : Option Spelling) (select : Select)
    (log : Log) :
    FromStep select (((Select.addProjection expr aliasName).apply select).run log).1.2 := by
  rw [Select.addProjection, Edit.run_bind, Edit.run_build]
  rcases (Spelling.buildOption aliasName).run log with ⟨_ | _, _⟩ <;> exact .same rfl rfl

/-- What a call does to the `FROM` clause and to the scope. -/
theorem Action.fromStep (action : Action) (state : Select × Log) :
    FromStep state.1 (action.step state).1 := by
  obtain ⟨select, log⟩ := state
  cases action with
  | addTable name aliasName =>
    exact fromStep_buildSource (Source.table name aliasName) select log
  | addCall call aliasName =>
    exact fromStep_buildSource (Source.ofOrigin (.call call) aliasName) select log
  | addQuery query aliasName =>
    exact fromStep_buildSource (Source.ofOrigin (.query query) aliasName) select log
  | addSource source => exact fromStep_addSource source select log
  | addJoin join built => exact fromStep_addJoin built select log
  | removeSource key => exact fromStep_removeSource key select
  | addProjection expr aliasName => exact fromStep_addProjection expr aliasName select log
  | _ => exact .same rfl rfl

/-- What holds of the `FROM` clause and of the scope before calls, and is kept by
all that a call can do to them, holds after the calls. -/
theorem run_invariant {invariant : Select → Prop}
    (kept : ∀ {select next}, FromStep select next → invariant select → invariant next)
    (actions : List Action) (state : Select × Log) (initially : invariant state.1) :
    invariant (run actions state).1 := by
  induction actions generalizing state with
  | nil => exact initially
  | cons action rest inductionHypothesis =>
    exact inductionHypothesis (action.step state) (kept (action.fromStep state) initially)

end Select

end SqlTree
