import Mathlib.Data.List.Find
import SqlTree.Proofs.SelectRun

/-!
# Additions to a query

How the calls on a `SELECT` end. A call builds the sources that it adds, if it adds any,
and then makes them known. It fails if a name is malformed or if a key is taken, and there
is nothing else that it can fail of (`Select.Action.ending`). A call that fails leaves the
`SELECT` as it was. A key that is taken is logged, and nothing else is
(`Select.run_log`).

A join is added as a whole or not at all. It is refused for the first of its keys that is
taken, and if none is, the scope becomes what it becomes when its leaves are added one by
one (`Select.additions_all_or_nothing`).
-/

namespace SqlTree

/-- Whether a computation has nothing to do with keys: it logs nothing, and it does not fail
of a key that is taken. -/
def Build.IsQuiet {α : Type} (build : Build α) : Prop :=
  ∀ log, (∃ value, build.run log = (.ok value, log)) ∨
    ∃ error : BuildError, error.isDuplicateSource = false ∧ build.run log = (.error error, log)

namespace Build.IsQuiet

variable {α β : Type}

/-- Giving a value is quiet. -/
theorem pure (value : α) : IsQuiet (pure value) :=
  fun _ => .inl ⟨value, rfl⟩

/-- Quiet computations in a row are quiet. -/
theorem bind {first : Build α} {next : α → Build β} (quiet : first.IsQuiet)
    (quietNext : ∀ value, (next value).IsQuiet) : (first >>= next).IsQuiet := by
  intro log
  rw [Build.run_bind]
  rcases quiet log with ⟨value, ran⟩ | ⟨error, isOther, ran⟩
  · rw [ran]
    exact quietNext value log
  · rw [ran]
    exact .inr ⟨error, isOther, rfl⟩

end Build.IsQuiet

/-- Reading a name has nothing to do with keys. -/
theorem Spelling.isQuiet_build (spelling : Spelling) : spelling.build.IsQuiet := by
  intro log
  rw [Spelling.build]
  cases spelling.identifier with
  | ok identifier => exact .inl ⟨identifier, rfl⟩
  | error fault => exact .inr ⟨_, rfl, rfl⟩

/-- Reading a name that may be missing has nothing to do with keys. -/
theorem Spelling.isQuiet_buildOption (spelling : Option Spelling) :
    (Spelling.buildOption spelling).IsQuiet := by
  cases spelling with
  | none => exact .pure none
  | some spelling =>
    rw [Spelling.buildOption, map_eq_pure_bind]
    exact spelling.isQuiet_build.bind fun _ => .pure _

/-- Building a source has nothing to do with keys. -/
theorem Source.isQuiet_ofOrigin (origin : Origin) (aliasName : Option Spelling) :
    (Source.ofOrigin origin aliasName).IsQuiet :=
  (Spelling.isQuiet_buildOption aliasName).bind fun _ => .pure _

theorem Source.isQuiet_table (name : Spelling) (aliasName : Option Spelling) :
    (Source.table name aliasName).IsQuiet :=
  name.isQuiet_build.bind fun _ => isQuiet_ofOrigin _ aliasName

namespace Scope

variable {scope : Scope} {source : Source} {sources : List Source} {key : String} {log : Log}

/-- The first key of some sources, from left to right, that a scope already knows. -/
def firstTaken? (scope : Scope) (sources : List Source) : Option String :=
  (sources.filterMap Source.key?).find? scope.contains

/-- No key of some sources is taken exactly if the scope knows none of them. -/
theorem firstTaken?_eq_none_iff :
    scope.firstTaken? sources = none ↔
      ∀ key ∈ sources.filterMap Source.key?, key ∉ scope.keys := by
  simp only [firstTaken?, List.find?_eq_none, contains_iff]

/-- Sources without keys take none. -/
theorem firstTaken?_filter (scope : Scope) (sources : List Source) :
    scope.firstTaken? (sources.filter Source.isKeyed) = scope.firstTaken? sources :=
  congrArg (List.find? scope.contains) (keys_filter sources)

/-- A scope to which a source has been added knows the key of the source besides. -/
theorem contains_append (scope : Scope) (source : Source) (key : String) :
    contains ⟨scope.sources ++ [source]⟩ key = (scope.contains key || isKeyOf key source) := by
  simp [contains]

/-- A source with a new key does not change which keys of other sources are taken. -/
theorem firstTaken?_append (scope : Scope) {source : Source} {sources : List Source}
    (isNew : ∀ key ∈ source.key?, key ∉ sources.filterMap Source.key?) :
    firstTaken? ⟨scope.sources ++ [source]⟩ sources = scope.firstTaken? sources := by
  refine List.find?_congr fun key member => ?_
  have different : source.key? ≠ some key := fun same => isNew key same member
  rw [contains_append, isKeyOf]
  simp [different]

/-- The first of several sources becomes known before the others. -/
theorem run_insertEach_cons (scope : Scope) (source : Source) (sources : List Source)
    (log : Log) :
    (scope.insertEach (source :: sources)).run log =
      match (scope.insert source).run log with
      | (.ok scope, log) => (scope.insertEach sources).run log
      | (.error error, log) => (.error error, log) := by
  rw [insertEach, List.foldlM_cons, Build.run_bind]
  rcases (scope.insert source).run log with ⟨_ | _, _⟩ <;> rfl

/-- One source becomes known as several do. -/
theorem run_insertEach_singleton (scope : Scope) (source : Source) (log : Log) :
    (scope.insertEach [source]).run log = (scope.insert source).run log := by
  rw [run_insertEach_cons]
  rcases (scope.insert source).run log with ⟨_ | _, _⟩ <;> rfl

/-- Sources with distinct keys become known all together, or the first of their keys that is
taken is refused and logged. -/
theorem run_insertEach (scope : Scope) (distinct : (sources.filterMap Source.key?).Nodup)
    (log : Log) :
    (scope.insertEach sources).run log =
      match scope.firstTaken? sources with
      | none => (.ok ⟨scope.sources ++ sources.filter Source.isKeyed⟩, log)
      | some key => (.error (.duplicateSource key), log ++ [.duplicateKey key]) := by
  induction sources generalizing scope with
  | nil =>
    obtain ⟨known⟩ := scope
    rw [List.filter_nil, List.append_nil]
    rfl
  | cons source rest inductionHypothesis =>
    rw [run_insertEach_cons, run_insert]
    cases isKey : source.key? with
    | none =>
      have restDistinct : (rest.filterMap Source.key?).Nodup := by
        simpa [List.filterMap_cons, isKey] using distinct
      have same : scope.firstTaken? (source :: rest) = scope.firstTaken? rest := by
        simp [firstTaken?, isKey]
      rw [same]
      simpa [Source.isKeyed, isKey] using inductionHypothesis scope restDistinct
    | some key =>
      rw [List.filterMap_cons, isKey, List.nodup_cons] at distinct
      obtain ⟨isNew, restDistinct⟩ := distinct
      cases taken : scope.contains key with
      | true => simp [firstTaken?, isKey, taken]
      | false =>
        -- Keys are distinct, so the source that becomes known takes none of the others.
        have same : scope.firstTaken? (source :: rest) =
            firstTaken? ⟨scope.sources ++ [source]⟩ rest := by
          rw [firstTaken?_append scope (by simpa [isKey] using isNew)]
          simp [firstTaken?, isKey, taken]
        have following := inductionHypothesis ⟨scope.sources ++ [source]⟩ restDistinct
        rw [same]
        simpa [taken, Source.isKeyed, isKey] using following

end Scope

/-- A built join knows the keys of its leaves, from left to right. -/
theorem Join.Built.keys_eq {join : Join} (built : join.Built) :
    join.scope.keys = (FromItem.join join).leaves.filterMap Source.key? := by
  rw [Scope.keys, built.scope_eq.1]
  exact Scope.keys_filter _

namespace Select

/-- The answer of a call. -/
def Action.outcome (action : Action) (state : Select × Log) : Except BuildError Unit :=
  ((action.edit.apply state.1).run state.2).1.1

/-- The answers of calls, one after the other. -/
def outcomes : List Action → Select × Log → List (Except BuildError Unit)
  | [], _ => []
  | action :: rest, state => action.outcome state :: outcomes rest (action.step state)

/-- What is logged of an answer: a warning if a key was taken. -/
def warnings : Except BuildError Unit → Log
  | .error (.duplicateSource key) => [.duplicateKey key]
  | _ => []

/-- Nothing is logged of other errors. -/
theorem warnings_of_isOther {error : BuildError} (isOther : error.isDuplicateSource = false) :
    warnings (.error error) = [] := by
  cases error with
  | duplicateSource key => cases isOther
  | invalidIdentifier | invalidLiteral | invalidJoin | config => rfl

/-- The sources that a call adds to the `FROM` clause, from left to right and with joins taken
apart. They are built first, and that fails if a name is malformed. -/
def Action.addition : Action → Build (List Source)
  | addTable name aliasName => return [← Source.table name aliasName]
  | addCall call aliasName => return [← Source.ofOrigin (.call call) aliasName]
  | addQuery query aliasName => return [← Source.ofOrigin (.query query) aliasName]
  | addSource source => return [source]
  | addJoin join _ => return (FromItem.join join).leaves
  | addProjection _ aliasName => do
    let _ ← Spelling.buildOption aliasName
    return []
  | _ => return []

/-- How a call can end, if the sources that it adds are built or it is known why they are
not. -/
inductive Ending (state : Select × Log) :
    Except BuildError (List Source) → (Except BuildError Unit × Select) × Log → Prop where
  /-- A name is malformed, and nothing happens. -/
  | malformed {error : BuildError} (isOther : error.isDuplicateSource = false) :
      Ending state (.error error) ((.error error, state.1), state.2)
  /-- A key is taken, and nothing happens but that it is logged. -/
  | taken {sources : List Source} {key : String}
      (isTaken : state.1.scope.firstTaken? sources = some key) :
      Ending state (.ok sources)
        ((.error (.duplicateSource key), state.1), state.2 ++ [.duplicateKey key])
  /-- All keys are free, and nothing is logged. -/
  | accepted {sources : List Source} {next : Select}
      (free : state.1.scope.firstTaken? sources = none) :
      Ending state (.ok sources) ((.ok (), next), state.2)

/-- A source is added if its key is free, and refused otherwise. -/
theorem run_addSource_eq (source : Source) (select : Select) (log : Log) :
    ((Select.addSource source).apply select).run log =
      match select.scope.firstTaken? [source] with
      | none =>
        ((.ok (), { select with
            scope := ⟨select.scope.sources ++ [source].filter Source.isKeyed⟩
            items := select.items ++ [.source source] }), log)
      | some key => ((.error (.duplicateSource key), select), log ++ [.duplicateKey key]) := by
  have distinct : ([source].filterMap Source.key?).Nodup := by
    cases isKey : source.key? <;> simp [isKey]
  rw [run_addSource, ← Scope.run_insertEach_singleton, Scope.run_insertEach _ distinct]
  cases select.scope.firstTaken? [source] <;> rfl

/-- A built join is added if all its keys are free, and refused for the first one that is
not. -/
theorem run_addJoin_eq {join : Join} (built : join.Built) (select : Select) (log : Log) :
    ((Select.addJoin join).apply select).run log =
      match select.scope.firstTaken? (FromItem.join join).leaves with
      | none =>
        ((.ok (), { select with
            scope := ⟨select.scope.sources ++
              (FromItem.join join).leaves.filter Source.isKeyed⟩
            items := select.items ++ [.join join] }), log)
      | some key => ((.error (.duplicateSource key), select), log ++ [.duplicateKey key]) := by
  rw [run_addJoin, Scope.run_insertEach _ built.scope_eq.2, built.scope_eq.1,
    Scope.firstTaken?_filter, List.filter_filter]
  cases select.scope.firstTaken? (FromItem.join join).leaves <;> simp [addLast]

/-- How adding a source ends. -/
theorem ending_addSource (source : Source) (state : Select × Log) :
    Ending state (.ok [source]) (((Select.addSource source).apply state.1).run state.2) := by
  rw [run_addSource_eq]
  cases found : state.1.scope.firstTaken? [source] with
  | none => exact .accepted found
  | some key => exact .taken found

/-- How adding a source ends that is built first. -/
theorem ending_buildSource {source : Build Source} (quiet : source.IsQuiet)
    (state : Select × Log) :
    Ending state ((do return [← source] : Build (List Source)).run state.2).1 ((((do
        let source ← Edit.build source
        Select.addSource source
        return source) >>= fun _ => return : Edit Select Unit).apply state.1).run state.2) := by
  rw [run_buildSource, Build.run_bind]
  rcases quiet state.2 with ⟨source, ran⟩ | ⟨error, isOther, ran⟩
  · rw [ran]
    exact ending_addSource source state
  · rw [ran]
    exact .malformed isOther

/-- How adding a join ends. -/
theorem ending_addJoin {join : Join} (built : join.Built) (state : Select × Log) :
    Ending state (.ok (FromItem.join join).leaves)
      (((Select.addJoin join).apply state.1).run state.2) := by
  rw [run_addJoin_eq built]
  cases found : state.1.scope.firstTaken? (FromItem.join join).leaves with
  | none => exact .accepted found
  | some key => exact .taken found

/-- How adding an entry to the list ends. -/
theorem ending_addProjection (expr : Expr) (aliasName : Option Spelling)
    (state : Select × Log) :
    Ending state ((Action.addProjection expr aliasName).addition.run state.2).1
      (((Select.addProjection expr aliasName).apply state.1).run state.2) := by
  rw [Action.addition, Select.addProjection, Edit.run_bind, Edit.run_build, Build.run_bind]
  rcases Spelling.isQuiet_buildOption aliasName state.2 with
    ⟨name, ran⟩ | ⟨error, isOther, ran⟩
  · rw [ran]
    exact .accepted rfl
  · rw [ran]
    exact .malformed isOther

/-- How a call ends: with an error before anything has changed, or with the key that is
refused in the log, or with success and nothing in the log. -/
theorem Action.ending (action : Action) (state : Select × Log) :
    Ending state (action.addition.run state.2).1 ((action.edit.apply state.1).run state.2) := by
  cases action with
  | addTable name aliasName =>
    exact ending_buildSource (Source.isQuiet_table name aliasName) state
  | addCall call aliasName =>
    exact ending_buildSource (Source.isQuiet_ofOrigin (.call call) aliasName) state
  | addQuery query aliasName =>
    exact ending_buildSource (Source.isQuiet_ofOrigin (.query query) aliasName) state
  | addSource source => exact ending_addSource source state
  | addJoin join built => exact ending_addJoin built state
  | addProjection expr aliasName => exact ending_addProjection expr aliasName state
  | _ => exact .accepted rfl

/-- A call that fails leaves the `SELECT` as it was. -/
theorem Action.step_of_error {action : Action} {state : Select × Log} {error : BuildError}
    (failed : action.outcome state = .error error) : (action.step state).1 = state.1 := by
  have ending := action.ending state
  rw [outcome] at failed
  rw [step]
  generalize (action.addition.run state.2).1 = built at ending
  generalize (action.edit.apply state.1).run state.2 = result at *
  cases ending with
  | malformed | taken => rfl
  | accepted => cases failed

/-- A call logs the key that it is refused for, and nothing else. -/
theorem Action.log_step (action : Action) (state : Select × Log) :
    (action.step state).2 = state.2 ++ warnings (action.outcome state) := by
  have ending := action.ending state
  rw [outcome, step]
  generalize (action.addition.run state.2).1 = built at ending
  generalize (action.edit.apply state.1).run state.2 = result at *
  cases ending with
  | malformed isOther => simp [warnings_of_isOther isOther]
  | taken => rfl
  | accepted => simp [warnings]

/-- Calls log the keys that they are refused for, in order, and nothing else. -/
theorem run_log (actions : List Action) (state : Select × Log) :
    (run actions state).2 = state.2 ++ (outcomes actions state).flatMap warnings := by
  induction actions generalizing state with
  | nil => simp [run, outcomes]
  | cons action rest inductionHypothesis =>
    have following := inductionHypothesis (action.step state)
    rw [action.log_step, List.append_assoc] at following
    exact following

/-- A call that would add a source whose key is known is refused for the first of its keys
that is. -/
theorem Action.outcome_of_known {action : Action} {state : Select × Log} {sources : List Source}
    {source : Source} {key : String} (built : (action.addition.run state.2).1 = .ok sources)
    (member : source ∈ sources) (isKey : source.key? = some key)
    (known : key ∈ state.1.scope.keys) :
    ∃ refused, state.1.scope.firstTaken? sources = some refused ∧
      action.outcome state = .error (.duplicateSource refused) := by
  have ending := action.ending state
  rw [built] at ending
  rw [outcome]
  generalize (action.edit.apply state.1).run state.2 = result at *
  cases ending with
  | taken isTaken => exact ⟨_, isTaken, rfl⟩
  | accepted free =>
    have isKeyOfSome : key ∈ sources.filterMap Source.key? :=
      List.mem_filterMap.2 ⟨source, member, isKey⟩
    exact absurd known (Scope.firstTaken?_eq_none_iff.1 free key isKeyOfSome)

/-- Sources that can become known at once can be added one by one, and the scope becomes the
same. -/
theorem run_addSources (select : Select) {sources : List Source} {scope : Scope}
    {log after : Log}
    (inserted : (select.scope.insertEach sources).run log = (.ok scope, after)) :
    run (sources.map Action.addSource) (select, log) =
        ({ select with scope := scope, items := select.items ++ sources.map FromItem.source },
          after) ∧
      ∀ answer ∈ outcomes (sources.map Action.addSource) (select, log), answer = .ok () := by
  induction sources generalizing select log with
  | nil =>
    have same : (Except.ok select.scope, log) = (Except.ok scope, after) := inserted
    cases same
    cases select
    simp [run, outcomes]
  | cons source rest inductionHypothesis =>
    rw [Scope.insertEach, List.foldlM_cons] at inserted
    obtain ⟨known, middle, first, following⟩ := Build.of_run_bind inserted
    have added : ((Select.addSource source).apply select).run log =
        ((.ok (), { select with
            scope := known
            items := select.items ++ [.source source] }), middle) := by
      rw [run_addSource, first]
      rfl
    obtain ⟨others, accepted⟩ := inductionHypothesis { select with
        scope := known
        items := select.items ++ [.source source] } following
    constructor
    · calc run ((source :: rest).map Action.addSource) (select, log)
          = run (rest.map Action.addSource) ((Action.addSource source).step (select, log)) := rfl
        _ = _ := by
          rw [Action.step, Action.edit, added, others]
          simp
    · rw [List.map_cons, outcomes, List.forall_mem_cons, Action.outcome, Action.step,
        Action.edit, added]
      exact ⟨rfl, accepted⟩

/-- Additions happen as a whole or not at all.

A join is added exactly if the scope knows none of its keys. It then stands at the end of the
`FROM` clause, and the scope has become what it becomes when the leaves of the join that have
keys are added one by one, from left to right, all of which can be added. Otherwise the join
is refused for the first key of its leaves, from left to right, that the scope knows. This key
is logged, and nothing else happens.

No call that fails changes the `SELECT`, and of any calls exactly the keys that they are
refused for are logged, in order. -/
theorem additions_all_or_nothing :
    (∀ (join : Join) (built : join.Built) (state : Select × Log),
      let call := Action.addJoin join built
      let leaves := (FromItem.join join).leaves
      let oneByOne := (leaves.filter Source.isKeyed).map Action.addSource
      (call.outcome state = .ok () ↔ ∀ key ∈ join.scope.keys, key ∉ state.1.scope.keys) ∧
        (call.outcome state = .ok () →
          call.step state =
              ({ state.1 with
                  scope := (run oneByOne state).1.scope
                  items := state.1.items ++ [.join join] }, state.2) ∧
            ∀ answer ∈ outcomes oneByOne state, answer = .ok ()) ∧
        ∀ error, call.outcome state = .error error →
          ∃ key, error = .duplicateSource key ∧
            (leaves.filterMap Source.key?).find? state.1.scope.contains = some key ∧
            call.step state = (state.1, state.2 ++ [.duplicateKey key])) ∧
      (∀ (action : Action) (state : Select × Log) (error : BuildError),
        action.outcome state = .error error → (action.step state).1 = state.1) ∧
      ∀ (actions : List Action) (state : Select × Log),
        (run actions state).2 = state.2 ++ (outcomes actions state).flatMap warnings := by
  refine ⟨?_, fun action state error failed => action.step_of_error failed, run_log⟩
  -- Whether a key is taken decides between the two ends of the call, and nothing else does.
  intro join built state call leaves oneByOne
  obtain ⟨select, log⟩ := state
  have ran := run_addJoin_eq built select log
  have free_iff : select.scope.firstTaken? leaves = none ↔
      ∀ key ∈ join.scope.keys, key ∉ select.scope.keys := by
    rw [Scope.firstTaken?_eq_none_iff, ← built.keys_eq]
  cases taken : select.scope.firstTaken? leaves with
  | none =>
    rw [taken] at ran
    have accepted : call.outcome (select, log) = .ok () := congrArg (·.1.1) ran
    have step : call.step (select, log) = _ :=
      congrArg (fun result => (result.1.2, result.2)) ran
    have inserted := Scope.run_insertEach select.scope built.scope_eq.2 log
    rw [built.scope_eq.1, Scope.firstTaken?_filter, taken, List.filter_filter] at inserted
    simp only [Bool.and_self] at inserted
    obtain ⟨together, allAccepted⟩ := run_addSources select inserted
    refine ⟨⟨fun _ => free_iff.1 taken, fun _ => accepted⟩, fun _ => ⟨?_, allAccepted⟩, ?_⟩
    · rw [step, together]
    · intro error failed
      rw [accepted] at failed
      cases failed
  | some key =>
    rw [taken] at ran
    have refused : call.outcome (select, log) = .error (.duplicateSource key) :=
      congrArg (·.1.1) ran
    have step : call.step (select, log) = (select, log ++ [.duplicateKey key]) :=
      congrArg (fun result => (result.1.2, result.2)) ran
    rw [refused, ← free_iff, taken]
    refine ⟨by simp, fun accepted => absurd accepted (by simp), fun error failed => ?_⟩
    cases failed
    exact ⟨key, rfl, taken, step⟩

/-- The join of `a` and `b` is added to the empty `SELECT` like the two tables, and where `b`
is known it is refused for `b`, although `a` comes first. -/
theorem additions_all_or_nothing_join :
    let a : Source := ⟨.table ⟨[.plain "a"], by simp, by decide⟩, none⟩
    let b : Source := ⟨.table ⟨[.plain "b"], by simp, by decide⟩, none⟩
    let join : Join := ⟨.source a, b, .inner, none, false, ⟨[a, b]⟩⟩
    let withB : Select := { Select.empty with scope := ⟨[b]⟩, items := [.source b] }
    ∃ built : join.Built,
      let call := Action.addJoin join built
      call.outcome (.empty, []) = .ok () ∧
        call.step (.empty, []) =
          ({ Select.empty with
              scope := (run [.addSource a, .addSource b] (.empty, [])).1.scope
              items := [.join join] }, []) ∧
        call.outcome (withB, []) = .error (.duplicateSource "b") ∧
        call.step (withB, []) = (withB, [.duplicateKey "b"]) := by
  intro a b join withB
  have made : (Join.ofItem (.source a) b .inner).run [] = (.ok join, []) := rfl
  have built : join.Built := .ofSource made
  have accepted : (Action.addJoin join built).outcome (.empty, []) = .ok () := rfl
  have refused : (Action.addJoin join built).outcome (withB, []) =
      .error (.duplicateSource "b") := rfl
  obtain ⟨-, added, -⟩ := additions_all_or_nothing.1 join built (.empty, [])
  obtain ⟨-, -, refusedFor⟩ := additions_all_or_nothing.1 join built (withB, [])
  obtain ⟨key, isKey, -, unchanged⟩ := refusedFor _ refused
  cases isKey
  exact ⟨built, accepted, (added accepted).1, refused, unchanged⟩

end Select
end SqlTree
