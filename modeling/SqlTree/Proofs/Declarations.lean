import Mathlib.Data.List.Nodup
import SqlTree.Proofs.Additions
import SqlTree.Proofs.FromClause

/-!
# The names that a query declares

How often the `FROM` clause of a `SELECT` declares a name. Additions are checked against the
scope and not against the clause, and the two part when a source is forgotten that the clause
holds inside a join: its key is free again, and the join stays. Such a call strands the key
(`Select.Action.strands`).

The clause declares a key as often as the scope knows it, which is once at most, and once more
for every call that stranded it (`Select.run_balance`). So keys that are never stranded are
declared once, and a source whose key the clause declares more often than it was stranded is
refused (`Select.names_declared_once`). The condition is needed: a key that has been stranded
can be declared a second time (`Select.stranded_name_declared_twice`).
-/

namespace SqlTree.Select

variable {select : Select} {source : Source} {key : String}

/-- The names that the `FROM` clause of a `SELECT` declares, from left to right: the keys of its
leaves. -/
def names (select : Select) : List String :=
  select.leaves.filterMap Source.key?

/-- Whether a call strands a key: it forgets the source that is known by the key, and the
`FROM` clause stays as it is, since it holds the source in a join only. -/
def Action.strands (key : String) (select : Select) : Action → Bool
  | removeSource removed =>
    removed = key && select.scope.contains key && (select.removeSource key).2.items = select.items
  | _ => false

/-- How many of some calls, one after the other, strand a key. -/
def stranded (key : String) : List Action → Select × Log → Nat
  | [], _ => 0
  | action :: rest, state =>
    (action.strands key state.1).toNat + stranded key rest (action.step state)

/-- What a call other than a removal does: sources are added to the leaves of the `FROM` clause,
and those of them that have keys become known. -/
def Grows (select next : Select) : Prop :=
  ∃ added, next.leaves = select.leaves ++ added ∧
    next.scope.sources = select.scope.sources ++ added.filter Source.isKeyed

namespace Grows

/-- Nothing is added if neither the clause nor the scope change. -/
theorem refl (select : Select) : Grows select select :=
  ⟨[], by simp, by simp⟩

/-- Adding a source adds it, or nothing if it is refused. -/
theorem addSource (source : Source) (select : Select) (log : Log) :
    Grows select (((Select.addSource source).apply select).run log).1.2 := by
  rw [run_addSource_eq]
  cases select.scope.firstTaken? [source] with
  | some key => exact refl select
  | none => exact ⟨[source], by simp [leaves, FromItem.leaves], rfl⟩

/-- Adding a source that is built first adds it, or nothing if it is not built or refused. -/
theorem buildSource (source : Build Source) (select : Select) (log : Log) :
    Grows select ((((do
        let source ← Edit.build source
        Select.addSource source
        return source) >>= fun _ => return : Edit Select Unit).apply select).run log).1.2 := by
  rw [run_buildSource]
  rcases source.run log with ⟨_ | source, middle⟩
  · exact refl select
  · exact addSource source select middle

/-- Adding a join adds its leaves, or nothing if it is refused. -/
theorem addJoin {join : Join} (built : join.Built) (select : Select) (log : Log) :
    Grows select (((Select.addJoin join).apply select).run log).1.2 := by
  rw [run_addJoin_eq built]
  cases select.scope.firstTaken? (FromItem.join join).leaves with
  | some key => exact refl select
  | none => exact ⟨(FromItem.join join).leaves, by simp [leaves], rfl⟩

/-- Adding an entry to the list adds nothing to the clause. -/
theorem addProjection (expr : Expr) (aliasName : Option Spelling) (select : Select)
    (log : Log) :
    Grows select (((Select.addProjection expr aliasName).apply select).run log).1.2 := by
  rw [Select.addProjection, Edit.run_bind, Edit.run_build]
  rcases (Spelling.buildOption aliasName).run log with ⟨_ | _, _⟩ <;> exact refl select

/-- What is added to the clause is declared and known equally often. -/
theorem balance {next : Select} (grows : Grows select next) (key : String) :
    next.names.count key + select.scope.keys.count key =
      select.names.count key + next.scope.keys.count key := by
  obtain ⟨added, leaves, sources⟩ := grows
  have names : next.names = select.names ++ added.filterMap Source.key? := by
    rw [Select.names, leaves, List.filterMap_append]
    rfl
  have keys : next.scope.keys = select.scope.keys ++ added.filterMap Source.key? := by
    have known := Scope.keys_filter added
    simp only [Scope.keys] at known ⊢
    rw [sources, List.filterMap_append, known]
  rw [names, keys, List.count_append, List.count_append]
  omega

end Grows

/-- A call removes a source, or it adds to the clause and to the scope alike. -/
theorem Action.removes_or_grows (action : Action) (state : Select × Log) :
    (∃ key, action = .removeSource key) ∨
      Grows state.1 (action.step state).1 ∧ ∀ key, action.strands key state.1 = false := by
  obtain ⟨select, log⟩ := state
  cases action with
  | removeSource key => exact .inl ⟨key, rfl⟩
  | addTable name aliasName =>
    exact .inr ⟨.buildSource (Source.table name aliasName) select log, fun _ => rfl⟩
  | addCall call aliasName =>
    exact .inr ⟨.buildSource (Source.ofOrigin (.call call) aliasName) select log, fun _ => rfl⟩
  | addQuery query aliasName =>
    exact .inr ⟨.buildSource (Source.ofOrigin (.query query) aliasName) select log, fun _ => rfl⟩
  | addSource source => exact .inr ⟨.addSource source select log, fun _ => rfl⟩
  | addJoin join built => exact .inr ⟨.addJoin built select log, fun _ => rfl⟩
  | addProjection expr aliasName =>
    exact .inr ⟨.addProjection expr aliasName select log, fun _ => rfl⟩
  | _ => exact .inr ⟨.refl select, fun _ => rfl⟩

/-- Taking the items that are just a source out of a clause takes its name away as often as the
source is an item. -/
theorem count_names_filter (isKey : source.key? = some key) (items : List FromItem)
    (name : String) :
    (((items.filter (· ≠ .source source)).flatMap FromItem.leaves).filterMap
        Source.key?).count name + (if key = name then items.count (.source source) else 0) =
      ((items.flatMap FromItem.leaves).filterMap Source.key?).count name := by
  induction items with
  | nil => simp
  | cons item rest inductionHypothesis =>
    rw [List.flatMap_cons, List.filterMap_append, List.count_append, ← inductionHypothesis]
    -- Only the items that go lose a name: a join keeps the source and shows it still.
    by_cases same : item = .source source
    · subst same
      have shown : (FromItem.source source).leaves.filterMap Source.key? = [key] := by
        simp [FromItem.leaves, isKey]
      rw [shown, List.filter_cons_of_neg (by simp), List.count_cons_self, List.count_singleton]
      by_cases named : key = name
      · rw [if_pos named, if_pos named, if_pos (by simpa using named)]
        omega
      · rw [if_neg named, if_neg named, if_neg (by simpa using named)]
        omega
    · rw [List.filter_cons_of_pos (by simpa using same), List.flatMap_cons,
        List.filterMap_append, List.count_append, List.count_cons_of_ne (by simpa using same)]
      omega

/-- What forgetting a known source does to the clause and to the scope. -/
theorem removeSource_of_get? {removed : String}
    (found : select.scope.get? removed = some source) :
    (select.removeSource removed).2.items = select.items.filter (· ≠ .source source) ∧
      (select.removeSource removed).2.scope.keys = select.scope.keys.erase removed := by
  have scope : (select.removeSource removed).2.scope = (select.scope.remove removed).2 := by
    simp only [removeSource, Scope.remove, found]
  rw [scope, Scope.keys_remove]
  exact ⟨by simp only [removeSource, Scope.remove, found], rfl⟩

/-- Forgetting a known source strands its key exactly if the source is no item of the clause. -/
theorem strands_of_get? {removed : String} (found : select.scope.get? removed = some source)
    (key : String) :
    (Action.removeSource removed).strands key select = true ↔
      removed = key ∧ .source source ∉ select.items := by
  obtain ⟨member, isKey⟩ := Scope.key_of_get? found
  have known : removed ∈ select.scope.keys := Scope.mem_keys.2 ⟨source, member, isKey⟩
  have unchanged_iff : (select.removeSource removed).2.items = select.items ↔
      .source source ∉ select.items := by
    rw [(removeSource_of_get? found).1, List.filter_eq_self]
    constructor
    · intro kept isItem
      simpa using kept _ isItem
    · intro absent item isItem
      exact decide_eq_true (ne_of_mem_of_not_mem isItem absent)
  rw [Action.strands, Bool.and_eq_true, Bool.and_eq_true, decide_eq_true_iff,
    decide_eq_true_iff]
  constructor
  · rintro ⟨⟨rfl, -⟩, unchanged⟩
    exact ⟨rfl, unchanged_iff.1 unchanged⟩
  · rintro ⟨rfl, absent⟩
    exact ⟨⟨rfl, Scope.contains_iff.2 known⟩, unchanged_iff.2 absent⟩

/-- Forgetting a key that is not known changes nothing and strands nothing. -/
theorem removeSource_of_get?_none {removed : String}
    (missing : select.scope.get? removed = none) :
    (select.removeSource removed).2 = select ∧
      ∀ key, (Action.removeSource removed).strands key select = false := by
  constructor
  · simp only [removeSource, Scope.remove, missing]
  · intro key
    have unknown : select.scope.contains removed = false := by
      simpa only [Scope.get?, List.find?_eq_none, Scope.contains, List.any_eq_false]
        using missing
    by_cases same : removed = key
    · simp [Action.strands, ← same, unknown]
    · simp [Action.strands, same]

/-- A removal takes a key away from the names and from the scope alike, unless it strands the
key. -/
theorem InStep.balance_removeSource (inStep : select.InStep) (removed key : String) :
    (select.removeSource removed).2.names.count key + select.scope.keys.count key =
      select.names.count key + (select.removeSource removed).2.scope.keys.count key +
        ((Action.removeSource removed).strands key select).toNat := by
  cases found : select.scope.get? removed with
  | none =>
    obtain ⟨unchanged, strandsNone⟩ := removeSource_of_get?_none found
    rw [unchanged, strandsNone]
    rfl
  | some source =>
    obtain ⟨member, isKey⟩ := Scope.key_of_get? found
    obtain ⟨items, keys⟩ := removeSource_of_get? found
    have stranded_iff := strands_of_get? found key
    have counted : (select.removeSource removed).2.names.count key +
        (if removed = key then select.items.count (.source source) else 0) =
          select.names.count key := by
      rw [names, leaves, items]
      exact count_names_filter isKey select.items key
    rw [keys, ← counted]
    by_cases same : removed = key
    · subst same
      have known : removed ∈ select.scope.keys := Scope.mem_keys.2 ⟨source, member, isKey⟩
      have once : select.scope.keys.count removed = 1 :=
        List.count_eq_one_of_mem inStep.distinct known
      rw [List.count_erase_self, once, if_pos rfl]
      -- The source stands in the clause by itself, or in a join only.
      by_cases isItem : .source source ∈ select.items
      · have keyed : source.isKeyed = true := by simp [Source.isKeyed, isKey]
        have kept : (Action.removeSource removed).strands removed select = false := by
          simpa [isItem] using stranded_iff
        rw [(inStep.plain source isItem keyed).2, kept]
        rfl
      · have strands : (Action.removeSource removed).strands removed select = true :=
          stranded_iff.2 ⟨rfl, isItem⟩
        rw [List.count_eq_zero_of_not_mem isItem, strands]
        rfl
    · have kept : (Action.removeSource removed).strands key select = false := by
        simpa [same] using stranded_iff
      rw [List.count_erase_of_ne (Ne.symm same), if_neg same, kept]
      rfl

/-- A call changes the count of a name and the count of the key alike, unless it strands the
key. -/
theorem Action.balance (action : Action) {state : Select × Log} (inStep : state.1.InStep)
    (key : String) :
    (action.step state).1.names.count key + state.1.scope.keys.count key =
      state.1.names.count key + (action.step state).1.scope.keys.count key +
        (action.strands key state.1).toNat := by
  rcases action.removes_or_grows state with ⟨removed, rfl⟩ | ⟨grows, strandsNone⟩
  · exact inStep.balance_removeSource removed key
  · rw [strandsNone key]
    exact grows.balance key

/-- Calls change the count of a name and the count of the key alike, but for those that strand
the key. -/
theorem run_balance (actions : List Action) (state : Select × Log) (inStep : state.1.InStep)
    (key : String) :
    (run actions state).1.names.count key + state.1.scope.keys.count key =
      state.1.names.count key + (run actions state).1.scope.keys.count key +
        stranded key actions state := by
  induction actions generalizing state with
  | nil => rfl
  | cons action rest inductionHypothesis =>
    -- Balances of single calls add up as long as keys are distinct, which `InStep` carries along.
    have first := action.balance inStep key
    have others := inductionHypothesis (action.step state) ((action.fromStep state).inStep inStep)
    change (run rest (action.step state)).1.names.count key + _ =
      _ + (run rest (action.step state)).1.scope.keys.count key +
        ((action.strands key state.1).toNat + stranded key rest (action.step state))
    omega

/-- The empty `SELECT` knows nothing and shows nothing. -/
theorem InStep.empty : Select.empty.InStep where
  distinct := List.nodup_nil
  ordered := List.Sublist.refl []
  plain _ isItem := absurd isItem (by simp [Select.empty])

/-- The names that any calls leave in the `FROM` clause, failed calls included.

A name is declared once if it is known, and once more for every call that stranded it. So if no
key is stranded, the clause declares no name twice. A call that would add a source whose key the
clause declares more often than it was stranded is refused, for the first key of its sources that
is known; if the key was never stranded, it is enough that the clause declares it. -/
theorem names_declared_once (actions : List Action) :
    (∀ key, (built actions).names.count key =
        (if key ∈ (built actions).scope.keys then 1 else 0) +
          stranded key actions (.empty, [])) ∧
      ((∀ key, stranded key actions (.empty, []) = 0) → (built actions).names.Nodup) ∧
      ∀ (action : Action) (sources : List Source) (source : Source) (key : String),
        (action.addition.run (run actions (.empty, [])).2).1 = .ok sources →
        source ∈ sources → source.key? = some key →
        stranded key actions (.empty, []) < (built actions).names.count key →
        ∃ refused,
          (sources.filterMap Source.key?).find? (built actions).scope.contains = some refused ∧
            action.outcome (run actions (.empty, [])) = .error (.duplicateSource refused) := by
  have inStep : (built actions).InStep :=
    run_invariant FromStep.inStep actions (.empty, []) .empty
  have count : ∀ key, (built actions).names.count key =
      (if key ∈ (built actions).scope.keys then 1 else 0) +
        stranded key actions (.empty, []) := by
    intro key
    have balanced := run_balance actions (.empty, []) .empty key
    change (built actions).names.count key + 0 = 0 + (built actions).scope.keys.count key + _
      at balanced
    rw [inStep.distinct.count] at balanced
    omega
  refine ⟨count, fun never => List.nodup_iff_count_le_one.2 fun key => ?_, ?_⟩
  · rw [count, never key]
    split <;> simp
  · intro action sources source key added member isKey more
    have known : key ∈ (built actions).scope.keys := by
      by_contra unknown
      rw [count, if_neg unknown] at more
      omega
    exact Action.outcome_of_known added member isKey known

/-- With a join of `a` and `b` in the clause and `c` added and removed again, no key is
stranded, and `b` is refused. -/
theorem names_declared_once_join :
    let a : Source := ⟨.table ⟨[.plain "a"], by simp, by decide⟩, none⟩
    let b : Source := ⟨.table ⟨[.plain "b"], by simp, by decide⟩, none⟩
    let c : Source := ⟨.table ⟨[.plain "c"], by simp, by decide⟩, none⟩
    let join : Join := ⟨.source a, b, .inner, none, false, ⟨[a, b]⟩⟩
    ∃ made : join.Built,
      let actions := [Action.addJoin join made, .addSource c, .removeSource "c"]
      (∀ key, stranded key actions (.empty, []) = 0) ∧
        (built actions).names = ["a", "b"] ∧ (built actions).names.Nodup ∧
        ∃ refused, (["b"].find? (built actions).scope.contains = some refused) ∧
          (Action.addSource b).outcome (run actions (.empty, [])) =
            .error (.duplicateSource refused) := by
  intro a b c join
  have made : join.Built :=
    .ofSource (show (Join.ofItem (.source a) b .inner).run [] = (.ok join, []) from rfl)
  let actions := [Action.addJoin join made, .addSource c, .removeSource "c"]
  have never : ∀ key, stranded key actions (.empty, []) = 0 := by
    intro key
    by_cases same : "c" = key
    · subst same
      rfl
    · simp [actions, stranded, Action.strands, same]
  have names : (built actions).names = ["a", "b"] := rfl
  have more : stranded "b" actions (.empty, []) < (built actions).names.count "b" := by
    rw [never, names]
    decide
  obtain ⟨-, distinct, refusal⟩ := names_declared_once actions
  exact ⟨made, never, names, distinct never,
    refusal (.addSource b) [b] b "b" rfl (by simp) rfl more⟩

/-- A name can be declared twice: where a join of `a` and `b` is added and `b` is removed, the
clause still declares `b`, yet a table `b` can be added. -/
theorem stranded_name_declared_twice :
    let a : Source := ⟨.table ⟨[.plain "a"], by simp, by decide⟩, none⟩
    let b : Source := ⟨.table ⟨[.plain "b"], by simp, by decide⟩, none⟩
    let join : Join := ⟨.source a, b, .inner, none, false, ⟨[a, b]⟩⟩
    ∃ made : join.Built,
      let actions := [Action.addJoin join made, .removeSource "b"]
      "b" ∈ (built actions).names ∧ b.key? = some "b" ∧
        (Action.addSource b).outcome (run actions (.empty, [])) = .ok () ∧
        (built (actions ++ [.addSource b])).names = ["a", "b", "b"] ∧
        ¬ (built (actions ++ [.addSource b])).names.Nodup := by
  intro a b join
  have made : join.Built :=
    .ofSource (show (Join.ofItem (.source a) b .inner).run [] = (.ok join, []) from rfl)
  let actions := [Action.addJoin join made, .removeSource "b"]
  have still : (built actions).names = ["a", "b"] := rfl
  have twice : (built (actions ++ [.addSource b])).names = ["a", "b", "b"] := rfl
  have declared : "b" ∈ (built actions).names := by
    rw [still]
    simp
  have repeated : ¬ (built (actions ++ [.addSource b])).names.Nodup := by
    rw [twice]
    simp
  exact ⟨made, declared, rfl, rfl, twice, repeated⟩

end SqlTree.Select
