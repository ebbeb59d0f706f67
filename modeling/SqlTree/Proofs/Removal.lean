import SqlTree.Proofs.Declarations
import SqlTree.Proofs.Readable
import SqlTree.Statement

/-!
# Removals from a query

What forgetting a source does to a `SELECT`. The items that go are those that equal the source,
wherever they stand, so that this takes back the addition of the source and nothing else depends
on how the scope and the `FROM` clause agree (`Select.InStep`): an item that is a source with a
key is known, and there is no second one.

Nothing outside the `FROM` clause changes, and of its tokens those of the item go, together with
one comma or with the word of the clause (`TakenOut`). A source that stands in joins only leaves
all tokens as they are (`Select.removal_undoes_addition`).
-/

namespace SqlTree

/-- A part is taken out of a clause that lists parts after a word: the parts in front of it and
behind it, and the clause before and after. The only part takes the word with it, and every other
one takes one comma: the first part the comma behind it, a later part the comma in front of it. -/
inductive TakenOut (word : Keyword) (part : List Token) :
    List (List Token) → List (List Token) → List Token → List Token → Prop where
  | only : TakenOut word part [] [] (.keyword word :: part) []
  | first (next : List Token) (more : List (List Token)) :
      TakenOut word part [] (next :: more)
        (.keyword word :: (part ++ .comma :: commaSeparated (next :: more)))
        (.keyword word :: commaSeparated (next :: more))
  | later (previous : List Token) (others rest : List (List Token)) :
      TakenOut word part (previous :: others) rest
        (.keyword word :: (commaSeparated (previous :: others) ++ .comma :: part ++
          rest.flatMap fun part => .comma :: part))
        (.keyword word :: (commaSeparated (previous :: others) ++
          rest.flatMap fun part => .comma :: part))

/-- Parts behind others come with a comma in front of each of them. -/
theorem commaSeparated_append {parts : List (List Token)} (notNil : parts ≠ [])
    (more : List (List Token)) :
    commaSeparated (parts ++ more) =
      commaSeparated parts ++ more.flatMap fun part => .comma :: part := by
  obtain ⟨part, others, rfl⟩ := List.exists_cons_of_ne_nil notNil
  have shape : ∀ others : List (List Token), commaSeparated (part :: others) =
      part ++ others.flatMap fun part => .comma :: part := by
    intro others
    simpa using @commaSeparated_map_cons _ id part others
  rw [List.cons_append, shape, shape, List.flatMap_append, List.append_assoc]

/-- A part of a clause is taken out by leaving it out of the list. -/
theorem takenOut_listClause (word : Keyword) (part : List Token) (first rest : List (List Token)) :
    TakenOut word part first rest (listClause [word] (first ++ part :: rest))
      (listClause [word] (first ++ rest)) := by
  cases first with
  | nil =>
    cases rest with
    | nil =>
      have alone : listClause [word] [part] = .keyword word :: part := by
        simp [listClause, commaSeparated]
      rw [List.nil_append, List.nil_append, alone]
      exact .only
    | cons next more =>
      have inFront : commaSeparated (part :: next :: more) =
          part ++ .comma :: commaSeparated (next :: more) := by
        simp [commaSeparated, List.intercalate_cons_cons]
      simp only [List.nil_append, listClause, List.cons_ne_nil, if_false, List.map_cons,
        List.map_nil, List.singleton_append, inFront]
      exact .first next more
  | cons previous others =>
    have notNil : ∀ more, previous :: others ++ more ≠ [] := by simp
    simp only [listClause, notNil, if_false, List.map_cons, List.map_nil, List.singleton_append]
    rw [commaSeparated_append (by simp), commaSeparated_append (by simp), List.flatMap_cons,
      ← List.append_assoc]
    exact .later previous others rest

namespace Select

variable {select : Select} {source : Source} {key : String}

/-- The `SELECT` with another `FROM` clause, and with the scope that goes with it. -/
def withFrom (select : Select) (scope : Scope) (items : List FromItem) : Select :=
  { select with scope := scope, items := items }

/-- A `SELECT` is what it is with its own `FROM` clause. -/
@[simp] theorem withFrom_self (select : Select) :
    select.withFrom select.scope select.items = select := by
  cases select
  rfl

@[simp] theorem withFrom_scope (select : Select) (scope : Scope) (items : List FromItem) :
    (select.withFrom scope items).scope = scope :=
  rfl

@[simp] theorem withFrom_items (select : Select) (scope : Scope) (items : List FromItem) :
    (select.withFrom scope items).items = items :=
  rfl

@[simp] theorem withFrom_withFrom (select : Select) (scope other : Scope)
    (items others : List FromItem) :
    (select.withFrom scope items).withFrom other others = select.withFrom other others :=
  rfl

/-- The tokens of a `SELECT` in front of the `FROM` clause and behind it have nothing to do with
the items of the clause and with what is known. -/
theorem tokens_around_from (dialect : Dialect) (select : Select) :
    ∃ head tail, ∀ scope items,
      (Statement.query (.select (select.withFrom scope items))).tokens dialect =
        head ++ (select.withFrom scope items).fromTokens ⟨dialect, true⟩ ++ tail := by
  obtain ⟨quantifier, top, projections, _, _, conditions, groupKeys, groupConditions, sortKeys,
    wrapped⟩ := select
  let inside : Context := ⟨dialect, true⟩
  let head := .keyword .select :: setQuantifierTokens quantifier ++ Top.tokensOption inside top ++
    commaSeparated (Projection.tokensEach inside projections)
  let tail := introducedBy [.where] (joinedBy .and (Condition.tokensEach inside conditions)) ++
    listClause [.group, .by] (Expr.tokensEach inside groupKeys) ++
    introducedBy [.having] (joinedBy .and (Condition.tokensEach inside groupConditions)) ++
    listClause [.order, .by] (SortKey.tokensEach inside sortKeys)
  cases wrapped with
  | false =>
    refine ⟨head, tail, fun scope items => ?_⟩
    simp [Statement.tokens, Query.tokens, Query.wrapped, parenthesizedIf, Select.tokens,
      withFrom, fromTokens, Context.qualified, head, tail, inside]
  | true =>
    refine ⟨.opening :: head, tail ++ [.closing], fun scope items => ?_⟩
    simp [Statement.tokens, Query.tokens, Query.wrapped, parenthesizedIf, parenthesized,
      Select.tokens, withFrom, fromTokens, Context.qualified, head, tail, inside]

/-- Forgetting a known source gives it, and changes the scope and the items only. -/
theorem removeSource_eq (found : select.scope.get? key = some source) :
    select.removeSource key =
      (some source,
        select.withFrom (select.scope.remove key).2
          (select.items.filter (· ≠ .source source))) := by
  simp only [removeSource, Scope.remove, found, withFrom]

/-- What an addition that is accepted leaves if the source has a key: the key was free, and the
source is the last one that is known and the last item. -/
theorem step_addSource {state : Select × Log} (isKey : source.key? = some key)
    (accepted : (Action.addSource source).outcome state = .ok ()) :
    key ∉ state.1.scope.keys ∧
      ((Action.addSource source).step state).1 =
        state.1.withFrom ⟨state.1.scope.sources ++ [source]⟩
          (state.1.items ++ [.source source]) := by
  obtain ⟨select, log⟩ := state
  have ran := run_addSource_eq source select log
  cases taken : select.scope.firstTaken? [source] with
  | some other =>
    rw [taken] at ran
    have refused : (Action.addSource source).outcome (select, log) =
        .error (.duplicateSource other) := congrArg (·.1.1) ran
    rw [refused] at accepted
    cases accepted
  | none =>
    have keyed : [source].filter Source.isKeyed = [source] := by simp [Source.isKeyed, isKey]
    rw [taken, keyed] at ran
    exact ⟨Scope.firstTaken?_eq_none_iff.1 taken key (by simp [isKey]), congrArg (·.1.2) ran⟩

/-- Taking out an item that is not there changes nothing. -/
theorem filter_ne_of_notMem {items : List FromItem} {item : FromItem} (absent : item ∉ items) :
    items.filter (· ≠ item) = items :=
  List.filter_eq_self.2 fun _ member => decide_eq_true (ne_of_mem_of_not_mem member absent)

/-- Forgetting a source that has just been added takes the addition back. -/
theorem InStep.removeSource_addSource {state : Select × Log} (inStep : state.1.InStep)
    (isKey : source.key? = some key)
    (accepted : (Action.addSource source).outcome state = .ok ()) :
    ((Action.addSource source).step state).1.removeSource key = (some source, state.1) := by
  obtain ⟨free, added⟩ := step_addSource isKey accepted
  have absent : .source source ∉ state.1.items := inStep.not_mem_items isKey free
  -- The new item is the only one that goes: a free key is not that of an item.
  have items : (state.1.items ++ [FromItem.source source]).filter (· ≠ .source source) =
      state.1.items := by
    rw [List.filter_append, filter_ne_of_notMem absent]
    simp
  have removed := Scope.remove_append isKey free
  have found : (state.1.withFrom ⟨state.1.scope.sources ++ [source]⟩
      (state.1.items ++ [.source source])).scope.get? key = some source :=
    congrArg Prod.fst removed
  rw [added, removeSource_eq found]
  simp only [withFrom_scope, withFrom_items, withFrom_withFrom, removed, items, withFrom_self]

/-- What stays of a `SELECT` when the source is forgotten that is known by a key. -/
structure Forgets (select next : Select) (key : String) (source : Source) : Prop where
  /-- Only the scope and the items of the `FROM` clause change. -/
  others : next = select.withFrom next.scope next.items
  /-- The sources with other keys stay known, in their order. -/
  sources : next.scope.sources = select.scope.sources.filter fun known => known.key? ≠ some key
  /-- If the key is only that of leaves of joins, the clause and all tokens stay. -/
  hidden : (∀ item, .source item ∈ select.items → item.key? ≠ some key) →
    next.items = select.items ∧ ∀ dialect,
      (Statement.query (.select next)).tokens dialect =
        (Statement.query (.select select)).tokens dialect
  /-- An item with the key is the source. It goes, and with it its tokens in the clause. -/
  plain : ∀ item, .source item ∈ select.items → item.key? = some key →
    item = source ∧ ∃ first rest, select.items = first ++ .source source :: rest ∧
      next.items = first ++ rest ∧ ∀ dialect, ∃ head tail,
        (Statement.query (.select select)).tokens dialect =
          head ++ select.fromTokens ⟨dialect, true⟩ ++ tail ∧
        (Statement.query (.select next)).tokens dialect =
          head ++ next.fromTokens ⟨dialect, true⟩ ++ tail ∧
        TakenOut .from (source.tokens ⟨dialect, true⟩) (first.map (FromItem.tokens ⟨dialect, true⟩))
          (rest.map (FromItem.tokens ⟨dialect, true⟩)) (select.fromTokens ⟨dialect, true⟩)
          (next.fromTokens ⟨dialect, true⟩)

/-- A part that occurs once in a list splits the list in two, and taking it out joins the two. -/
theorem split_of_count_eq_one {items : List FromItem} {item : FromItem}
    (once : items.count item = 1) :
    ∃ first rest, items = first ++ item :: rest ∧ items.filter (· ≠ item) = first ++ rest := by
  have member : item ∈ items := List.count_pos_iff.1 (once ▸ Nat.one_pos)
  obtain ⟨first, rest, rfl⟩ := List.append_of_mem member
  have nowhere : first.count item = 0 ∧ rest.count item = 0 := by
    rw [List.count_append, List.count_cons_self] at once
    omega
  refine ⟨first, rest, rfl, ?_⟩
  rw [List.filter_append, List.filter_cons_of_neg (by simp),
    filter_ne_of_notMem (List.count_eq_zero.1 nowhere.1),
    filter_ne_of_notMem (List.count_eq_zero.1 nowhere.2)]

/-- What forgetting a known source leaves, if the scope and the `FROM` clause agree. -/
theorem InStep.forgets (inStep : select.InStep) (found : select.scope.get? key = some source) :
    select.Forgets
      (select.withFrom (select.scope.remove key).2 (select.items.filter (· ≠ .source source)))
      key source where
  others := rfl
  sources := by
    rw [withFrom_scope, Scope.sources_remove inStep.distinct]
    simp [Scope.isKeyOf]
  hidden := by
    intro others
    have isKey := (Scope.key_of_get? found).2
    have absent : .source source ∉ select.items := fun isItem => others source isItem isKey
    have kept := filter_ne_of_notMem absent
    refine ⟨kept, fun dialect => ?_⟩
    obtain ⟨head, tail, around⟩ := tokens_around_from dialect select
    have before := around select.scope select.items
    rw [withFrom_self] at before
    rw [around, before, kept]
    rfl
  plain := by
    intro item isItem isKey
    have keyed : item.isKeyed = true := by simp [Source.isKeyed, isKey]
    obtain ⟨isKnown, once⟩ := inStep.plain item isItem keyed
    -- The key finds one source only, so the item with the key is the source that is forgotten.
    have foundItem := Scope.get?_of_mem inStep.distinct isKnown isKey
    have same : item = source := Option.some.inj (foundItem.symm.trans found)
    subst same
    obtain ⟨first, rest, before, after⟩ := split_of_count_eq_one once
    refine ⟨rfl, first, rest, before, after, fun dialect => ?_⟩
    obtain ⟨head, tail, around⟩ := tokens_around_from dialect select
    have shown := around select.scope select.items
    rw [withFrom_self] at shown
    refine ⟨head, tail, shown, around _ _, ?_⟩
    have clauseBefore : select.fromTokens ⟨dialect, true⟩ =
        listClause [.from] (first.map (FromItem.tokens ⟨dialect, true⟩) ++
          item.tokens ⟨dialect, true⟩ :: rest.map (FromItem.tokens ⟨dialect, true⟩)) := by
      rw [fromTokens, before, FromItem.tokensEach_eq_map, List.map_append, List.map_cons,
        FromItem.tokens]
      rfl
    have clauseAfter : (select.withFrom (select.scope.remove key).2
          (select.items.filter (· ≠ .source item))).fromTokens ⟨dialect, true⟩ =
        listClause [.from] (first.map (FromItem.tokens ⟨dialect, true⟩) ++
          rest.map (FromItem.tokens ⟨dialect, true⟩)) := by
      rw [fromTokens, withFrom_items, after, FromItem.tokensEach_eq_map, List.map_append]
      rfl
    rw [clauseBefore, clauseAfter]
    exact takenOut_listClause .from _ _ _

/-- A removal takes back an addition and touches the `FROM` clause only, in the `SELECT` that any
calls build, failed calls included.

If a source with a key is added, forgetting the key gives the source and the `SELECT` as it was.
Every key that is known gives its source when it is forgotten, and then the rest of the `SELECT`
stays, known sources with other keys among it; the text loses the item that is the source, with
one comma or with the word of the clause, and nothing if the source stands in joins only. -/
theorem removal_undoes_addition (actions : List Action) :
    (∀ (source : Source) (key : String), source.key? = some key →
        (Action.addSource source).outcome (run actions (.empty, [])) = .ok () →
        ((Action.addSource source).step (run actions (.empty, []))).1.removeSource key =
          (some source, built actions)) ∧
      ∀ key ∈ (built actions).scope.keys, ∃ source next,
        source.key? = some key ∧ (built actions).removeSource key = (some source, next) ∧
          (built actions).Forgets next key source := by
  have inStep : (built actions).InStep :=
    run_invariant FromStep.inStep actions (.empty, []) .empty
  constructor
  · intro source key isKey accepted
    exact inStep.removeSource_addSource isKey accepted
  · intro key isKnown
    obtain ⟨source, member, isKey⟩ := Scope.mem_keys.1 isKnown
    have found := Scope.get?_of_mem inStep.distinct member isKey
    exact ⟨source, _, isKey, removeSource_eq found, inStep.forgets found⟩

/-- From `a, b JOIN c, d` the key `c` goes without a trace in the text, and the key `d` with the
item behind the last comma; and a table `e` that is added goes again. -/
theorem removal_undoes_addition_tables :
    let a : Source := ⟨.table ⟨[.plain "a"], by simp, by decide⟩, none⟩
    let b : Source := ⟨.table ⟨[.plain "b"], by simp, by decide⟩, none⟩
    let c : Source := ⟨.table ⟨[.plain "c"], by simp, by decide⟩, none⟩
    let d : Source := ⟨.table ⟨[.plain "d"], by simp, by decide⟩, none⟩
    let e : Source := ⟨.table ⟨[.plain "e"], by simp, by decide⟩, none⟩
    let join : Join := ⟨.source b, c, .inner, none, false, ⟨[b, c]⟩⟩
    ∃ made : join.Built,
      let actions := [Action.addSource a, .addJoin join made, .addSource d]
      ((Action.addSource e).step (run actions (.empty, []))).1.removeSource "e" =
          (some e, built actions) ∧
        (∃ next, (built actions).removeSource "c" = (some c, next) ∧
          next.items = (built actions).items) ∧
        ∃ next, (built actions).removeSource "d" = (some d, next) ∧
          next.items = [.source a, .join join] := by
  intro a b c d e join
  have made : join.Built :=
    .ofSource (show (Join.ofItem (.source b) c .inner).run [] = (.ok join, []) from rfl)
  let actions := [Action.addSource a, .addJoin join made, .addSource d]
  have items : (built actions).items = [.source a, .join join, .source d] := rfl
  have keys : (built actions).scope.keys = ["a", "b", "c", "d"] := rfl
  obtain ⟨undone, forgets⟩ := removal_undoes_addition actions
  refine ⟨made, undone e "e" rfl rfl, ?_, ?_⟩
  · obtain ⟨source, next, isKey, removed, forgetsC⟩ := forgets "c" (by rw [keys]; simp)
    have same : source = c := Option.some.inj (congrArg Prod.fst removed).symm
    subst same
    refine ⟨next, removed, (forgetsC.hidden ?_).1⟩
    intro item isItem
    have cases : item = a ∨ item = d := by simpa [items] using isItem
    rcases cases with rfl | rfl <;> decide
  · obtain ⟨source, next, isKey, removed, forgetsD⟩ := forgets "d" (by rw [keys]; simp)
    have same : source = d := Option.some.inj (congrArg Prod.fst removed).symm
    subst same
    obtain ⟨-, first, rest, before, after, -⟩ := forgetsD.plain d (by rw [items]; simp) rfl
    have different : a ≠ d := by decide
    rw [items] at before
    refine ⟨next, removed, ?_⟩
    rcases first with _ | ⟨one, _ | ⟨two, _ | ⟨three, more⟩⟩⟩ <;> simp_all

end Select

end SqlTree
