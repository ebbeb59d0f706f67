import SqlTree.Proofs.SelectRun
import SqlTree.Tree.Tokens

/-!
# The `FROM` clause and the scope

A `SELECT` keeps the items of its `FROM` clause and the scope of sources that it
knows apart, and its calls change them in different ways: a join brings several
sources at once, and a source that is forgotten stays in the joins that hold it.
`Select.InStep` says how far the two agree after any calls. What the scope knows
is, in order, some of the leaves that the clause shows, so each of its keys is a
name that the text declares (`Select.InStep.declares`). The converse fails for the
leaves of joins only: an item that is a source with a key is known, and stands
in the clause once.
-/

namespace SqlTree

/-- The sources that the `FROM` clause of a `SELECT` is made of, from left to
right, those of joins included. -/
def Select.leaves (select : Select) : List Source :=
  select.items.flatMap FromItem.leaves

/-- The tokens of the `FROM` clause of a `SELECT`. -/
def Select.fromTokens (context : Context) (select : Select) : List Token :=
  listClause [.from] (FromItem.tokensEach (context.qualified true) select.items)

/-- Whether the text of a `SELECT` declares a name in its `FROM` clause: the clause
shows a source that goes by the name, and the tokens of the source end with it. -/
def Select.Declares (select : Select) (key : String) : Prop :=
  ∀ context : Context, select.fromTokens context <:+: select.tokens context ∧
    ∃ leaf ∈ select.leaves, leaf.key? = some key ∧
      leaf.tokens (context.qualified true) <:+: select.fromTokens context ∧
      (leaf.tokens (context.qualified true)).getLast? = some (.identifier key)

/-- How the scope of a `SELECT` and its `FROM` clause agree. -/
structure Select.InStep (select : Select) : Prop where
  distinct : select.scope.keys.Nodup
  ordered : select.scope.sources.Sublist (select.leaves.filter Source.isKeyed)
  /-- An item that is a source with a key is known, and there is no second one. -/
  plain : ∀ source, .source source ∈ select.items → source.isKeyed = true →
    source ∈ select.scope.sources ∧ select.items.count (.source source) = 1

/-- Parts stand in one piece among parts with commas between them. -/
theorem infix_commaSeparated {part : List Token} {parts : List (List Token)}
    (member : part ∈ parts) : part <:+: commaSeparated parts := by
  induction parts with
  | nil => exact absurd member (by simp)
  | cons first rest inductionHypothesis =>
    cases rest with
    | nil =>
      have same : part = first := by simpa using member
      simp [commaSeparated, same]
    | cons next rest =>
      rw [commaSeparated, List.intercalate_cons_cons]
      rcases List.mem_cons.1 member with rfl | later
      · exact List.infix_append_of_infix_left List.infix_append_left
      · exact List.infix_append_of_infix_right (inductionHypothesis later)

/-- Parts stand in one piece in the clause that lists them. -/
theorem infix_listClause {words : List Keyword} {part : List Token}
    {parts : List (List Token)} (member : part ∈ parts) :
    part <:+: listClause words parts := by
  rw [listClause, if_neg (List.ne_nil_of_mem member)]
  exact List.infix_append_of_infix_right (infix_commaSeparated member)

/-- Tokens stand in one piece between parentheses. -/
theorem infix_parenthesizedIf (wrapped : Bool) (tokens : List Token) :
    tokens <:+: parenthesizedIf wrapped tokens := by
  cases wrapped with
  | false => exact List.infix_refl tokens
  | true => exact ⟨[.opening], [.closing], rfl⟩

/-- Every leaf of an item is written in one piece where the item is written. -/
theorem FromItem.infix_of_mem_leaves (context : Context) {leaf : Source} :
    (item : FromItem) → leaf ∈ item.leaves → leaf.tokens context <:+: item.tokens context
  | .source single, member => by
    have same : leaf = single := by simpa [FromItem.leaves] using member
    simp only [same, FromItem.tokens, List.infix_refl]
  | .join ⟨left, right, kind, on, wrapped, scope⟩, member => by
    rw [FromItem.tokens, Join.tokens]
    refine List.IsInfix.trans ?_ (infix_parenthesizedIf wrapped _)
    rw [FromItem.leaves, List.mem_append, List.mem_singleton] at member
    rcases member with inLeft | rfl
    · have inside := infix_of_mem_leaves context left inLeft
      exact List.infix_append_of_infix_left
        (List.infix_append_of_infix_left (List.infix_append_of_infix_left inside))
    · exact List.infix_append_of_infix_left List.infix_append_right

/-- The tokens of a source end with the name that it goes by. -/
theorem Source.getLast?_tokens (context : Context) {source : Source} {key : String}
    (isKey : source.key? = some key) :
    (source.tokens context).getLast? = some (.identifier key) := by
  obtain ⟨origin, aliasName⟩ := source
  cases aliasName with
  | some aliasName =>
    have same : aliasName.sql = key := by simpa [Source.key?, Source.naming?] using isKey
    simp [Source.tokens, aliasTokens, List.getLast?_append, same]
  | none =>
    cases origin with
    | table name =>
      have same : name.sql = key := by simpa [Source.key?, Source.naming?] using isKey
      simp [Source.tokens, Origin.tokens, aliasTokens, same]
    | call _ => simp [Source.key?, Source.naming?] at isKey
    | query _ => simp [Source.key?, Source.naming?] at isKey

namespace Select

variable {select next : Select} {source : Source}

/-- The `FROM` clause is a part of the text of a `SELECT`. -/
theorem infix_fromTokens (context : Context) (select : Select) :
    select.fromTokens context <:+: select.tokens context := by
  obtain ⟨quantifier, top, projections, items, _, conditions, groupKeys, groupConditions,
    sortKeys, _⟩ := select
  rw [Select.tokens, fromTokens]
  -- Four clauses follow the `FROM` clause.
  refine List.infix_append_of_infix_left (List.infix_append_of_infix_left
    (List.infix_append_of_infix_left (List.infix_append_of_infix_left ?_)))
  exact List.infix_append_right

namespace InStep

/-- All known sources have keys. -/
theorem isKeyed (inStep : select.InStep) (member : source ∈ select.scope.sources) :
    source.isKeyed = true :=
  (List.mem_filter.1 (inStep.ordered.subset member)).2

/-- Every known source is known by its own key. -/
theorem known (inStep : select.InStep) (member : source ∈ select.scope.sources) :
    ∃ key, source.key? = some key ∧ select.scope.get? key = some source := by
  obtain ⟨key, isKey⟩ := Option.isSome_iff_exists.1 (inStep.isKeyed member)
  exact ⟨key, isKey, Scope.get?_of_mem inStep.distinct member isKey⟩

/-- Every key of the scope is declared in the text. -/
theorem declares (inStep : select.InStep) {key : String} (isKnown : key ∈ select.scope.keys) :
    select.Declares key := by
  intro context
  refine ⟨infix_fromTokens context select, ?_⟩
  obtain ⟨leaf, member, isKey⟩ := Scope.mem_keys.1 isKnown
  have isLeaf := (List.mem_filter.1 (inStep.ordered.subset member)).1
  refine ⟨leaf, isLeaf, isKey, ?_, leaf.getLast?_tokens _ isKey⟩
  obtain ⟨item, isItem, isLeafOfItem⟩ := List.mem_flatMap.1 isLeaf
  refine (item.infix_of_mem_leaves _ isLeafOfItem).trans (infix_listClause ?_)
  rw [FromItem.tokensEach_eq_map]
  exact List.mem_map_of_mem isItem

/-- A source whose key is free is no item of the clause. -/
theorem not_mem_items (inStep : select.InStep) {key : String} (isKey : source.key? = some key)
    (free : key ∉ select.scope.keys) : .source source ∉ select.items := by
  intro isItem
  have keyed : source.isKeyed = true := by simp [Source.isKeyed, isKey]
  exact free (Scope.mem_keys.2 ⟨source, (inStep.plain source isItem keyed).1, isKey⟩)

end InStep

/-- A call that leaves the two alone keeps them in step. -/
theorem InStep.congr (inStep : select.InStep) (scope : next.scope = select.scope)
    (items : next.items = select.items) : next.InStep where
  distinct := scope ▸ inStep.distinct
  ordered := by
    rw [Select.leaves, scope, items]
    exact inStep.ordered
  plain := by
    rw [scope, items]
    exact inStep.plain

/-- A source that is added with a free key, or without a key, keeps the two in
step. -/
theorem InStep.addSource (inStep : select.InStep)
    (free : ∀ key ∈ source.key?, key ∉ select.scope.keys)
    (scope : next.scope.sources = select.scope.sources ++ [source].filter Source.isKeyed)
    (items : next.items = select.items ++ [.source source]) : next.InStep where
  distinct := by
    refine Scope.nodup_of_append inStep.distinct ?_ (by simpa using free) scope
    cases found : source.key? <;> simp [Scope.keys, found]
  ordered := by
    have leaves : next.leaves = select.leaves ++ [source] := by
      simp [Select.leaves, items, FromItem.leaves]
    rw [scope, leaves, List.filter_append]
    exact inStep.ordered.append (List.Sublist.refl _)
  plain := by
    intro item isItem keyed
    rw [items, List.mem_append, List.mem_singleton] at isItem
    rw [scope, items, List.count_append]
    by_cases same : item = source
    · subst same
      obtain ⟨key, isKey⟩ := Option.isSome_iff_exists.1 keyed
      have absent := inStep.not_mem_items isKey (free key isKey)
      constructor
      · simp [keyed]
      · simp [List.count_eq_zero_of_not_mem absent]
    · have before : .source item ∈ select.items := isItem.resolve_right (by simpa using same)
      obtain ⟨isKnown, once⟩ := inStep.plain item before keyed
      have different : FromItem.source source ≠ .source item := by
        simpa using Ne.symm same
      constructor
      · exact List.mem_append_left _ isKnown
      · simp [once, different]

/-- A join that is added with free keys keeps the two in step. -/
theorem InStep.addJoin {join : Join} (inStep : select.InStep) (built : join.Built)
    (free : ∀ source ∈ join.scope.sources, ∀ key ∈ source.key?, key ∉ select.scope.keys)
    (scope : next.scope.sources =
      select.scope.sources ++ join.scope.sources.filter Source.isKeyed)
    (items : next.items = select.items ++ [.join join]) : next.InStep where
  distinct := Scope.nodup_of_append inStep.distinct built.scope_eq.2 free scope
  ordered := by
    have leaves : next.leaves = select.leaves ++ (FromItem.join join).leaves := by
      simp [Select.leaves, items]
    have known : join.scope.sources.filter Source.isKeyed =
        (FromItem.join join).leaves.filter Source.isKeyed := by
      rw [built.scope_eq.1, List.filter_filter]
      simp
    rw [scope, leaves, List.filter_append, known]
    exact inStep.ordered.append (List.Sublist.refl _)
  plain := by
    intro item isItem keyed
    have before : .source item ∈ select.items := by simpa [items] using isItem
    obtain ⟨isKnown, once⟩ := inStep.plain item before keyed
    rw [scope, items]
    constructor
    · exact List.mem_append_left _ isKnown
    · simp [List.count_append, once]

/-- Taking the items that are just a source out of a clause takes no other source
out of its leaves. -/
theorem sublist_leaves_filter (source : Source) (items : List FromItem) :
    ((items.flatMap FromItem.leaves).filter (· ≠ source)).Sublist
      ((items.filter (· ≠ .source source)).flatMap FromItem.leaves) := by
  induction items with
  | nil => exact List.Sublist.refl _
  | cons item rest inductionHypothesis =>
    rw [List.flatMap_cons, List.filter_append]
    by_cases same : item = .source source
    · simpa [same, FromItem.leaves] using inductionHypothesis
    · rw [List.filter_cons_of_pos (by simpa using same), List.flatMap_cons]
      exact List.filter_sublist.append inductionHypothesis

/-- A source that is forgotten, and whose item goes, leaves the two in step. -/
theorem InStep.removeSource {key : String} (inStep : select.InStep)
    (found : select.scope.get? key = some source)
    (scope : next.scope = (select.scope.remove key).2)
    (items : next.items = select.items.filter (· ≠ .source source)) : next.InStep where
  distinct := by
    rw [scope, Scope.keys_remove]
    exact inStep.distinct.erase key
  ordered := by
    have forgotten : source ∉ next.scope.sources :=
      scope ▸ Scope.not_mem_remove inStep.distinct found
    have others : next.scope.sources.filter (· ≠ source) = next.scope.sources :=
      List.filter_eq_self.2 fun other isKnown =>
        decide_eq_true (ne_of_mem_of_not_mem isKnown forgotten)
    have fewer : next.scope.sources.Sublist select.scope.sources := by
      rw [scope]
      exact List.eraseP_sublist
    have kept : ((select.leaves.filter Source.isKeyed).filter (· ≠ source)).Sublist
        (next.leaves.filter Source.isKeyed) := by
      have swapped : (select.leaves.filter Source.isKeyed).filter (· ≠ source) =
          (select.leaves.filter (· ≠ source)).filter Source.isKeyed := by
        simp only [List.filter_filter, Bool.and_comm]
      rw [swapped, Select.leaves, Select.leaves, items]
      exact (sublist_leaves_filter source select.items).filter _
    rw [← others]
    exact ((fewer.trans inStep.ordered).filter _).trans kept
  plain := by
    intro item isItem keyed
    rw [items, List.mem_filter] at isItem
    obtain ⟨before, different⟩ := isItem
    obtain ⟨isKnown, once⟩ := inStep.plain item before keyed
    rw [scope, items]
    constructor
    · exact Scope.mem_remove inStep.distinct found isKnown (by simpa using different)
    · have counted : (select.items.filter (· ≠ .source source)).count (.source item) =
          select.items.count (.source item) := List.count_filter different
      exact counted.trans once

/-- The `FROM` clause and the scope stay in step, whatever a call does to them. -/
theorem FromStep.inStep (step : FromStep select next) (inStep : select.InStep) :
    next.InStep := by
  cases step with
  | same scope items => exact inStep.congr scope items
  | source source free scope items => exact inStep.addSource free scope items
  | join join built free scope items => exact inStep.addJoin built free scope items
  | removal key source found scope items => exact inStep.removeSource found scope items

/-- In the `SELECT` that any calls build, failed calls included, the scope and the
`FROM` clause agree: keys are distinct and every source is known by its own; the
known sources are some of the keyed leaves of the clause, in order, and all keys
are declared in the text; an item that is a source with a key is known, and there
is no second one. -/
theorem built_scope_tracks_from (actions : List Action) :
    ((built actions).scope.keys.Nodup ∧
        ∀ source ∈ (built actions).scope.sources, ∃ key, source.key? = some key ∧
          (built actions).scope.get? key = some source) ∧
      ((built actions).scope.sources.Sublist
          ((built actions).leaves.filter Source.isKeyed) ∧
        ∀ key ∈ (built actions).scope.keys, (built actions).Declares key) ∧
      ∀ source, .source source ∈ (built actions).items → source.isKeyed = true →
        source ∈ (built actions).scope.sources ∧
          (built actions).items.count (.source source) = 1 := by
  have initially : Select.empty.InStep :=
    { distinct := List.nodup_nil
      ordered := List.Sublist.refl []
      plain := fun source isItem => absurd isItem (by simp [Select.empty]) }
  have inStep : (built actions).InStep :=
    run_invariant FromStep.inStep actions (.empty, []) initially
  refine ⟨⟨inStep.distinct, fun source member => inStep.known member⟩, ⟨inStep.ordered, ?_⟩,
    inStep.plain⟩
  intro key isKnown
  exact inStep.declares isKnown

end Select

end SqlTree
