import SqlTree.Join

/-!
# The keys of scopes and joins

What insertions and removals do to the sources and the keys of a scope, and that
every scope of a join knows the sources of the join: exactly those with a key,
from left to right, no two of them by one key (`Join.Built.scope_eq`).

A join is `Built` if it comes from the operations on joins. The scope of a join
is data of its own, so nothing can be said about it for other joins.
-/

namespace SqlTree

/-- Whether a source has a key. -/
def Source.isKeyed (source : Source) : Bool :=
  source.key?.isSome

namespace Scope

variable {scope result : Scope} {source : Source} {sources : List Source} {key : String}
  {log after : Log}

/-- A key is known if a source goes by it. -/
theorem mem_keys : key ∈ scope.keys ↔ ∃ source ∈ scope.sources, source.key? = some key := by
  simp [keys]

/-- The scope contains a key if the key is among its keys. -/
theorem contains_iff : scope.contains key = true ↔ key ∈ scope.keys := by
  simp [contains, isKeyOf, mem_keys]

/-- The keys of sources are those of the sources that have one. -/
theorem keys_filter (sources : List Source) :
    keys ⟨sources.filter Source.isKeyed⟩ = keys ⟨sources⟩ := by
  induction sources with
  | nil => rfl
  | cons source rest inductionHypothesis =>
    simp only [keys] at inductionHypothesis ⊢
    cases found : source.key? <;>
      simp [Source.isKeyed, found, inductionHypothesis]

/-- A source that is inserted is added at the end if it has a key, and its key
was free. -/
theorem eq_of_run_insert (inserted : (scope.insert source).run log = (.ok result, after)) :
    result.sources = scope.sources ++ [source].filter Source.isKeyed ∧
      ∀ key ∈ source.key?, key ∉ scope.keys := by
  rw [run_insert] at inserted
  cases found : source.key? with
  | none =>
    rw [found] at inserted
    cases inserted
    simp [Source.isKeyed, found]
  | some key =>
    simp only [found] at inserted
    split at inserted
    · cases inserted
    · rename_i free
      cases inserted
      have unknown : key ∉ scope.keys := fun known => free (contains_iff.2 known)
      simp [Source.isKeyed, found, unknown]

/-- Sources whose keys are distinct and free can be added at the end. -/
theorem nodup_of_append (nodup : scope.keys.Nodup) (addedNodup : (keys ⟨sources⟩).Nodup)
    (free : ∀ source ∈ sources, ∀ key ∈ source.key?, key ∉ scope.keys)
    (appended : result.sources = scope.sources ++ sources.filter Source.isKeyed) :
    result.keys.Nodup := by
  have keysAfter : result.keys = scope.keys ++ keys ⟨sources⟩ := by
    rw [← keys_filter sources]
    simp [keys, appended]
  rw [keysAfter, List.nodup_append]
  refine ⟨nodup, addedNodup, ?_⟩
  intro known isKnown added isAdded same
  subst same
  obtain ⟨source, member, isKey⟩ := mem_keys.1 isAdded
  exact free source member known isKey isKnown

/-- An insertion keeps keys distinct. -/
theorem nodup_of_run_insert (nodup : scope.keys.Nodup)
    (inserted : (scope.insert source).run log = (.ok result, after)) : result.keys.Nodup := by
  obtain ⟨sources, free⟩ := eq_of_run_insert inserted
  refine nodup_of_append nodup ?_ (by simpa using free) sources
  cases found : source.key? <;> simp [keys, found]

/-- Sources that are inserted one after the other are added at the end if they
have keys, and their keys were free. -/
theorem eq_of_run_insertEach
    (inserted : (scope.insertEach sources).run log = (.ok result, after)) :
    result.sources = scope.sources ++ sources.filter Source.isKeyed ∧
      ∀ source ∈ sources, ∀ key ∈ source.key?, key ∉ scope.keys := by
  induction sources generalizing scope log with
  | nil =>
    have same : scope = result := by
      have pair : (Except.ok scope, log) = (Except.ok result, after) := inserted
      simpa using congrArg Prod.fst pair
    simp [same]
  | cons source rest inductionHypothesis =>
    rw [insertEach, List.foldlM_cons] at inserted
    obtain ⟨known, middle, first, following⟩ := Build.of_run_bind inserted
    obtain ⟨added, free⟩ := eq_of_run_insert first
    obtain ⟨others, othersFree⟩ := inductionHypothesis following
    constructor
    · rw [others, added, List.append_assoc, ← List.filter_append, List.singleton_append]
    · intro later member key isKey isKnown
      rcases List.mem_cons.1 member with rfl | member
      · exact free key isKey isKnown
      · obtain ⟨holder, isHolder, holds⟩ := mem_keys.1 isKnown
        refine othersFree later member key isKey (mem_keys.2 ⟨holder, ?_, holds⟩)
        rw [added]
        exact List.mem_append_left _ isHolder

/-- Removing a source takes its key out of the keys. -/
theorem keys_remove (scope : Scope) (key : String) :
    (scope.remove key).2.keys = scope.keys.erase key := by
  obtain ⟨sources⟩ := scope
  simp only [remove, keys]
  induction sources with
  | nil => rfl
  | cons source rest inductionHypothesis =>
    cases found : source.key? with
    | none => simp [isKeyOf, found, inductionHypothesis]
    | some other =>
      by_cases same : other = key
      · simp [isKeyOf, found, same]
      · simp [isKeyOf, found, same, inductionHypothesis]

/-- A source that is found by a key goes by it. -/
theorem key_of_get? (found : scope.get? key = some source) :
    source ∈ scope.sources ∧ source.key? = some key := by
  refine ⟨List.mem_of_find?_eq_some found, ?_⟩
  simpa [isKeyOf] using List.find?_some found

/-- If keys are distinct, a known source is found by its key. -/
theorem get?_of_mem (nodup : scope.keys.Nodup) (member : source ∈ scope.sources)
    (isKey : source.key? = some key) : scope.get? key = some source := by
  obtain ⟨sources⟩ := scope
  simp only [get?, keys] at nodup member ⊢
  induction sources with
  | nil => exact absurd member (by simp)
  | cons first rest inductionHypothesis =>
    rcases List.mem_cons.1 member with rfl | later
    · simp [isKeyOf, isKey]
    · have tailNodup : (rest.filterMap Source.key?).Nodup :=
        nodup.sublist ((List.sublist_cons_self first rest).filterMap _)
      have different : first.key? ≠ some key := by
        intro same
        rw [List.filterMap_cons, same] at nodup
        exact (List.nodup_cons.1 nodup).1 (List.mem_filterMap.2 ⟨source, later, isKey⟩)
      simpa [isKeyOf, different] using inductionHypothesis tailNodup later

/-- A key is not found exactly if it is not known. -/
theorem get?_eq_none_iff : scope.get? key = none ↔ key ∉ scope.keys := by
  simp [get?, isKeyOf, mem_keys]

/-- If keys are distinct, the source that is found by a key is the known one that goes by it. -/
theorem get?_eq_some_iff (nodup : scope.keys.Nodup) :
    scope.get? key = some source ↔ source ∈ scope.sources ∧ source.key? = some key :=
  ⟨key_of_get?, fun known => get?_of_mem nodup known.1 known.2⟩

/-- All sources go by other keys than one that is not known. -/
theorem filter_unknown (unknown : key ∉ scope.keys) :
    scope.sources.filter (fun source => !isKeyOf key source) = scope.sources := by
  refine List.filter_eq_self.2 fun source member => ?_
  have different : source.key? ≠ some key := fun isKey =>
    unknown (mem_keys.2 ⟨source, member, isKey⟩)
  simp [isKeyOf, different]

/-- If keys are distinct, a removal leaves the sources that go by other keys. -/
theorem sources_remove (nodup : scope.keys.Nodup) (key : String) :
    (scope.remove key).2.sources = scope.sources.filter fun source => !isKeyOf key source := by
  obtain ⟨sources⟩ := scope
  induction sources with
  | nil => rfl
  | cons source rest inductionHypothesis =>
    have sublist : (keys ⟨rest⟩).Sublist (keys ⟨source :: rest⟩) :=
      (List.sublist_cons_self source rest).filterMap _
    have following := inductionHypothesis (nodup.sublist sublist)
    by_cases same : source.key? = some key
    · have unknown : key ∉ keys ⟨rest⟩ := by
        rw [keys, List.filterMap_cons, same] at nodup
        exact (List.nodup_cons.1 nodup).1
      simpa [remove, isKeyOf, same] using (filter_unknown unknown).symm
    · simpa [remove, isKeyOf, same] using following

/-- Removing the source that was added last takes the addition back. -/
theorem remove_append (isKey : source.key? = some key) (free : key ∉ scope.keys) :
    remove ⟨scope.sources ++ [source]⟩ key = (some source, scope) := by
  obtain ⟨sources⟩ := scope
  have others : ∀ known ∈ sources, ¬ isKeyOf key known = true := by
    intro known isKnown goesBy
    exact free (mem_keys.2 ⟨known, isKnown, by simpa [isKeyOf] using goesBy⟩)
  have goesBy : isKeyOf key source = true := by simp [isKeyOf, isKey]
  have before : sources.find? (isKeyOf key) = none := List.find?_eq_none.2 others
  simp [remove, get?, List.find?_append, before, goesBy, List.eraseP_append_right _ others]

/-- If keys are distinct, the source that is removed is no longer known. -/
theorem not_mem_remove (nodup : scope.keys.Nodup) (found : scope.get? key = some source) :
    source ∉ (scope.remove key).2.sources := by
  intro isKnown
  have gone : key ∉ (scope.remove key).2.keys := by
    rw [keys_remove]
    exact nodup.not_mem_erase
  exact gone (mem_keys.2 ⟨source, isKnown, (key_of_get? found).2⟩)

/-- If keys are distinct, every source but the removed one stays known. -/
theorem mem_remove {other : Source} (nodup : scope.keys.Nodup)
    (found : scope.get? key = some source) (isKnown : other ∈ scope.sources)
    (different : other ≠ source) : other ∈ (scope.remove key).2.sources := by
  have otherKey : ¬ isKeyOf key other = true := by
    intro isKey
    have sameKey : other.key? = some key := by simpa [isKeyOf] using isKey
    have foundOther := get?_of_mem nodup isKnown sameKey
    exact different (Option.some.inj (foundOther.symm.trans found))
  exact (List.mem_eraseP_of_neg otherKey).2 isKnown

end Scope

/-- A join that comes from the operations on joins. -/
inductive Join.Built : Join → Prop where
  | ofSource {left right : Source} {kind : JoinKind} {body : Join} {log after : Log}
      (made : (Join.ofItem (.source left) right kind).run log = (.ok body, after)) : Built body
  | ofJoin {left : Join} {right : Source} {kind : JoinKind} {body : Join} {log after : Log}
      (leftBuilt : left.Built) (made : (left.join right kind).run log = (.ok body, after)) :
      Built body
  | setOn {base : Join} {condition : Condition} {body : Join} {log after : Log}
      (baseBuilt : base.Built) (made : (base.setOn condition).run log = (.ok body, after)) :
      Built body
  | setWrapped {base : Join} (baseBuilt : base.Built) (wrapped : Bool) :
      Built (base.setWrapped wrapped)

namespace Join

variable {left : FromItem} {right : Source} {kind : JoinKind} {body : Join} {log after : Log}

/-- A join has the parts that it was made of, and it knows what the left item
knows and the right source. -/
theorem eq_of_run_ofItem (made : (ofItem left right kind).run log = (.ok body, after)) :
    body.left = left ∧ body.right = right ∧
      ∃ known middle, left.scope.run log = (.ok known, middle) ∧
        (known.insert right).run middle = (.ok body.scope, after) := by
  obtain ⟨known, middle, first, following⟩ := Build.of_run_bind made
  obtain ⟨scope, last, second, final⟩ := Build.of_run_bind following
  cases final
  exact ⟨rfl, rfl, known, middle, first, second⟩

/-- The condition of a join is no part of its shape. -/
theorem eq_of_run_setOn {condition : Condition} {base : Join}
    (made : (base.setOn condition).run log = (.ok body, after)) :
    body = { base with on := some condition } := by
  rw [setOn] at made
  split at made <;> cases made
  rfl

/-- The leaves of a join are those of its left item and its right source. -/
theorem leaves_eq (body : Join) :
    (FromItem.join body).leaves = body.left.leaves ++ [body.right] := by
  cases body
  rw [FromItem.leaves]

/-- A join knows its leaves that have keys, from left to right, and no two of
them by one key. -/
theorem Built.scope_eq (built : body.Built) :
    body.scope.sources = (FromItem.join body).leaves.filter Source.isKeyed ∧
      body.scope.keys.Nodup := by
  -- A join of a source and a join of a join differ in what the left item knows.
  have joined : ∀ {left : FromItem} {right : Source} {kind : JoinKind} {body : Join}
      {log after : Log}, (ofItem left right kind).run log = (.ok body, after) →
      (∀ {known log middle}, left.scope.run log = (.ok known, middle) →
        known.sources = left.leaves.filter Source.isKeyed ∧ known.keys.Nodup) →
      body.scope.sources = (FromItem.join body).leaves.filter Source.isKeyed ∧
        body.scope.keys.Nodup := by
    intro left right kind body log after made leftKnows
    obtain ⟨sameLeft, sameRight, known, middle, first, second⟩ := eq_of_run_ofItem made
    obtain ⟨sources, nodup⟩ := leftKnows first
    refine ⟨?_, Scope.nodup_of_run_insert nodup second⟩
    rw [(Scope.eq_of_run_insert second).1, sources, leaves_eq, sameLeft, sameRight,
      List.filter_append]
  induction built with
  | ofSource made =>
    refine joined made fun knows => ?_
    have known := (Scope.eq_of_run_insert knows).1
    have noKeys : Scope.empty.keys.Nodup := List.nodup_nil
    have nodup := Scope.nodup_of_run_insert noKeys knows
    exact ⟨by simpa [Scope.empty, FromItem.leaves] using known, nodup⟩
  | ofJoin _ made leftKnows =>
    refine joined made fun knows => ?_
    cases knows
    exact leftKnows
  | setOn _ made knows =>
    rw [eq_of_run_setOn made]
    simpa [leaves_eq] using knows
  | setWrapped _ wrapped knows => simpa [Join.setWrapped, leaves_eq] using knows

end Join

end SqlTree
