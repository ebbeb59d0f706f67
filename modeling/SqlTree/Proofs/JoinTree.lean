import SqlTree.Proofs.Scope

/-!
# Joins and what they know

The scope of a join repeats what its tree says already. It is copied from the left side at each
step while the tree grows, so that it agrees with the tree is a fact about how joins come about
(`Join.Built.scope_eq`). From it follows what joining answers: whether a source can be joined onto
an item is a question about the leaves of the item (`Join.run_ofItem`).

`Join.tree_determines_scope` puts this together with the rule on cross joins, which holds at every
node of the tree.
-/

namespace SqlTree

/-- The joins that an item of a `FROM` clause is made of, the innermost one first. -/
def FromItem.joins : FromItem → List Join
  | .source _ => []
  | .join ⟨left, right, kind, on, wrapped, scope⟩ =>
    left.joins ++ [⟨left, right, kind, on, wrapped, scope⟩]

/-- Whether an item is a source or a join that comes from the operations on joins. -/
def FromItem.IsBuilt : FromItem → Prop
  | .source _ => True
  | .join body => body.Built

namespace Join

variable {left : FromItem} {right : Source} {kind : JoinKind} {body : Join} {key : String}
  {log after : Log}

/-- The joins of a join are those of its left item and the join itself. -/
theorem joins_eq (body : Join) : (FromItem.join body).joins = body.left.joins ++ [body] := by
  cases body
  rw [FromItem.joins]

/-- A built item knows its leaves that have keys, from left to right. -/
theorem run_scope (built : left.IsBuilt) (log : Log) :
    ∃ known : Scope, left.scope.run log = (.ok known, log) ∧
      known.sources = left.leaves.filter Source.isKeyed := by
  cases left with
  | source single =>
    rw [FromItem.scope, Scope.run_insert, FromItem.leaves]
    cases isKey : single.key? <;>
      exact ⟨_, rfl, by simp [Scope.empty, Source.isKeyed, isKey]⟩
  | join body => exact ⟨body.scope, rfl, (Built.scope_eq built).1⟩

/-- Joining a source onto a built item is making it known to a scope that knows the keys of the
leaves of the item. -/
theorem run_ofItem (built : left.IsBuilt) (right : Source) (kind : JoinKind) (log : Log) :
    ∃ known : Scope, known.keys = left.leaves.filterMap Source.key? ∧
      (ofItem left right kind).run log =
        match (known.insert right).run log with
        | (.ok scope, log) => (.ok ⟨left, right, kind, none, false, scope⟩, log)
        | (.error error, log) => (.error error, log) := by
  obtain ⟨known, ran, sources⟩ := run_scope built log
  refine ⟨known, ?_, ?_⟩
  · rw [Scope.keys, sources]
    exact Scope.keys_filter left.leaves
  · rw [ofItem, Build.run_bind, ran]
    dsimp only
    rw [Build.run_bind]
    rcases (known.insert right).run log with ⟨_ | _, _⟩ <;> rfl

/-- A source is refused if a leaf of the item goes by its key. -/
theorem run_ofItem_taken (built : left.IsBuilt) (isKey : right.key? = some key)
    (taken : key ∈ left.leaves.filterMap Source.key?) :
    (ofItem left right kind).run log =
      (.error (.duplicateSource key), log ++ [.duplicateKey key]) := by
  obtain ⟨known, keys, ran⟩ := run_ofItem built right kind log
  have contained : known.contains key = true := Scope.contains_iff.2 (keys ▸ taken)
  simp [ran, Scope.run_insert, isKey, contained]

/-- A source is joined on if no leaf of the item goes by its key. -/
theorem run_ofItem_free (built : left.IsBuilt)
    (free : ∀ key ∈ right.key?, key ∉ left.leaves.filterMap Source.key?) (kind : JoinKind)
    (log : Log) :
    ∃ scope, (ofItem left right kind).run log =
      (.ok ⟨left, right, kind, none, false, scope⟩, log) := by
  obtain ⟨known, keys, ran⟩ := run_ofItem built right kind log
  rw [ran, Scope.run_insert]
  cases isKey : right.key? with
  | none => exact ⟨known, rfl⟩
  | some key =>
    have absent : known.contains key = false := by
      have unknown : key ∉ known.keys := keys ▸ free key isKey
      simpa [← Scope.contains_iff] using unknown
    exact ⟨_, by simp [absent]; rfl⟩

/-- A source cannot be joined onto an item exactly if a leaf of the item goes by its key, and then
it is refused for that key. -/
theorem ofItem_eq_error_iff (built : left.IsBuilt) {error : BuildError} :
    ((ofItem left right kind).run log).1 = .error error ↔
      ∃ key, error = .duplicateSource key ∧ right.key? = some key ∧
        key ∈ left.leaves.filterMap Source.key? := by
  constructor
  · intro failed
    by_cases taken : ∃ key, right.key? = some key ∧ key ∈ left.leaves.filterMap Source.key?
    · obtain ⟨key, isKey, isTaken⟩ := taken
      rw [run_ofItem_taken built isKey isTaken] at failed
      cases failed
      exact ⟨key, rfl, isKey, isTaken⟩
    · have free : ∀ key ∈ right.key?, key ∉ left.leaves.filterMap Source.key? :=
        fun key isKey isTaken => taken ⟨key, isKey, isTaken⟩
      obtain ⟨scope, ran⟩ := run_ofItem_free built free kind log
      rw [ran] at failed
      cases failed
  · rintro ⟨key, rfl, isKey, isTaken⟩
    rw [run_ofItem_taken built isKey isTaken]

/-- A join that a source is joined onto an item by has no condition yet. -/
theorem shape_of_run_ofItem (made : (ofItem left right kind).run log = (.ok body, after)) :
    body = ⟨left, right, kind, none, false, body.scope⟩ := by
  obtain ⟨known, middle, -, following⟩ := Build.of_run_bind made
  obtain ⟨scope, last, -, final⟩ := Build.of_run_bind following
  cases final
  rfl

/-- A join with a built left item is built. -/
theorem Built.ofItem (leftBuilt : left.IsBuilt)
    (made : (Join.ofItem left right kind).run log = (.ok body, after)) : body.Built := by
  cases left with
  | source single => exact .ofSource made
  | join inner => exact .ofJoin leftBuilt made

/-- No condition can be attached to a cross join. -/
theorem run_setOn_cross (isCross : body.kind = .cross) (condition : Condition) (log : Log) :
    (body.setOn condition).run log =
      (.error (.invalidJoin "CROSS JOIN cannot have an ON clause"), log) := by
  rw [setOn, isCross]
  rfl

/-- A condition can be attached to every other join, and nothing else changes. -/
theorem run_setOn (notCross : body.kind ≠ .cross) (condition : Condition) (log : Log) :
    (body.setOn condition).run log = (.ok { body with on := some condition }, log) := by
  rw [setOn]
  cases isKind : body.kind with
  | cross => exact absurd isKind notCross
  | inner | leftOuter | rightOuter | fullOuter => rfl

/-- No cross join in the tree of a built join has a condition. -/
theorem Built.on_of_cross (built : body.Built) :
    ∀ node ∈ (FromItem.join body).joins, node.kind = .cross → node.on = none := by
  -- A join that is made anew, and one whose condition or parentheses are set, differ from the
  -- joins of their left items in themselves only.
  have topmost : ∀ {body : Join}, (∀ node ∈ body.left.joins, node.kind = .cross → node.on = none) →
      (body.kind = .cross → body.on = none) →
      ∀ node ∈ (FromItem.join body).joins, node.kind = .cross → node.on = none := by
    intro body below itself node member
    rw [joins_eq, List.mem_append, List.mem_singleton] at member
    rcases member with inLeft | rfl
    · exact below node inLeft
    · exact itself
  induction built with
  | ofSource made =>
    refine topmost ?_ fun _ => congrArg on (shape_of_run_ofItem made)
    rw [(eq_of_run_ofItem made).1]
    simp [FromItem.joins]
  | ofJoin _ made inductionHypothesis =>
    refine topmost ?_ fun _ => congrArg on (shape_of_run_ofItem made)
    rw [(eq_of_run_ofItem made).1]
    exact inductionHypothesis
  | @setOn base _ _ _ _ _ made inductionHypothesis =>
    rw [joins_eq] at inductionHypothesis
    have notCross : base.kind ≠ .cross := by
      intro isCross
      rw [run_setOn_cross isCross] at made
      cases made
    rw [eq_of_run_setOn made]
    exact topmost (fun node member => inductionHypothesis node (List.mem_append_left _ member))
      fun isCross => absurd isCross notCross
  | @setWrapped base _ wrapped inductionHypothesis =>
    rw [joins_eq] at inductionHypothesis
    exact topmost (fun node member => inductionHypothesis node (List.mem_append_left _ member))
      (inductionHypothesis base (by simp))

/-- A built join knows exactly what its tree says.

It knows its leaves that have keys, from left to right, and no two of them by one key, and no
cross join in the tree has a condition. A source cannot be joined onto an item exactly if a leaf
of the item goes by its key, and it is refused for that key; else the join is made of the two. A
condition cannot be attached exactly if the join is a cross join. Neither a condition nor
parentheses change what a join knows, so joins with the same parts know the same. -/
theorem tree_determines_scope :
    (∀ body : Join, body.Built →
      body.scope.sources = (FromItem.join body).leaves.filter Source.isKeyed ∧
        body.scope.keys = (FromItem.join body).leaves.filterMap Source.key? ∧
        body.scope.keys.Nodup ∧
        ∀ node ∈ (FromItem.join body).joins, node.kind = .cross → node.on = none) ∧
      (∀ (left : FromItem) (right : Source) (kind : JoinKind) (log : Log), left.IsBuilt →
        (∀ error, ((ofItem left right kind).run log).1 = .error error ↔
          ∃ key, error = .duplicateSource key ∧ right.key? = some key ∧
            key ∈ left.leaves.filterMap Source.key?) ∧
          ∀ body, ((ofItem left right kind).run log).1 = .ok body →
            body.Built ∧ body.left = left ∧ body.right = right ∧ body.kind = kind) ∧
      (∀ (body : Join) (condition : Condition) (log : Log),
        ((∃ error, ((body.setOn condition).run log).1 = .error error) ↔ body.kind = .cross) ∧
          ∀ next, ((body.setOn condition).run log).1 = .ok next → next.scope = body.scope) ∧
      (∀ (body : Join) (wrapped : Bool), (body.setWrapped wrapped).scope = body.scope) ∧
      ∀ first second : Join, first.Built → second.Built → first.left = second.left →
        first.right = second.right → first.kind = second.kind → first.on = second.on →
        first.wrapped = second.wrapped → first.scope = second.scope := by
  refine ⟨fun body built => ⟨built.scope_eq.1, ?_, built.scope_eq.2, built.on_of_cross⟩, ?_, ?_,
    fun _ _ => rfl, ?_⟩
  · rw [Scope.keys, built.scope_eq.1]
    exact Scope.keys_filter _
  · intro left right kind log built
    refine ⟨fun error => ofItem_eq_error_iff built, fun body answer => ?_⟩
    have made : (ofItem left right kind).run log = (.ok body, _) := Prod.ext answer rfl
    have shape := shape_of_run_ofItem made
    exact ⟨.ofItem built made, congrArg Join.left shape, congrArg Join.right shape,
      congrArg Join.kind shape⟩
  · intro body condition log
    by_cases isCross : body.kind = .cross
    · rw [run_setOn_cross isCross]
      exact ⟨⟨fun _ => isCross, fun _ => ⟨_, rfl⟩⟩, fun next answer => by cases answer⟩
    · rw [run_setOn isCross]
      refine ⟨⟨?_, fun kind => absurd kind isCross⟩, ?_⟩
      · rintro ⟨_, ⟨⟩⟩
      · rintro next ⟨⟩
        rfl
  · intro first second firstBuilt secondBuilt sameLeft sameRight _ _ _
    have sameSources : first.scope.sources = second.scope.sources := by
      rw [firstBuilt.scope_eq.1, secondBuilt.scope_eq.1, leaves_eq, leaves_eq, sameLeft, sameRight]
    cases knownFirst : first.scope
    cases knownSecond : second.scope
    simpa [knownFirst, knownSecond] using sameSources

/-- A join of `a`, `b` and a call without a name knows `a` and `b`. The cross join in it has no
condition, a further `b` cannot be joined onto it, and a condition cannot be attached to it. -/
theorem tree_determines_scope_cross :
    let a : Source := ⟨.table ⟨[.plain "a"], by simp, by decide⟩, none⟩
    let b : Source := ⟨.table ⟨[.plain "b"], by simp, by decide⟩, none⟩
    let keyless : Source := ⟨.call ⟨⟨[.plain "f"], by simp, by decide⟩, [], none⟩, none⟩
    let condition : Condition := ⟨.isNull .null false, false⟩
    let inner : Join := ⟨.source a, b, .inner, some condition, false, ⟨[a, b]⟩⟩
    let outer : Join := ⟨.join inner, keyless, .cross, none, true, ⟨[a, b]⟩⟩
    outer.Built ∧ outer.scope.sources = (FromItem.join outer).leaves.filter Source.isKeyed ∧
      (∀ node ∈ (FromItem.join outer).joins, node.kind = .cross → node.on = none) ∧
      ((ofItem (.join outer) b .inner).run []).1 = .error (.duplicateSource "b") ∧
      ∃ error, ((outer.setOn condition).run []).1 = .error error := by
  intro a b keyless condition inner outer
  have start : Join.Built { inner with on := none } :=
    .ofSource (show (ofItem (.source a) b .inner).run [] = (.ok _, []) from rfl)
  have innerBuilt : inner.Built :=
    .setOn start (show (setOn _ condition).run [] = (.ok inner, []) from rfl)
  have joined : Join.Built { outer with wrapped := false } :=
    .ofJoin innerBuilt (show (join inner keyless .cross).run [] = (.ok _, []) from rfl)
  have outerBuilt : outer.Built := .setWrapped joined true
  obtain ⟨trees, joining, conditions, -⟩ := tree_determines_scope
  obtain ⟨sources, -, -, crosses⟩ := trees outer outerBuilt
  have refused := ((joining (.join outer) b .inner [] outerBuilt).1 _).2
    ⟨"b", rfl, rfl, by simp [FromItem.leaves, outer, inner, a, b, keyless, Source.key?]; decide⟩
  exact ⟨outerBuilt, sources, crosses, refused, (conditions outer condition []).1.2 rfl⟩

end Join

end SqlTree
