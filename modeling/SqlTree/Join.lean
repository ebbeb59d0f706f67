import SqlTree.Scope

/-!
# Joins

Building joins. A source is joined onto a source or onto a join, and its key
must be new there. A join knows all sources that take part in it. A cross join
has no `ON` condition.
-/

namespace SqlTree

/-- The sources that an item of a `FROM` clause knows. -/
def FromItem.scope : FromItem → Build Scope
  | .source single => Scope.empty.insert single
  | .join body => return body.scope

/-- The sources that an item of a `FROM` clause is made of, from left to
right. -/
def FromItem.leaves : FromItem → List Source
  | .source single => [single]
  | .join ⟨left, right, _, _, _, _⟩ => left.leaves ++ [right]

namespace Join

/-- Joins a source onto an item. -/
def ofItem (left : FromItem) (right : Source) (kind : JoinKind) : Build Join := do
  let scope ← left.scope
  let scope ← scope.insert right
  return ⟨left, right, kind, none, false, scope⟩

/-- Joins a further source onto a join. -/
def join (body : Join) (right : Source) (kind : JoinKind) : Build Join :=
  ofItem (.join body) right kind

/-- Attaches the condition that a join is made on. -/
def setOn (body : Join) (condition : Condition) : Build Join :=
  match body.kind with
  | .cross => throw (.invalidJoin "CROSS JOIN cannot have an ON clause")
  | _ => return { body with on := some condition }

/-- The join with or without parentheses. -/
def setWrapped (body : Join) (wrapped : Bool) : Join :=
  { body with wrapped := wrapped }

end Join

end SqlTree
