import SqlTree.Source

/-!
# Scopes

The sources that are known by their keys. A scope keeps the order in which
they became known, and it never knows two sources by one key: the second one
is refused, which is logged. Sources without a key pass and leave no trace.
-/

namespace SqlTree.Scope

/-- The scope that knows no source. -/
def empty : Scope :=
  ⟨[]⟩

/-- Whether a source goes by the key. -/
def isKeyOf (key : String) (source : Source) : Bool :=
  source.key? = some key

/-- The keys of a scope, in order. -/
def keys (scope : Scope) : List String :=
  scope.sources.filterMap Source.key?

/-- The source that is known by a key. -/
def get? (scope : Scope) (key : String) : Option Source :=
  scope.sources.find? (isKeyOf key)

/-- Whether a source is known by a key. -/
def contains (scope : Scope) (key : String) : Bool :=
  scope.sources.any (isKeyOf key)

/-- Makes a source known by its key. -/
def insert (scope : Scope) (source : Source) : Build Scope :=
  match source.key? with
  | none => return scope
  | some key =>
    if scope.contains key then do
      logEvent (.duplicateKey key)
      throw (.duplicateSource key)
    else return ⟨scope.sources ++ [source]⟩

/-- A source without a key changes nothing, one whose key is free is added at
the end, and one whose key is taken is refused and logged. -/
theorem run_insert (scope : Scope) (source : Source) (log : Log) :
    (scope.insert source).run log =
      match source.key? with
      | none => (.ok scope, log)
      | some key =>
        if scope.contains key then
          (.error (.duplicateSource key), log ++ [.duplicateKey key])
        else (.ok ⟨scope.sources ++ [source]⟩, log) := by
  unfold insert
  cases source.key? with
  | none => rfl
  | some key => cases taken : scope.contains key <;> simp [taken] <;> rfl

/-- Makes sources known one after the other, up to the first that is
refused. -/
def insertEach (scope : Scope) (sources : List Source) : Build Scope :=
  sources.foldlM insert scope

/-- Forgets the source that is known by a key, and gives it. -/
def remove (scope : Scope) (key : String) : Option Source × Scope :=
  (scope.get? key, ⟨scope.sources.eraseP (isKeyOf key)⟩)

end SqlTree.Scope
