import SqlTree.BuildError
import SqlTree.Identifier.Parser
import SqlTree.Statement.Kind

/-!
# Building with a log

Building a part of a statement may fail and may be logged. `Build` is such a
computation; `Edit` is one that also changes a value in place. In both the log
outlives a failure, and an edit that fails keeps what it had changed so far,
so that leaving the value alone on failure is a property that an edit has to
earn.
-/

namespace SqlTree

/-- Something worth logging. -/
inductive Event where
  /-- A source was refused because its key is taken. -/
  | duplicateKey (key : String)
  /-- A statement of the given kind was rendered: the number of its tokens and
  its text, cut to the length that is logged. -/
  | rendered (kind : StatementKind) (tokenCount : Nat) (sql : String)
deriving DecidableEq

/-- The events so far, oldest first. -/
abbrev Log := List Event

/-- A computation that builds a value or fails, and logs. -/
abbrev Build (α : Type) := ExceptT BuildError (StateM Log) α

/-- A computation that changes a value of type `σ` in place, may fail, and
logs. -/
abbrev Edit (σ α : Type) := ExceptT BuildError (StateT σ (StateM Log)) α

/-- Adds an event to the log. -/
def logEvent (event : Event) : StateM Log Unit :=
  modify (· ++ [event])

namespace Build

/-- The answer of a computation, and what it logged. -/
def outcome {α : Type} (build : Build α) : Except BuildError α × Log :=
  build.run []

/-- Of two computations in a row the second one runs if the first one does not
fail, on the log that the first one leaves. -/
theorem run_bind {α β : Type} (first : Build α) (next : α → Build β) (log : Log) :
    (first >>= next).run log =
      match first.run log with
      | (.ok value, log) => (next value).run log
      | (.error error, log) => (.error error, log) := by
  change (ExceptT.bindCont next (first.run log).1) (first.run log).2 = _
  rcases first.run log with ⟨_ | _, _⟩ <;> rfl

/-- If two computations in a row do not fail, the first one does not, and the
second one gives the value. -/
theorem of_run_bind {α β : Type} {first : Build α} {next : α → Build β} {value : β}
    {log after : Log} (ran : (first >>= next).run log = (.ok value, after)) :
    ∃ answer middle, first.run log = (.ok answer, middle) ∧
      (next answer).run middle = (.ok value, after) := by
  rw [run_bind] at ran
  split at ran
  · rename_i answer middle found
    exact ⟨answer, middle, found, ran⟩
  · cases ran

end Build

namespace Edit

/-- Builds a value in the middle of an edit, without a change. -/
def build {σ α : Type} (build : Build α) : Edit σ α :=
  ExceptT.mk fun value => do
    let answer ← build.run
    return (answer, value)

/-- The answer of an edit together with the value that it leaves. -/
def apply {σ α : Type} (edit : Edit σ α) (value : σ) :
    StateM Log (Except BuildError α × σ) :=
  edit.run value

/-- Building in the middle of an edit answers and logs as building does, and
leaves the value alone. -/
theorem apply_build {σ α : Type} (build : Build α) (value : σ) :
    (Edit.build build).apply value = (fun answer => (answer, value)) <$> build.run :=
  rfl

/-- Of two edits in a row the second one runs if the first one does not fail, on
the value and the log that the first one leaves. -/
theorem run_bind {σ α β : Type} (first : Edit σ α) (next : α → Edit σ β) (value : σ)
    (log : Log) :
    ((first >>= next).apply value).run log =
      match (first.apply value).run log with
      | ((.ok answer, value), log) => ((next answer).apply value).run log
      | ((.error error, value), log) => ((.error error, value), log) := by
  change (ExceptT.bindCont next ((first.apply value).run log).1.1)
    ((first.apply value).run log).1.2 ((first.apply value).run log).2 = _
  rcases (first.apply value).run log with ⟨⟨_ | _, _⟩, _⟩ <;> rfl

/-- Building in the middle of an edit, run on a log. -/
theorem run_build {σ α : Type} (build : Build α) (value : σ) (log : Log) :
    ((Edit.build build).apply value).run log =
      (((build.run log).1, value), (build.run log).2) :=
  rfl

end Edit

/-- The identifier of a spelling; a fault is an invalid identifier. -/
def Spelling.build (spelling : Spelling) : Build Identifier :=
  match spelling.identifier with
  | .ok identifier => pure identifier
  | .error fault => throw (.invalidIdentifier fault.message)

/-- The identifier of an optional spelling. -/
def Spelling.buildOption : Option Spelling → Build (Option Identifier)
  | none => pure none
  | some spelling => some <$> spelling.build

end SqlTree
