import SqlTree.Proofs.Rewriting.Faithful

/-!
# Who decides whether a column shows its source

A column that decides it by itself is obeyed. The others are shown with their
source in every `SELECT`, and in the clauses of a statement that changes rows as
the switch of the dialect for that statement says. Nothing else has a say: not
the statement around a `SELECT`, not how deep a column is, and not what is
between the two.

To say so, the decision is written into the columns (`Statement.resolve`). A
statement with its decisions written into it has the same tokens whatever the
switches for columns are, and a query has the same tokens everywhere.
-/

namespace SqlTree

/-- The column with its decision written into it: its own one if it has one, the
flag of its place otherwise. -/
def Column.resolve (shown : Bool) (column : Column) : Column :=
  { column with override := some (column.override.getD shown) }

/-- The statement with the decision of every column written into it. -/
def Statement.resolve (dialect : Dialect) (statement : Statement) : Statement :=
  statement.rewrite (.ofColumn Column.resolve) dialect

/-- The query without the parentheses that it may ask for. -/
def Query.unwrapped : Query → Query
  | .select body => .select { body with wrapped := false }
  | .setOperation body => .setOperation { body with wrapped := false }

variable {dialect other : Dialect}

/-- Writing the decisions into columns does not show, whatever flag is in force
afterwards. -/
theorem Rewriting.faithful_resolve (wording : dialect.SameWording other) :
    (Rewriting.ofColumn Column.resolve).Faithful (fun _ _ => True) dialect other where
  wording := wording
  select := trivial
  column := fun _ _ => rfl
  conditions := fun _ _ _ => rfl
  on := fun _ _ => rfl
  nested := fun _ _ => rfl

/-- A query has the same tokens whatever the flag of its place is, in dialects that
differ in the switches for columns only. -/
theorem Query.tokens_eq_of_sameWording (wording : dialect.SameWording other)
    (shown after : Bool) (query : Query) :
    query.tokens ⟨dialect, shown⟩ = query.tokens ⟨other, after⟩ := by
  have here := Query.tokens_rewrite (Rewriting.faithful_resolve wording) after shown query
  have there := Query.tokens_rewrite
    (Rewriting.faithful_resolve (Dialect.SameWording.refl other)) after after query
  exact here.symm.trans there

/-- The parentheses that a query asks for are none of its own tokens. -/
theorem Query.tokens_unwrapped (context : Context) (query : Query) :
    query.unwrapped.tokens context = query.tokens context := by
  cases query with
  | select body => cases body; simp only [Query.unwrapped, Query.tokens, Select.tokens]
  | setOperation body => cases body; simp only [Query.unwrapped, Query.tokens]

/-- A query by itself, without the parentheses that it may ask for. -/
theorem Statement.tokens_unwrapped (dialect : Dialect) (query : Query) :
    (Statement.query query.unwrapped).tokens dialect = query.tokens ⟨dialect, true⟩ := by
  have unwrapped : query.unwrapped.wrapped = false := by cases query <;> rfl
  rw [Statement.tokens, unwrapped, Query.tokens_unwrapped]
  rfl

/-- Once the decisions are written into its columns, a statement has the tokens that
it had, in every dialect that differs in the switches for columns only. In
particular a query has the same tokens in every place of every statement as it
has by itself. -/
theorem Statement.tokens_resolve (wording : dialect.SameWording other) :
    (∀ statement : Statement,
        (statement.resolve dialect).tokens other = statement.tokens dialect) ∧
      ∀ (query : Query) (shown : Bool),
        query.tokens ⟨dialect, shown⟩ = (Statement.query query.unwrapped).tokens other := by
  constructor
  · intro statement
    exact Statement.tokens_rewrite (Rewriting.faithful_resolve wording) trivial trivial trivial
      statement
  · intro query shown
    rw [Statement.tokens_unwrapped]
    exact Query.tokens_eq_of_sameWording wording shown true query

/-- An `UPDATE` whose columns are hidden by a dialect keeps them hidden in one that
would show them, once the decisions are written into it. -/
theorem tokens_resolve_update :
    let table : Identifier := ⟨[.plain "t"], by simp, by decide⟩
    let column : Column := ⟨some table, ⟨[.plain "c"], by simp, by decide⟩, none⟩
    let statement : Statement := .update ⟨⟨table, none⟩, [⟨column, .column column⟩], []⟩
    let showing : Dialect := { qualifyUpdateColumns := true }
    Dialect.standard.SameWording showing ∧
      statement.tokens showing ≠ statement.tokens .standard ∧
      (statement.resolve .standard).tokens showing = statement.tokens .standard := by
  intro table column statement showing
  have wording : Dialect.standard.SameWording showing := ⟨rfl, rfl, rfl, rfl⟩
  exact ⟨wording, by decide, (Statement.tokens_resolve wording).1 statement⟩

end SqlTree
