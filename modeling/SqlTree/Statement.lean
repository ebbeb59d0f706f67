import SqlTree.Change
import SqlTree.Statement.Kind
import SqlTree.Tree.Tokens

/-!
# Statements

Everything that can be rendered on its own, and its tokens. A query that is a
statement gets the parentheses it asks for. In a statement that changes rows a
switch of the dialect decides whether columns show their table.
-/

namespace SqlTree

/-- A statement. -/
inductive Statement where
  | query (query : Query)
  | insert (insert : Insert)
  | update (update : Update)
  | delete (delete : Delete)
deriving DecidableEq

/-- The kind of a statement. -/
def Statement.kind : Statement → StatementKind
  | .query (.select _) => .select
  | .query (.setOperation _) => .setOperation
  | .insert _ => .insert
  | .update _ => .update
  | .delete _ => .delete

/-- A clause of conditions that must all hold; no clause if none of them has
tokens. -/
def whereClause (context : Context) (conditions : List Condition) : List Token :=
  introducedBy [.where] (joinedBy .and (Condition.tokensEach context conditions))

/-- The tokens of the rows of an `INSERT`. -/
def InsertRows.tokens (context : Context) : InsertRows → List Token
  | .list values =>
    .callee Keyword.values.text ::
      parenthesized (commaSeparated (Expr.tokensEach context values))
  | .query body => parenthesized (body.tokens context)

/-- The tokens of the list of columns of an `INSERT`; none for no columns. -/
def columnListTokens (context : Context) (columns : List Column) : List Token :=
  if columns = [] then []
  else parenthesized (commaSeparated (columns.map (Column.tokens context)))

/-- The tokens of an `INSERT`. -/
def Insert.tokens (context : Context) (insert : Insert) : List Token :=
  [.keyword .insert, .keyword .into] ++ insert.target.source.tokens context ++
    columnListTokens context insert.columns ++ insert.rows.tokens context

/-- The tokens of the setting of a column. -/
def Setter.tokens (context : Context) (setter : Setter) : List Token :=
  setter.column.tokens context ++ .operator "=" :: setter.value.tokens context

/-- The tokens of an `UPDATE`. -/
def Update.tokens (context : Context) (update : Update) : List Token :=
  .keyword .update :: update.target.source.tokens context ++
    .keyword .set :: commaSeparated (update.setters.map (Setter.tokens context)) ++
    whereClause context update.conditions

/-- The tokens of a `DELETE`. -/
def Delete.tokens (context : Context) (delete : Delete) : List Token :=
  [.keyword .delete, .keyword .from] ++ delete.target.source.tokens context ++
    whereClause context delete.conditions

/-- The tokens of a statement in a dialect. -/
def Statement.tokens (dialect : Dialect) : Statement → List Token
  | .query body => parenthesizedIf body.wrapped (body.tokens ⟨dialect, true⟩)
  | .insert body => body.tokens ⟨dialect, dialect.qualifyInsertColumns⟩
  | .update body => body.tokens ⟨dialect, dialect.qualifyUpdateColumns⟩
  | .delete body => body.tokens ⟨dialect, dialect.qualifyDeleteColumns⟩

/-- The text of a statement in a dialect. -/
def Statement.sql (dialect : Dialect) (statement : Statement) : String :=
  Token.textOf (statement.tokens dialect)

end SqlTree
