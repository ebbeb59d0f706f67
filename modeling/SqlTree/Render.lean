import SqlTree.Statement
import SqlTree.Text.Truncation

/-!
# Rendering with a log

Rendering a statement for use is logged: its kind, the number of its tokens
and the beginning of its text.
-/

namespace SqlTree

/-- The number of bytes of a statement that are logged. -/
def loggedBytes : Nat := 200

/-- Renders a statement in a dialect and logs it. -/
def Statement.render (dialect : Dialect) (statement : Statement) : StateM Log String := do
  let sql := statement.sql dialect
  logEvent (.rendered statement.kind (statement.tokens dialect).length
    (Text.truncate loggedBytes sql))
  return sql

end SqlTree
