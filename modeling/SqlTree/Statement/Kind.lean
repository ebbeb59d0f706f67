/-!
# Kinds of statements

What a statement does, as it is reported beside its text.
-/

namespace SqlTree

/-- The kind of a statement. -/
inductive StatementKind where
  | select
  | setOperation
  | insert
  | update
  | delete
deriving DecidableEq

/-- The name of a kind in reports. -/
def StatementKind.label : StatementKind → String
  | select => "select"
  | setOperation => "set_operation"
  | insert => "insert"
  | update => "update"
  | delete => "delete"

end SqlTree
