import SqlTree.Collection
import SqlTree.Tree.Equality

/-!
# Calls

Building the call of a function: its name, its arguments, and the window that
it is applied over.
-/

namespace SqlTree.Call

/-- A call without arguments. -/
def ofSpelling (name : Spelling) : Build Call :=
  return ⟨← name.build, [], none⟩

/-- Adds an argument. -/
def addArgument (call : Call) (argument : Expr) : Call :=
  { call with arguments := addLast call.arguments argument }

/-- Takes back the first argument that equals a value. -/
def removeArgument (call : Call) (argument : Expr) : Bool × Call :=
  let (found, arguments) := removeValue call.arguments argument
  (found, { call with arguments := arguments })

/-- Sets or clears the window. -/
def setWindow (call : Call) (window : Option Window) : Call :=
  { call with window := window }

end SqlTree.Call
