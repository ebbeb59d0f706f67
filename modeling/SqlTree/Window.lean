import SqlTree.Collection
import SqlTree.Tree.Equality

/-!
# Windows

Building the window of a call: what its rows are partitioned by, what they are
sorted by, and the frame around the current row.
-/

namespace SqlTree.Window

/-- The window over all rows, in no order. -/
def empty : Window where
  partitions := []
  sortKeys := []
  frame := none

/-- Partitions the rows by one more value. -/
def addPartition (window : Window) (expr : Expr) : Window :=
  { window with partitions := addLast window.partitions expr }

/-- Takes back the first partition by a value. -/
def removePartition (window : Window) (expr : Expr) : Bool × Window :=
  let (found, partitions) := removeValue window.partitions expr
  (found, { window with partitions := partitions })

/-- Sorts the rows by one more key. -/
def addSortKey (window : Window) (key : SortKey) : Window :=
  { window with sortKeys := addLast window.sortKeys key }

/-- Takes back the first sort by a key. -/
def removeSortKey (window : Window) (key : SortKey) : Bool × Window :=
  let (found, sortKeys) := removeValue window.sortKeys key
  (found, { window with sortKeys := sortKeys })

/-- Sets or clears the frame. -/
def setFrame (window : Window) (frame : Option Frame) : Window :=
  { window with frame := frame }

end SqlTree.Window
