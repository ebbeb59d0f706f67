import SqlTree.Text.Letter
import SqlTree.Text.Quoted

/-!
# Identifiers

The names of tables, columns, functions and aliases. An identifier is a
non-empty sequence of segments, written with dots between them. A segment is
plain (a letter or `_`, then letters, numbers, `_` and `$`) or quoted (any
text that is not empty and holds no null character).

The rules for segments are part of the type, so every identifier can be
written, and `Identifier.sql` never has to look at the characters again.
-/

namespace SqlTree

/-- One of the dot-separated segments of an identifier. -/
inductive Segment where
  | plain (text : String)
  | quoted (text : String)
deriving DecidableEq

namespace Segment

/-- Whether a plain segment may start with the character. -/
def startsPlain (c : Char) : Bool :=
  c = '_' || Text.isLetter c

/-- Whether a plain segment may go on with the character. -/
def continuesPlain (c : Char) : Bool :=
  c = '_' || c = '$' || Text.isLetterOrNumber c

/-- The shape of the characters of a plain segment. -/
def IsPlain : List Char → Prop
  | [] => False
  | first :: rest => startsPlain first = true ∧ ∀ c ∈ rest, continuesPlain c = true

instance (text : List Char) : Decidable (IsPlain text) :=
  match text with
  | [] => inferInstanceAs (Decidable False)
  | first :: rest =>
    letI := List.decidableBAll (continuesPlain · = true) rest
    inferInstanceAs (Decidable (startsPlain first = true ∧ ∀ c ∈ rest, continuesPlain c = true))

/-- The shape of the characters of a quoted segment. -/
def IsQuotable (text : List Char) : Prop :=
  text ≠ [] ∧ '\x00' ∉ text

instance (text : List Char) : Decidable (IsQuotable text) :=
  inferInstanceAs (Decidable (text ≠ [] ∧ '\x00' ∉ text))

/-- The rule that a segment of an identifier obeys. -/
def IsValid : Segment → Prop
  | plain text => IsPlain text.toList
  | quoted text => IsQuotable text.toList

instance (segment : Segment) : Decidable segment.IsValid :=
  match segment with
  | plain text => inferInstanceAs (Decidable (IsPlain text.toList))
  | quoted text => inferInstanceAs (Decidable (IsQuotable text.toList))

/-- The text of the segment, without its quotation marks. -/
def text : Segment → String
  | plain text => text
  | quoted text => text

/-- The segment as it is written in a statement. -/
def sql : Segment → String
  | plain text => text
  | quoted text => Text.enclose '"' text

end Segment

/-- The name of a table, column, function or alias. -/
structure Identifier where
  segments : List Segment
  nonempty : segments ≠ []
  valid : ∀ segment ∈ segments, segment.IsValid
deriving DecidableEq

namespace Identifier

/-- The segments of a name as they are written, with dots between them. -/
def sqlOfSegments (segments : List Segment) : String :=
  ".".intercalate (segments.map Segment.sql)

/-- The identifier as it is written in a statement. -/
def sql (identifier : Identifier) : String :=
  sqlOfSegments identifier.segments

/-- The text of the last segment: the table's own name in a name that a schema
qualifies. -/
def baseName (identifier : Identifier) : String :=
  (identifier.segments.getLast identifier.nonempty).text

/-- Identifiers are equal as soon as their segments are. -/
@[ext] theorem ext {left right : Identifier} (segments : left.segments = right.segments) :
    left = right := by
  cases left
  cases right
  cases segments
  rfl

/-- The identifier of one quoted segment. -/
def ofQuotable (text : String) (quotable : Segment.IsQuotable text.toList) : Identifier where
  segments := [.quoted text]
  nonempty := by simp
  valid := by simpa [Segment.IsValid] using quotable

end Identifier

end SqlTree
