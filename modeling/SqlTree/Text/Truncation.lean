/-!
# Truncation

Cutting a text to a number of bytes without cutting a character. The cut is
made at the last character boundary that the number allows, which is searched
for from the end.
-/

namespace SqlTree.Text

/-- Whether a character starts, or the text ends, so many bytes into a text. -/
def isBoundary : List Char → Nat → Bool
  | _, 0 => true
  | [], _ + 1 => false
  | c :: rest, offset + 1 =>
    c.utf8Size ≤ offset + 1 && isBoundary rest (offset + 1 - c.utf8Size)

/-- The last boundary of a text at or before an offset. -/
def boundaryBefore (text : List Char) : Nat → Nat
  | 0 => 0
  | offset + 1 =>
    if isBoundary text (offset + 1) then offset + 1 else boundaryBefore text offset

/-- The characters of a text that end at or before an offset in bytes. -/
def charsBefore : List Char → Nat → List Char
  | [], _ => []
  | c :: rest, offset =>
    if c.utf8Size ≤ offset then c :: charsBefore rest (offset - c.utf8Size) else []

/-- A text of at most so many bytes, or its beginning within them and an
ellipsis. -/
def truncate (limit : Nat) (text : String) : String :=
  if text.utf8ByteSize ≤ limit then text
  else String.ofList (charsBefore text.toList (boundaryBefore text.toList limit)) ++ "..."

end SqlTree.Text
