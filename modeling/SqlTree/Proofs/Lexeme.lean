import Mathlib.Data.List.TakeWhile
import SqlTree.Identifier
import SqlTree.Numeral
import SqlTree.Placeholder

/-!
# Lexemes

The text of a statement as a reader of SQL takes it apart, independently of how
it was written. Spaces separate lexemes. A lexeme is read as far as it goes:
words and names between quotation marks, strings between apostrophes, numbers,
markers of parameters, and symbols, of which `<=`, `>=` and `<>` are read
whole. The letters and digits of words are those of all scripts. Two minus
signs, and a slash before a star, open a comment, which takes in all that
follows.

`lexemes` gives strings and quoted names as what they stand for, not as they are
written. Reading a lexeme from the text of a token gives that lexeme back and
stops right after it, unless what follows could continue it.
-/

namespace SqlTree

/-- A unit of the text of a statement. -/
inductive Lexeme where
  | word (text : String)
  /-- The text between quotation marks, with doubled marks made single. -/
  | quoted (text : String)
  /-- The text between apostrophes, with doubled apostrophes made single. -/
  | string (value : String)
  | number (text : String)
  | marker (text : String)
  | symbol (text : String)
  /-- The opening of a comment. -/
  | comment
  /-- A character that starts no lexeme, or a mark that is never closed. -/
  | stray (c : Char)
deriving DecidableEq

/-- Whether a lexeme can be part of a statement. -/
def Lexeme.isProper : Lexeme → Bool
  | comment | stray _ => false
  | _ => true

/-- What can start with a character. -/
inductive Opening where
  | word
  | number
  | string
  | quoted
  | marker
  /-- A symbol, or a comment if the given character follows. -/
  | symbolOrComment (second : Char)
  /-- A symbol that one of the given characters can make longer. -/
  | symbol (longer : List Char)
  | nothing
deriving DecidableEq

/-- What starts with the given character. -/
def Opening.of (c : Char) : Opening :=
  if Segment.startsPlain c then .word
  else if c.isDigit then .number
  else if c = '\'' then .string
  else if c = '"' then .quoted
  else if c ∈ ['@', ':', '$', '?'] then .marker
  else if c = '-' then .symbolOrComment '-'
  else if c = '/' then .symbolOrComment '*'
  else if c = '<' then .symbol ['=', '>']
  else if c = '>' then .symbol ['=']
  else if c ∈ ['=', '+', '*', '%', '(', ')', ',', '.'] then .symbol []
  else .nothing

namespace Lexeme

/-- Reads the fraction of a number after its whole part, if there is one: a
point that a digit follows, and all digits after it. -/
def scanFraction (rest : List Char) : List Char × List Char :=
  match rest with
  | '.' :: digit :: after =>
    if digit.isDigit then
      ('.' :: digit :: after.takeWhile Char.isDigit, after.dropWhile Char.isDigit)
    else ([], rest)
  | _ => ([], rest)

/-- Reads a text up to the closing mark. -/
def scanMarked (mark : Char) (lexeme : String → Lexeme) (rest : List Char) :
    Lexeme × List Char :=
  match Text.scanEnclosed mark rest with
  | none => (.stray mark, [])
  | some (text, after) => (lexeme (String.ofList text), after)

/-- Reads a symbol that one of the given characters can make longer. -/
def scanSymbol (c : Char) (longer : List Char) (rest : List Char) : Lexeme × List Char :=
  match rest with
  | [] => (.symbol (String.ofList [c]), [])
  | d :: after =>
    if d ∈ longer then (.symbol (String.ofList [c, d]), after)
    else (.symbol (String.ofList [c]), d :: after)

/-- Reads the lexeme that starts with a character. Gives it and the characters
after it. -/
def scan (c : Char) (rest : List Char) : Lexeme × List Char :=
  match Opening.of c with
  | .word =>
    (.word (String.ofList (c :: rest.takeWhile Segment.continuesPlain)),
      rest.dropWhile Segment.continuesPlain)
  | .number =>
    let (fraction, after) := scanFraction (rest.dropWhile Char.isDigit)
    (.number (String.ofList (c :: rest.takeWhile Char.isDigit ++ fraction)), after)
  | .string => scanMarked c .string rest
  | .quoted => scanMarked c .quoted rest
  | .marker =>
    (.marker (String.ofList (c :: rest.takeWhile Placeholder.continuesMarker)),
      rest.dropWhile Placeholder.continuesMarker)
  | .symbolOrComment second =>
    if rest.head? = some second then (.comment, []) else (.symbol (String.ofList [c]), rest)
  | .symbol longer => scanSymbol c longer rest
  | .nothing => (.stray c, rest)

/-- What is left after the characters of a class is no longer than all. -/
theorem length_dropWhile_le (test : Char → Bool) (chars : List Char) :
    (chars.dropWhile test).length ≤ chars.length :=
  (List.dropWhile_suffix test).length_le

theorem length_scanFraction_le (rest : List Char) : (scanFraction rest).2.length ≤ rest.length := by
  unfold scanFraction
  split
  · rename_i digit after
    split
    · have shorter := length_dropWhile_le Char.isDigit after
      simp only [List.length_cons]
      omega
    · exact Nat.le_refl _
  · exact Nat.le_refl _

theorem length_scanMarked_le (mark : Char) (lexeme : String → Lexeme) (rest : List Char) :
    (scanMarked mark lexeme rest).2.length ≤ rest.length := by
  unfold scanMarked
  split
  · exact Nat.zero_le _
  · rename_i text after found
    obtain ⟨rfl, -⟩ := Text.eq_of_scanEnclosed found
    simp only [List.length_append, List.length_cons]
    omega

theorem length_scanSymbol_le (c : Char) (longer rest : List Char) :
    (scanSymbol c longer rest).2.length ≤ rest.length := by
  unfold scanSymbol
  split
  · exact Nat.le_refl _
  · split
    · exact Nat.le_succ _
    · exact Nat.le_refl _

/-- Reading a lexeme never gives back more than there was. -/
theorem length_scan_le (c : Char) (rest : List Char) : (scan c rest).2.length ≤ rest.length := by
  unfold scan
  split
  · exact length_dropWhile_le _ _
  · exact Nat.le_trans (length_scanFraction_le _) (length_dropWhile_le _ _)
  · exact length_scanMarked_le _ _ _
  · exact length_scanMarked_le _ _ _
  · exact length_dropWhile_le _ _
  · split
    · exact Nat.zero_le _
    · exact Nat.le_refl _
  · exact length_scanSymbol_le _ _ _
  · exact Nat.le_refl _

end Lexeme

/-- The lexemes of a text. -/
def lexemes (text : List Char) : List Lexeme :=
  match text with
  | [] => []
  | c :: rest =>
    if c = ' ' then lexemes rest
    else (Lexeme.scan c rest).1 :: lexemes (Lexeme.scan c rest).2
termination_by text.length
decreasing_by
  · simp
  · have shorter := Lexeme.length_scan_le c rest
    simp only [List.length_cons]
    omega

example : lexemes "a<=-1.5".toList =
    [.word "a", .symbol "<=", .symbol "-", .number "1.5"] := by decide +kernel

end SqlTree
