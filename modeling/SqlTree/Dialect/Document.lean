import SqlTree.Build
import SqlTree.Dialect

/-!
# Documents of dialect switches

A dialect can be read from a TOML document that assigns `true` or `false` to
keys of switches, one assignment a line. A key is bare or quoted, blank lines
and comments are passed over, and a switch without an assignment stays as it
is in the standard dialect. Anything else that TOML has (tables, dotted keys,
other values) has no place in such a document and is refused, as are keys that
name no switch and keys that are assigned twice.
-/

namespace SqlTree.Document

/-- One assignment of a document. -/
structure Assignment where
  key : String
  value : Bool
deriving DecidableEq

/-- Why a document is refused. -/
inductive Fault where
  | malformedLine (line : String)
  | unknownKey (key : String)
  | repeatedKey (key : String)
deriving DecidableEq

/-- The description of a fault. -/
def Fault.message : Fault → String
  | malformedLine line => "malformed line `" ++ line ++ "`"
  | unknownKey key => "unknown key `" ++ key ++ "`"
  | repeatedKey key => "repeated key `" ++ key ++ "`"

/-- The lines of a document. A line ends with a line feed, which a carriage
return may precede. -/
def lines : List Char → List (List Char)
  | [] => [[]]
  | '\r' :: '\n' :: rest => [] :: lines rest
  | c :: rest =>
    if c = '\n' then [] :: lines rest
    else
      match lines rest with
      | line :: others => (c :: line) :: others
      | [] => [[c]]

/-- Passes over blanks within a line. -/
def skipBlanks (chars : List Char) : List Char :=
  chars.dropWhile fun c => c = ' ' || c = '\t'

/-- Whether a comment may hold the character: no control character but the
tab. -/
def isCommentChar (c : Char) : Bool :=
  c = '\t' || (' ' ≤ c && c ≠ '\x7F')

/-- Whether nothing but blanks and a comment is left of a line. -/
def isRestBlank (chars : List Char) : Bool :=
  match skipBlanks chars with
  | [] => true
  | c :: comment => c = '#' && comment.all isCommentChar

/-- Whether a bare key may hold the character. -/
def isBareKeyChar (c : Char) : Bool :=
  c.isAlphanum || c = '_' || c = '-'

/-- The value of a hexadecimal digit. -/
def hexadecimalDigit? (c : Char) : Option Nat :=
  if c.isDigit then some (c.toNat - '0'.toNat)
  else if 'a' ≤ c && c ≤ 'f' then some (c.toNat - 'a'.toNat + 10)
  else if 'A' ≤ c && c ≤ 'F' then some (c.toNat - 'A'.toNat + 10)
  else none

/-- Reads a number of exactly so many hexadecimal digits. -/
def scanHexadecimal : Nat → Nat → List Char → Option (Nat × List Char)
  | 0, value, rest => some (value, rest)
  | _ + 1, _, [] => none
  | width + 1, value, c :: rest => do
    scanHexadecimal width (16 * value + (← hexadecimalDigit? c)) rest

/-- How many hexadecimal digits the escape with the given letter has. -/
def escapeWidth? (letter : Char) : Option Nat :=
  if letter = 'x' then some 2
  else if letter = 'u' then some 4
  else if letter = 'U' then some 8
  else none

/-- Reads a key whose opening quotation mark has been read, up to the closing
one. The escapes of code points are the only ones that can be part of the key
of a switch, so all others are refused. The number bounds the characters that
are read. -/
def scanQuotedKey : Nat → List Char → Option (List Char × List Char)
  | 0, _ | _, [] => none
  | bound + 1, c :: rest =>
    if c = '"' then some ([], rest)
    else if c = '\\' then
      match rest with
      | [] => none
      | letter :: digits => do
        let width ← escapeWidth? letter
        let (codePoint, after) ← scanHexadecimal width 0 digits
        if codePoint.isValidChar then
          let (key, after) ← scanQuotedKey bound after
          return (Char.ofNat codePoint :: key, after)
        else none
    else do
      let (key, after) ← scanQuotedKey bound rest
      return (c :: key, after)

/-- Reads a key between apostrophes, in which nothing is escaped. -/
def scanLiteralKey (chars : List Char) : Option (List Char × List Char) :=
  match chars.dropWhile (· ≠ '\'') with
  | [] => none
  | _ :: after => some (chars.takeWhile (· ≠ '\''), after)

/-- Reads the key of an assignment. -/
def scanKey (chars : List Char) : Option (List Char × List Char) :=
  match chars with
  | [] => none
  | c :: rest =>
    if c = '"' then scanQuotedKey rest.length rest
    else if c = '\'' then scanLiteralKey rest
    else if isBareKeyChar c then
      some (chars.takeWhile isBareKeyChar, chars.dropWhile isBareKeyChar)
    else none

/-- Reads a truth value. -/
def scanValue : List Char → Option (Bool × List Char)
  | 't' :: 'r' :: 'u' :: 'e' :: after => some (true, after)
  | 'f' :: 'a' :: 'l' :: 's' :: 'e' :: after => some (false, after)
  | _ => none

/-- Reads an assignment that starts a line. -/
def scanAssignment (chars : List Char) : Option (Assignment × List Char) := do
  let (key, afterKey) ← scanKey chars
  match skipBlanks afterKey with
  | '=' :: afterSign =>
    let (value, after) ← scanValue (skipBlanks afterSign)
    return (⟨String.ofList key, value⟩, after)
  | _ => none

/-- Reads a line: an assignment, or none if the line is blank. -/
def readLine (line : List Char) : Except Fault (Option Assignment) :=
  if isRestBlank line then .ok none
  else
    match scanAssignment (skipBlanks line) with
    | some (assignment, after) =>
      if isRestBlank after then .ok (some assignment)
      else .error (.malformedLine (String.ofList line))
    | none => .error (.malformedLine (String.ofList line))

/-- Carries out assignments on a dialect. The switches that have been assigned
are kept to refuse a second assignment. -/
def assign (dialect : Dialect) (assigned : List Switch) :
    List Assignment → Except Fault Dialect
  | [] => .ok dialect
  | ⟨key, value⟩ :: rest =>
    match Switch.ofKey? key with
    | none => .error (.unknownKey key)
    | some switch =>
      if switch ∈ assigned then .error (.repeatedKey key)
      else assign (dialect.set switch value) (switch :: assigned) rest

/-- Drops the mark that shows the byte order of an encoded document. -/
def dropByteOrderMark : List Char → List Char
  | '\uFEFF' :: rest => rest
  | chars => chars

/-- Reads the dialect that a document describes. -/
def read (document : String) : Except Fault Dialect := do
  let assignments ← (lines (dropByteOrderMark document.toList)).mapM readLine
  assign .standard [] (assignments.filterMap id)

end SqlTree.Document

/-- The dialect that a document describes; a fault is an error of
configuration. -/
def SqlTree.Dialect.ofDocument (document : String) : SqlTree.Build SqlTree.Dialect :=
  match SqlTree.Document.read document with
  | .ok dialect => pure dialect
  | .error fault => throw (.config fault.message)
