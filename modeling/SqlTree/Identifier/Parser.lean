import SqlTree.Identifier

/-!
# Reading identifiers

`Identifier.parse` reads a name as it is written in SQL: segments with dots
between them, each plain or between quotation marks. The first fault from the
left decides the answer. `Identifier.quote` takes a text as it stands for the
one quoted segment of a name.

A name that is read was written exactly as its segments are written
(`eq_of_scanSegments`), and the segments obey the rules of identifiers.
-/

namespace SqlTree

/-- What can be wrong with a name. -/
inductive NameFault where
  | empty
  | null
  | emptySegment
  | emptyQuoted
  | unclosedQuoted
  | invalidCharacter (c : Char)
  | trailingDot (name : String)
  | afterQuoted (c : Char) (name : String)
deriving DecidableEq

/-- The description of a fault. -/
def NameFault.message : NameFault → String
  | empty => "identifier cannot be empty"
  | null => "identifier cannot contain NUL"
  | emptySegment => "empty identifier segment"
  | emptyQuoted => "empty quoted identifier"
  | unclosedQuoted => "unclosed quoted identifier"
  | invalidCharacter c => "invalid character '" ++ c.toString ++ "' in identifier"
  | trailingDot name => "trailing '.' in `" ++ name ++ "`"
  | afterQuoted c name => "unexpected '" ++ c.toString ++ "' after quoted part in `" ++ name ++ "`"

namespace Identifier

open Segment

/-- Reads the rest of a plain segment, up to a dot or the end of the name. -/
def scanPlainRest : List Char → Except NameFault (List Char × List Char)
  | [] => .ok ([], [])
  | c :: rest =>
    if c = '.' then .ok ([], c :: rest)
    else if continuesPlain c then
      match scanPlainRest rest with
      | .ok (text, after) => .ok (c :: text, after)
      | .error fault => .error fault
    else .error (.invalidCharacter c)

/-- Reads one segment. Gives it and the characters after it. -/
def scanSegment : List Char → Except NameFault (Segment × List Char)
  | [] => .error .emptySegment
  | c :: rest =>
    if c = '"' then
      match Text.scanEnclosed '"' rest with
      | none => .error .unclosedQuoted
      | some ([], _) => .error .emptyQuoted
      | some (text, after) => .ok (.quoted (String.ofList text), after)
    else if c = '.' then .error .emptySegment
    else if startsPlain c then
      match scanPlainRest rest with
      | .ok (text, after) => .ok (.plain (String.ofList (c :: text)), after)
      | .error fault => .error fault
    else .error (.invalidCharacter c)

/-- Reads segments with dots between them, up to the end of the name. The
number bounds the segments that are read; the length of the name is enough,
since a segment takes at least one character. -/
def scanSegments (name : String) : Nat → List Char → Except NameFault (List Segment)
  | 0, _ => .error .emptySegment
  | bound + 1, chars =>
    match scanSegment chars with
    | .error fault => .error fault
    | .ok (segment, []) => .ok [segment]
    | .ok (segment, c :: rest) =>
      if c = '.' then
        if rest = [] then .error (.trailingDot name)
        else
          match scanSegments name bound rest with
          | .ok segments => .ok (segment :: segments)
          | .error fault => .error fault
      else .error (.afterQuoted c name)

/-- Reads the segments of a name. -/
def scan (name : String) : Except NameFault (List Segment) :=
  if name = "" then .error .empty
  else if '\x00' ∈ name.toList then .error .null
  else scanSegments name name.toList.length name.toList

/-- The rest of a plain segment holds the characters that were read, all of
which may go on a plain segment, and ends before a dot or at the end. -/
theorem eq_of_scanPlainRest {chars text after : List Char}
    (scanned : scanPlainRest chars = .ok (text, after)) :
    chars = text ++ after ∧ (∀ c ∈ text, continuesPlain c = true) ∧
      (after = [] ∨ after.head? = some '.') := by
  fun_induction scanPlainRest chars generalizing text after with
  | case1 => simp_all
  | case2 rest =>
    simp only [Except.ok.injEq, Prod.mk.injEq] at scanned
    obtain ⟨rfl, rfl⟩ := scanned
    simp
  | case3 c rest notDot continues read readAfter found inductionHypothesis =>
    simp only [Except.ok.injEq, Prod.mk.injEq] at scanned
    obtain ⟨rfl, rfl⟩ := scanned
    obtain ⟨same, all, ended⟩ := inductionHypothesis found
    exact ⟨by simp [same], by simpa using ⟨continues, all⟩, ended⟩
  | case4 => simp at scanned
  | case5 => simp at scanned

/-- A segment that is read was written as the segment is written, and obeys
the rules of segments if the input holds no null character. -/
theorem eq_of_scanSegment {chars after : List Char} {segment : Segment}
    (scanned : scanSegment chars = .ok (segment, after)) :
    chars = segment.sql.toList ++ after ∧ ('\x00' ∉ chars → segment.IsValid) := by
  unfold scanSegment at scanned
  split at scanned
  · simp at scanned
  · rename_i c rest
    split at scanned
    · rename_i isMark
      subst isMark
      split at scanned
      · simp at scanned
      · simp at scanned
      · rename_i text after' nonempty found
        simp only [Except.ok.injEq, Prod.mk.injEq] at scanned
        obtain ⟨rfl, rfl⟩ := scanned
        obtain ⟨rfl, -⟩ := Text.eq_of_scanEnclosed found
        refine ⟨by simp [Segment.sql, Text.enclose], fun noNull => ?_⟩
        refine ⟨by simpa using nonempty, fun member => noNull ?_⟩
        simp only [String.toList_ofList] at member
        simp [Text.mem_doubleMarks, member]
    · split at scanned
      · simp at scanned
      · split at scanned
        · rename_i starts
          split at scanned
          · rename_i text after' found
            simp only [Except.ok.injEq, Prod.mk.injEq] at scanned
            obtain ⟨rfl, rfl⟩ := scanned
            obtain ⟨rfl, all, -⟩ := eq_of_scanPlainRest found
            exact ⟨by simp [Segment.sql], fun _ => by
              simpa [Segment.IsValid, Segment.IsPlain] using ⟨starts, all⟩⟩
          · simp at scanned
        · simp at scanned

/-- The segments of a name that is read are at least one, are written as the
name was, and obey the rules of segments if the name holds no null
character. -/
theorem eq_of_scanSegments {name : String} {bound : Nat} {chars : List Char}
    {segments : List Segment} (scanned : scanSegments name bound chars = .ok segments) :
    segments ≠ [] ∧ chars = (sqlOfSegments segments).toList ∧
      ('\x00' ∉ chars → ∀ segment ∈ segments, segment.IsValid) := by
  induction bound generalizing chars segments with
  | zero => simp [scanSegments] at scanned
  | succ bound inductionHypothesis =>
    unfold scanSegments at scanned
    split at scanned
    · simp at scanned
    · rename_i segment found
      simp only [Except.ok.injEq] at scanned
      subst scanned
      obtain ⟨same, valid⟩ := eq_of_scanSegment found
      refine ⟨by simp, by simpa [sqlOfSegments] using same, ?_⟩
      simpa using valid
    · rename_i segment c rest found
      obtain ⟨same, valid⟩ := eq_of_scanSegment found
      split at scanned
      · rename_i isDot
        subst isDot
        split at scanned
        · simp at scanned
        · split at scanned
          · rename_i others foundOthers
            simp only [Except.ok.injEq] at scanned
            subst scanned
            obtain ⟨nonempty, sameRest, validRest⟩ := inductionHypothesis foundOthers
            refine ⟨by simp, ?_, fun noNull => ?_⟩
            · cases others with
              | nil => exact absurd rfl nonempty
              | cons second more =>
                rw [same, sameRest]
                simp [sqlOfSegments, List.intercalate]
            · subst same
              simp only [List.mem_append, List.mem_cons, not_or] at noNull
              intro segment' member
              rcases List.mem_cons.1 member with rfl | member
              · exact valid (by simp [noNull])
              · exact validRest noNull.2.2 segment' member
          · simp at scanned
      · simp at scanned

/-- The segments that `scan` reads make an identifier. -/
theorem isValid_of_scan {name : String} {segments : List Segment}
    (scanned : scan name = .ok segments) :
    segments ≠ [] ∧ ∀ segment ∈ segments, segment.IsValid := by
  unfold scan at scanned
  split at scanned
  · simp at scanned
  · split at scanned
    · simp at scanned
    · rename_i noNull
      obtain ⟨nonempty, -, valid⟩ := eq_of_scanSegments scanned
      exact ⟨nonempty, valid noNull⟩

/-- Reads a name that is written as in SQL. -/
def parse (name : String) : Except NameFault Identifier :=
  match scanned : scan name with
  | .ok segments => .ok ⟨segments, (isValid_of_scan scanned).1, (isValid_of_scan scanned).2⟩
  | .error fault => .error fault

/-- The identifier whose only segment is the given text, quoted. -/
def quote (text : String) : Except NameFault Identifier :=
  if nonempty : text.toList = [] then .error .emptyQuoted
  else if noNull : '\x00' ∈ text.toList then .error .null
  else .ok (ofQuotable text ⟨nonempty, noNull⟩)

end Identifier

/-- How a caller spells a name: as it is written in SQL, or as the bare text of
a name to be quoted. -/
inductive Spelling where
  | sql (name : String)
  | bare (text : String)
deriving DecidableEq

/-- The identifier that a spelling stands for. -/
def Spelling.identifier : Spelling → Except NameFault Identifier
  | sql name => Identifier.parse name
  | bare text => Identifier.quote text

end SqlTree
