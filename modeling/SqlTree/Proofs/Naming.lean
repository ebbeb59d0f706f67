import SqlTree.Proofs.Spelling.Distinct
import SqlTree.Source

/-!
# Names and their written form

Reading a name and writing an identifier are inverse to each other
(`Identifier.parse_eq_ok_iff`). The reader accepts exactly the texts that are
written for a sequence of segments that obey the rules, and it answers with those
segments: nothing is normalised, and no other text is let through.

One direction is in the reader itself, which takes nothing off its input but
segments and the dots between them (`eq_of_scanSegments`). The other one is here:
a written segment is read up to the dot or the end that follows it, whatever its
characters are, so a written sequence of segments is read segment by segment.
-/

namespace SqlTree

variable {c : Char} {text after : List Char} {segment : Segment} {segments : List Segment}

namespace Segment

/-- A plain segment goes on with every character that it can start with. -/
theorem continuesPlain_of_startsPlain (starts : startsPlain c = true) :
    continuesPlain c = true := by
  simp only [startsPlain, Bool.or_eq_true, decide_eq_true_eq] at starts
  rcases starts with rfl | letter
  · rfl
  · simp [continuesPlain, Text.isLetterOrNumber_of_isLetter letter]

/-- A plain segment does not hold the dot, the quotation mark and the null
character. -/
theorem ne_of_continuesPlain (continues : continuesPlain c = true) :
    c ≠ '.' ∧ c ≠ '"' ∧ c ≠ '\x00' := by
  refine ⟨?_, ?_, ?_⟩ <;> rintro rfl
  · simp [continuesPlain, Text.isLetterOrNumber_dot] at continues
  · simp [continuesPlain, Text.isLetterOrNumber_quotationMark] at continues
  · simp [continuesPlain, Text.isLetterOrNumber_null] at continues

/-- A written segment is not empty. -/
theorem toList_sql_ne_nil (valid : segment.IsValid) : segment.sql.toList ≠ [] := by
  cases segment with
  | plain text =>
    intro empty
    have shape : IsPlain text.toList := valid
    rw [show text.toList = [] from empty] at shape
    exact shape
  | quoted text => simp [sql, Text.enclose]

/-- A written segment holds no null character. -/
theorem null_notMem_sql (valid : segment.IsValid) : '\x00' ∉ segment.sql.toList := by
  cases segment with
  | plain text =>
    have shape : IsPlain text.toList := valid
    change '\x00' ∉ text.toList
    cases characters : text.toList with
    | nil => simp
    | cons first rest =>
      rw [characters] at shape
      obtain ⟨starts, continues⟩ := shape
      rintro (_ | ⟨_, member⟩)
      · exact (ne_of_continuesPlain (continuesPlain_of_startsPlain starts)).2.2 rfl
      · exact (ne_of_continuesPlain (continues _ member)).2.2 rfl
  | quoted text =>
    have noNull : '\x00' ∉ text.toList := valid.2
    simpa [sql, Text.enclose, Text.mem_doubleMarks] using noNull

end Segment

namespace Identifier

open Segment

/-- The first of several segments is written before a dot and the others. -/
theorem toList_sqlOfSegments_cons_cons (segment next : Segment) (rest : List Segment) :
    (sqlOfSegments (segment :: next :: rest)).toList =
      segment.sql.toList ++ '.' :: (sqlOfSegments (next :: rest)).toList := by
  simp [sqlOfSegments]

/-- One segment is written as it is. -/
theorem sqlOfSegments_singleton (segment : Segment) :
    sqlOfSegments [segment] = segment.sql := by
  simp [sqlOfSegments]

/-- The rest of a plain segment is read up to a dot or the end. -/
theorem scanPlainRest_append (continues : ∀ c ∈ text, continuesPlain c = true)
    (ended : after = [] ∨ after.head? = some '.') :
    scanPlainRest (text ++ after) = .ok (text, after) := by
  induction text with
  | nil =>
    cases after with
    | nil => rfl
    | cons next rest =>
      have isDot : next = '.' := by simpa using ended
      simp [scanPlainRest, isDot]
  | cons c rest inductionHypothesis =>
    have continuesHere : continuesPlain c = true := continues c (by simp)
    have notDot : c ≠ '.' := (ne_of_continuesPlain continuesHere).1
    have following := inductionHypothesis fun c member => continues c (by simp [member])
    simp [scanPlainRest, notDot, continuesHere, following]

/-- A written segment is read back whole, up to the dot or the end after it. -/
theorem scanSegment_append (valid : segment.IsValid)
    (ended : after = [] ∨ after.head? = some '.') :
    scanSegment (segment.sql.toList ++ after) = .ok (segment, after) := by
  cases segment with
  | plain text =>
    have shape : IsPlain text.toList := valid
    change scanSegment (text.toList ++ after) = _
    cases characters : text.toList with
    | nil =>
      rw [characters] at shape
      exact shape.elim
    | cons first rest =>
      rw [characters] at shape
      obtain ⟨starts, continues⟩ := shape
      obtain ⟨notDot, notMark, -⟩ :=
        ne_of_continuesPlain (continuesPlain_of_startsPlain starts)
      have whole : String.ofList (first :: rest) = text := by simp [← characters]
      simp [scanSegment, notMark, notDot, starts, scanPlainRest_append continues ended, whole]
  | quoted text =>
    obtain ⟨notEmpty, -⟩ : IsQuotable text.toList := valid
    have notClosedAgain : after.head? ≠ some '"' := by
      rcases ended with rfl | isDot
      · simp
      · simp [isDot]
    have read := Text.scanEnclosed_append '"' text.toList after notClosedAgain
    have input : (quoted text).sql.toList ++ after =
        '"' :: (Text.doubleMarks '"' text.toList ++ '"' :: after) := by
      simp [Segment.sql, Text.enclose]
    rw [input, scanSegment, if_pos rfl, read]
    cases characters : text.toList with
    | nil => exact absurd characters notEmpty
    | cons first rest => simp [← characters]

/-- Written segments are read back one after the other. The bound on their number
is met by the length of what is written, for every segment takes a character. -/
theorem scanSegments_sqlOfSegments (name : String) {bound : Nat} (notNil : segments ≠ [])
    (valid : ∀ segment ∈ segments, segment.IsValid)
    (enough : (sqlOfSegments segments).toList.length ≤ bound) :
    scanSegments name bound (sqlOfSegments segments).toList = .ok segments := by
  induction segments generalizing bound with
  | nil => exact absurd rfl notNil
  | cons segment rest inductionHypothesis =>
    have validHere : segment.IsValid := valid segment (by simp)
    have taken : 0 < segment.sql.toList.length :=
      List.length_pos_of_ne_nil (toList_sql_ne_nil validHere)
    cases rest with
    | nil =>
      rw [sqlOfSegments_singleton] at enough ⊢
      have read := scanSegment_append validHere (.inl rfl : ([] : List Char) = [] ∨ _)
      rw [List.append_nil] at read
      cases bound with
      | zero => omega
      | succ bound => simp [scanSegments, read]
    | cons next more =>
      rw [toList_sqlOfSegments_cons_cons] at enough ⊢
      rw [List.length_append, List.length_cons] at enough
      have validRest : ∀ segment ∈ next :: more, segment.IsValid :=
        fun segment member => valid segment (List.mem_cons_of_mem _ member)
      have restNotNil : (sqlOfSegments (next :: more)).toList ≠ [] := by
        have nextNotNil := toList_sql_ne_nil (validRest next (by simp))
        cases more with
        | nil => simpa [sqlOfSegments_singleton] using nextNotNil
        | cons => simp [toList_sqlOfSegments_cons_cons]
      have read := scanSegment_append validHere
        (.inr rfl : _ ∨ ('.' :: (sqlOfSegments (next :: more)).toList).head? = some '.')
      cases bound with
      | zero => omega
      | succ bound =>
        have following : scanSegments name bound (sqlOfSegments (next :: more)).toList =
            .ok (next :: more) := inductionHypothesis (by simp) validRest (by omega)
        simp [scanSegments, read, restNotNil, following]

/-- Written segments hold no null character. -/
theorem null_notMem_sqlOfSegments (valid : ∀ segment ∈ segments, segment.IsValid) :
    '\x00' ∉ (sqlOfSegments segments).toList := by
  induction segments with
  | nil => simp [sqlOfSegments]
  | cons segment rest inductionHypothesis =>
    have here := null_notMem_sql (valid segment (by simp))
    have following := inductionHypothesis fun segment member => valid segment (by simp [member])
    cases rest with
    | nil => simpa [sqlOfSegments_singleton] using here
    | cons next more =>
      simp [toList_sqlOfSegments_cons_cons, here, following]

/-- Segments that obey the rules are read back from how they are written, and
nothing else is read as them. -/
theorem scan_eq_ok_iff {name : String} :
    scan name = .ok segments ↔
      segments ≠ [] ∧ (∀ segment ∈ segments, segment.IsValid) ∧ sqlOfSegments segments = name := by
  constructor
  · intro scanned
    obtain ⟨notNil, valid⟩ := isValid_of_scan scanned
    refine ⟨notNil, valid, ?_⟩
    rw [scan] at scanned
    split at scanned
    · simp at scanned
    · split at scanned
      · simp at scanned
      · exact (String.toList_injective (eq_of_scanSegments scanned).2.1).symm
  · rintro ⟨notNil, valid, rfl⟩
    have read := scanSegments_sqlOfSegments (sqlOfSegments segments) notNil valid (Nat.le_refl _)
    have notEmpty : sqlOfSegments segments ≠ "" := by
      intro empty
      rw [empty] at read
      simp [scanSegments] at read
    rw [scan, if_neg notEmpty, if_neg (null_notMem_sqlOfSegments valid), read]

/-- An identifier is read from a name exactly if its segments are. -/
theorem parse_eq_ok_iff_scan {name : String} {identifier : Identifier} :
    parse name = .ok identifier ↔ scan name = .ok identifier.segments := by
  rw [parse]
  split
  · rename_i segments scanned
    constructor
    · rintro ⟨⟩
      exact scanned
    · intro scannedOther
      have same : segments = identifier.segments := by simpa [scanned] using scannedOther
      exact congrArg Except.ok (Identifier.ext same)
  · rename_i fault scanned
    simp [scanned]

/-- An identifier is read from the name that is written for it, and from no other
one. -/
theorem parse_eq_ok_iff {name : String} {identifier : Identifier} :
    parse name = .ok identifier ↔ identifier.sql = name := by
  rw [parse_eq_ok_iff_scan, scan_eq_ok_iff]
  constructor
  · exact fun ⟨_, _, written⟩ => written
  · exact fun written => ⟨identifier.nonempty, identifier.valid, written⟩

/-- A text is taken for a quoted name exactly if it is not empty and holds no null
character, and the name is its only segment. -/
theorem quote_eq_ok_iff {text : String} {identifier : Identifier} :
    quote text = .ok identifier ↔
      ∃ quotable : IsQuotable text.toList, identifier = ofQuotable text quotable := by
  rw [quote]
  split
  · rename_i empty
    simp [IsQuotable, empty]
  · rename_i notEmpty
    split
    · rename_i null
      simp [IsQuotable, null]
    · rename_i noNull
      have quotable : IsQuotable text.toList := ⟨notEmpty, noNull⟩
      simp [quotable, eq_comm]

end Identifier

/-- Sources have the same key exactly if they go by the same name, or by none. -/
theorem Source.key?_eq_iff {first second : Source} :
    first.key? = second.key? ↔ first.naming? = second.naming? :=
  (Option.map_injective fun _ _ => Identifier.sql_injective).eq_iff

/-- Reading names and writing them are inverse to each other. A name is read as some
segments exactly if there is one at least, they obey the rules, and they are
written as the name is; so every identifier is read back from its written form and
from no other text, identifiers that are written alike are the same, and sources
have the same key exactly if they go by the same name. A text that can be quoted
makes a name whose written form is read as that name, and the text is what it is
called. -/
theorem Identifier.parse_inverse_sql :
    (∀ (name : String) (segments : List Segment),
      (∃ identifier, parse name = .ok identifier ∧ identifier.segments = segments) ↔
        segments ≠ [] ∧ (∀ segment ∈ segments, segment.IsValid) ∧
          sqlOfSegments segments = name) ∧
      (∀ (name : String) (identifier : Identifier),
        parse name = .ok identifier ↔ identifier.sql = name) ∧
      (∀ first second : Identifier, first.sql = second.sql ↔ first = second) ∧
      (∀ first second : Source, first.key? = second.key? ↔ first.naming? = second.naming?) ∧
      ∀ text : String,
        ((∃ identifier, quote text = .ok identifier) ↔ text ≠ "" ∧ '\x00' ∉ text.toList) ∧
          ∀ identifier, quote text = .ok identifier →
            parse identifier.sql = .ok identifier ∧ identifier.segments = [.quoted text] ∧
              identifier.baseName = text := by
  refine ⟨fun name segments => ?_, fun name identifier => parse_eq_ok_iff, ?_, ?_, fun text => ?_⟩
  · constructor
    · rintro ⟨identifier, read, rfl⟩
      exact scan_eq_ok_iff.1 (parse_eq_ok_iff_scan.1 read)
    · intro conditions
      exact ⟨⟨segments, conditions.1, conditions.2.1⟩,
        parse_eq_ok_iff_scan.2 (scan_eq_ok_iff.2 conditions), rfl⟩
  · exact fun first second => ⟨sql_injective, congrArg sql⟩
  · exact fun first second => Source.key?_eq_iff
  · refine ⟨?_, fun identifier quoted => ?_⟩
    · simp [quote_eq_ok_iff, Segment.IsQuotable]
    · obtain ⟨quotable, rfl⟩ := quote_eq_ok_iff.1 quoted
      exact ⟨parse_eq_ok_iff.2 rfl, rfl, rfl⟩

/-- A text that holds a quotation mark and a dot makes a name of one segment, which
is read back from its written form. -/
theorem Identifier.parse_inverse_sql_of_mark :
    let text := "a\".b"
    let name := ofQuotable text (by decide)
    quote text = .ok name ∧ name.sql = "\"a\"\".b\"" ∧ parse "\"a\"\".b\"" = .ok name ∧
      name.baseName = text := by
  intro text name
  have quoted : quote text = .ok name := quote_eq_ok_iff.2 ⟨by decide, rfl⟩
  have written : name.sql = "\"a\"\".b\"" := by decide
  have inverse := Identifier.parse_inverse_sql.2.2.2.2 text
  obtain ⟨read, -, called⟩ := inverse.2 name quoted
  exact ⟨quoted, written, written ▸ read, called⟩

end SqlTree
