import SqlTree.Proofs.Lexing
import SqlTree.Proofs.Phrase.Adjacency

/-!
# The spellings of tokens

What a reader of SQL takes the text of a token for: a keyword for a word, a name
for its segments with dots between them, a string for the value it holds. `Spells`
lists the tokens of a phrase with their lexemes. The text of such a token is
read as those lexemes wherever the next character cannot continue it
(`Spells.lexemes_append`), and tokens that can be neighbours are written so that
it cannot (`endsBefore_textAfter`).
-/

namespace SqlTree

/-- The lexeme of a segment of a name. -/
def Segment.lexeme : Segment → Lexeme
  | plain text => .word text
  | quoted text => .quoted text

/-- The lexemes of segments with dots between them. -/
def Segment.lexemes (segments : List Segment) : List Lexeme :=
  List.intercalate [.symbol "."] (segments.map fun segment => [segment.lexeme])

/-- The first of several segments has a dot after it. -/
theorem Segment.lexemes_cons_cons (segment next : Segment) (rest : List Segment) :
    Segment.lexemes (segment :: next :: rest) =
      segment.lexeme :: .symbol "." :: Segment.lexemes (next :: rest) := by
  simp [Segment.lexemes, List.intercalate_cons_cons]

/-- The lexemes of a name. -/
def Identifier.lexemes (identifier : Identifier) : List Lexeme :=
  Segment.lexemes identifier.segments

/-- The lexemes of a numeral: its sign if it has one, then its digits. -/
def Numeral.lexemes (numeral : Numeral) : List Lexeme :=
  (if numeral.negative then [.symbol "-"] else []) ++
    [.number (Numeral.text ⟨false, numeral.whole, numeral.fraction⟩)]

/-- The tokens of a phrase, and what each of them stands for. -/
inductive Spells : Token → List Lexeme → Prop where
  | keyword (word : Keyword) : Spells (.keyword word) [.word word.text]
  | wordCallee (word : Keyword) : Spells (.callee word.text) [.word word.text]
  | callee (name : Identifier) : Spells (.callee name.sql) name.lexemes
  | name (identifier : Identifier) : Spells (.identifier identifier.sql) identifier.lexemes
  | star : Spells (.identifier "*") [.symbol "*"]
  | number (numeral : Numeral) : Spells (.literal numeral.text) numeral.lexemes
  | text (value : String) : Spells (.literal (Text.enclose '\'' value)) [.string value]
  | placeholder (parameter : Placeholder) :
      Spells (.literal parameter.marker) [.marker parameter.marker]
  | operator {text : String} (operator : IsOperator text) :
      Spells (.operator text) [.symbol text]
  | minus : Spells .minus [.symbol "-"]
  | comma : Spells .comma [.symbol ","]
  | dot : Spells .dot [.symbol "."]
  | opening : Spells .opening [.symbol "("]
  | closing : Spells .closing [.symbol ")"]

/-- Whether a token of the kind is sure to end before the character. -/
def TokenKind.endsBefore (kind : TokenKind) (c : Char) : Bool :=
  match kind with
  | .keyword | .callee | .identifier => c ∈ [' ', ')', ',', '.', '(']
  | .literal | .operator => c ∈ [' ', ')', ',']
  | .unary => c ≠ '-'
  | .comma | .dot | .opening | .closing => true

/-- The only character of a token of the kind, if the kind decides it. -/
def TokenKind.mark : TokenKind → Option Char
  | .comma => some ','
  | .dot => some '.'
  | .opening => some '('
  | .closing => some ')'
  | .keyword | .callee | .identifier | .literal | .operator | .unary => none

variable {token : Token} {tokens : List Token} {found : List Lexeme} {after : List Char}

/-- Every token of a phrase stands for something. -/
theorem Phrase.spells {breadth : Breadth} (phrase : Phrase breadth tokens) :
    ∀ token ∈ tokens, ∃ found, Spells token found := by
  have wrapped : ∀ {inner : List Token}, (∀ token ∈ inner, ∃ found, Spells token found) →
      ∀ token ∈ parenthesized inner, ∃ found, Spells token found := by
    intro inner inside
    simp only [parenthesized, List.cons_append, List.forall_mem_cons, List.forall_mem_append]
    exact ⟨⟨_, .opening⟩, inside, ⟨_, .closing⟩, List.forall_mem_nil _⟩
  induction phrase with
  | keyword word => simpa using ⟨_, .keyword word⟩
  | number numeral => simpa using ⟨_, .number numeral⟩
  | text value => simpa using ⟨_, .text value⟩
  | placeholder parameter => simpa using ⟨_, .placeholder parameter⟩
  | name identifier => simpa using ⟨_, .name identifier⟩
  | star => simpa using ⟨_, .star⟩
  | member qualifier _ column =>
    simp only [List.forall_mem_cons]
    exact ⟨⟨_, .name qualifier⟩, ⟨_, .dot⟩, column _ (by simp), List.forall_mem_nil _⟩
  | emptyParentheses => exact wrapped (List.forall_mem_nil _)
  | parentheses _ inside => exact wrapped inside
  | call name _ arguments =>
    simp only [List.forall_mem_cons]
    exact ⟨⟨_, .callee name⟩, arguments⟩
  | wordCall word _ arguments =>
    simp only [List.forall_mem_cons]
    exact ⟨⟨_, .wordCallee word⟩, arguments⟩
  | append _ _ left right =>
    simp only [List.forall_mem_append]
    exact ⟨left, right⟩
  | operation _ operator _ _ left right =>
    simp only [List.forall_mem_append, List.forall_mem_cons]
    exact ⟨left, ⟨_, .operator operator⟩, right⟩
  | list _ _ left right =>
    simp only [List.forall_mem_append, List.forall_mem_cons]
    exact ⟨left, ⟨_, .comma⟩, right⟩
  | negation _ _ inside =>
    simp only [List.forall_mem_cons]
    exact ⟨⟨_, .minus⟩, inside⟩
  | emptyChoice =>
    simp only [List.forall_mem_cons]
    exact ⟨⟨_, .keyword _⟩, ⟨_, .keyword _⟩, List.forall_mem_nil _⟩
  | choice _ inside =>
    simp only [List.cons_append, List.forall_mem_append, List.forall_mem_cons]
    exact ⟨⟨_, .keyword _⟩, inside, ⟨_, .keyword _⟩, List.forall_mem_nil _⟩

/-- A keyword has the shape of a plain name. -/
theorem Keyword.isPlain_text (word : Keyword) : Segment.IsPlain word.text.toList := by
  cases word <;> decide

/-- No name or keyword goes on with what may follow it. -/
theorem stops_of_endsName (ends : ∀ c ∈ after.head?, c ∈ [' ', ')', ',', '.', '(']) :
    Stops Segment.continuesPlain after ∧ after.head? ≠ some '"' := by
  constructor
  · intro c isNext
    have among := ends c isNext
    simp only [List.mem_cons, List.not_mem_nil, or_false] at among
    rcases among with rfl | rfl | rfl | rfl | rfl <;> decide
  · intro isMark
    exact absurd (ends '"' isMark) (by decide)

/-- No literal or operator goes on with what may follow it. -/
theorem ne_of_endsLiteral {c : Char} (ends : ∀ c ∈ after.head?, c ∈ [' ', ')', ','])
    (other : c ∉ [' ', ')', ',']) : after.head? ≠ some c :=
  fun isNext => other (ends c isNext)

/-- A keyword is read as a word. -/
theorem lexemes_keyword (word : Keyword)
    (ends : ∀ c ∈ after.head?, c ∈ [' ', ')', ',', '.', '(']) :
    lexemes (word.text.toList ++ after) = .word word.text :: lexemes after := by
  have plain := word.isPlain_text
  cases shape : word.text.toList with
  | nil => simp [shape, Segment.IsPlain] at plain
  | cons first rest =>
    rw [shape] at plain
    rw [lexemes_word plain (stops_of_endsName ends).1, ← shape, String.ofList_toList]

/-- A segment is read as its lexeme. -/
theorem lexemes_segment {segment : Segment} (valid : segment.IsValid)
    (ends : ∀ c ∈ after.head?, c ∈ [' ', ')', ',', '.', '(']) :
    lexemes (segment.sql.toList ++ after) = segment.lexeme :: lexemes after := by
  obtain ⟨stops, closed⟩ := stops_of_endsName ends
  cases segment with
  | plain text =>
    rw [Segment.sql, Segment.lexeme]
    cases shape : text.toList with
    | nil => simp [Segment.IsValid, shape, Segment.IsPlain] at valid
    | cons first rest =>
      rw [Segment.IsValid, shape] at valid
      rw [lexemes_word valid stops, ← shape, String.ofList_toList]
  | quoted text => exact lexemes_quoted text closed

/-- Segments are read one after the other. -/
theorem lexemes_segments {segments : List Segment} (nonempty : segments ≠ [])
    (valid : ∀ segment ∈ segments, segment.IsValid)
    (ends : ∀ c ∈ after.head?, c ∈ [' ', ')', ',', '.', '(']) :
    lexemes ((Identifier.sqlOfSegments segments).toList ++ after) =
      Segment.lexemes segments ++ lexemes after := by
  induction segments with
  | nil => exact absurd rfl nonempty
  | cons segment rest inductionHypothesis =>
    have validSegment := valid segment (by simp)
    cases rest with
    | nil =>
      simpa [Identifier.sqlOfSegments, Segment.lexemes] using lexemes_segment validSegment ends
    | cons next rest =>
      have following := inductionHypothesis (by simp) fun segment member =>
        valid segment (by simp [member])
      have first : lexemes (segment.sql.toList ++
          '.' :: ((Identifier.sqlOfSegments (next :: rest)).toList ++ after)) =
          segment.lexeme :: .symbol "." :: (Segment.lexemes (next :: rest) ++ lexemes after) := by
        rw [lexemes_segment validSegment (by simp),
          lexemes_symbol '.' [] (by decide) (by simp), following]
      rw [Segment.lexemes_cons_cons]
      simpa [Identifier.sqlOfSegments] using first

/-- Digits do not start with a minus sign. -/
theorem Digits.head_ne_minus (digits : Digits) (more : List Char) :
    (digits.chars ++ more).head? ≠ some '-' := by
  obtain ⟨chars, nonempty, areDigits⟩ := digits
  cases chars with
  | nil => exact absurd rfl nonempty
  | cons first rest =>
    intro isMinus
    have same : first = '-' := by simpa using isMinus
    have digit := areDigits first (by simp)
    rw [same] at digit
    exact absurd digit (by decide)

/-- The characters of a numeral. -/
theorem Numeral.toList_text (negative : Bool) (whole : Digits) (fraction : Option Digits) :
    (Numeral.text ⟨negative, whole, fraction⟩).toList =
      (if negative then ['-'] else []) ++ (whole.chars ++ Numeral.fractionChars fraction) := by
  cases negative <;> cases fraction <;> simp [Numeral.text, Digits.text, Numeral.fractionChars]

/-- A numeral is read as its sign, if it has one, and its digits. -/
theorem lexemes_numeral (numeral : Numeral) (ends : ∀ c ∈ after.head?, c ∈ [' ', ')', ',']) :
    lexemes (numeral.text.toList ++ after) = numeral.lexemes ++ lexemes after := by
  obtain ⟨negative, whole, fraction⟩ := numeral
  have stops : Stops (fun c => c.isDigit || c = '.') after := by
    intro c isNext
    have among := ends c isNext
    simp only [List.mem_cons, List.not_mem_nil, or_false] at among
    rcases among with rfl | rfl | rfl <;> decide
  have digits : String.ofList (whole.chars ++ Numeral.fractionChars fraction) =
      Numeral.text ⟨false, whole, fraction⟩ := by
    rw [← String.ofList_toList (s := Numeral.text ⟨false, whole, fraction⟩),
      Numeral.toList_text]
    rfl
  have unsigned := lexemes_digits whole fraction stops
  rw [digits] at unsigned
  rw [Numeral.toList_text, Numeral.lexemes]
  cases negative with
  | false => simpa using unsigned
  | true =>
    have notComment : (whole.chars ++ Numeral.fractionChars fraction ++ after).head? ≠
        some '-' := by
      rw [List.append_assoc]
      exact whole.head_ne_minus _
    have signed := lexemes_unlessComment '-' '-' (by decide) notComment
    rw [unsigned] at signed
    simpa using signed

/-- A placeholder is read as a marker. -/
theorem lexemes_placeholder (parameter : Placeholder)
    (ends : ∀ c ∈ after.head?, c ∈ [' ', ')', ',']) :
    lexemes (parameter.marker.toList ++ after) = .marker parameter.marker :: lexemes after := by
  obtain ⟨marker, valid⟩ := parameter
  have stops : Stops Placeholder.continuesMarker after := by
    intro c isNext
    have among := ends c isNext
    simp only [List.mem_cons, List.not_mem_nil, or_false] at among
    rcases among with rfl | rfl | rfl <;> decide
  cases shape : marker.toList with
  | nil => simp [shape, Placeholder.IsMarker] at valid
  | cons sign rest =>
    rw [shape] at valid
    rw [lexemes_marker valid stops, ← shape, String.ofList_toList]

/-- An operator is read as a symbol. -/
theorem lexemes_operator {text : String} (operator : IsOperator text)
    (ends : ∀ c ∈ after.head?, c ∈ [' ', ')', ',']) :
    lexemes (text.toList ++ after) = .symbol text :: lexemes after := by
  have plain : ∀ (c : Char) (longer : List Char), Opening.of c = .symbol longer →
      (∀ d ∈ [' ', ')', ','], d ∉ longer) →
      lexemes (c :: after) = .symbol (String.ofList [c]) :: lexemes after :=
    fun c longer opens apart =>
      lexemes_symbol c longer opens fun next isNext => apart next (ends next isNext)
  have unlessComment : ∀ c second : Char, Opening.of c = .symbolOrComment second →
      second ∉ [' ', ')', ','] →
      lexemes (c :: after) = .symbol (String.ofList [c]) :: lexemes after :=
    fun c second opens other =>
      lexemes_unlessComment c second opens (ne_of_endsLiteral ends other)
  rcases operator with ⟨operator, rfl⟩ | ⟨operator, rfl⟩
  · cases operator with
    | add => exact plain '+' [] (by decide) (by simp)
    | subtract => exact unlessComment '-' '-' (by decide) (by decide)
    | multiply => exact plain '*' [] (by decide) (by simp)
    | divide => exact unlessComment '/' '*' (by decide) (by decide)
    | modulus => exact plain '%' [] (by decide) (by simp)
  · cases operator with
    | equal => exact plain '=' [] (by decide) (by simp)
    | notEqual => exact lexemes_longSymbol '<' '>' ['=', '>'] (by decide) (by decide)
    | less => exact plain '<' ['=', '>'] (by decide) (by simp)
    | lessOrEqual => exact lexemes_longSymbol '<' '=' ['=', '>'] (by decide) (by decide)
    | greater => exact plain '>' ['='] (by decide) (by simp)
    | greaterOrEqual => exact lexemes_longSymbol '>' '=' ['='] (by decide) (by decide)

/-- The text of a token is read as what the token stands for, and reading stops
right after it. -/
theorem Spells.lexemes_append (spelled : Spells token found)
    (ends : ∀ c ∈ after.head?, token.kind.endsBefore c = true) :
    lexemes (token.text.toList ++ after) = found ++ lexemes after := by
  have among : ∀ {marks : List Char}, (∀ c ∈ after.head?, decide (c ∈ marks) = true) →
      ∀ c ∈ after.head?, c ∈ marks :=
    fun decided c isNext => of_decide_eq_true (decided c isNext)
  cases spelled with
  | keyword word => exact lexemes_keyword word (among ends)
  | wordCallee word => exact lexemes_keyword word (among ends)
  | callee name => exact lexemes_segments name.nonempty name.valid (among ends)
  | name identifier => exact lexemes_segments identifier.nonempty identifier.valid (among ends)
  | star => exact lexemes_symbol '*' [] (by decide) (by simp)
  | number numeral => exact lexemes_numeral numeral (among ends)
  | text value => exact lexemes_string value (ne_of_endsLiteral (among ends) (by decide))
  | placeholder parameter => exact lexemes_placeholder parameter (among ends)
  | operator operator => exact lexemes_operator operator (among ends)
  | minus =>
    refine lexemes_unlessComment '-' '-' (by decide) fun isMinus => ?_
    exact absurd (ends '-' isMinus) (by decide)
  | comma => exact lexemes_symbol ',' [] (by decide) (by simp)
  | dot => exact lexemes_symbol '.' [] (by decide) (by simp)
  | opening => exact lexemes_symbol '(' [] (by decide) (by simp)
  | closing => exact lexemes_symbol ')' [] (by decide) (by simp)

/-- The text of a token by itself is read as what the token stands for. -/
theorem Spells.lexemes_text (spelled : Spells token found) :
    lexemes token.text.toList = found := by
  have ends : ∀ c ∈ ([] : List Char).head?, token.kind.endsBefore c = true := nofun
  simpa using spelled.lexemes_append ends

/-- Segments have lexemes. -/
theorem Segment.lexemes_ne_nil {segments : List Segment} (nonempty : segments ≠ []) :
    Segment.lexemes segments ≠ [] := by
  cases segments with
  | nil => exact absurd rfl nonempty
  | cons segment rest =>
    cases rest with
    | nil => simp [Segment.lexemes]
    | cons next rest => simp [Segment.lexemes_cons_cons]

/-- A token of a phrase has a text. -/
theorem Spells.text_ne_nil (spelled : Spells token found) : token.text.toList ≠ [] := by
  have notNil : found ≠ [] := by
    cases spelled with
    | callee name => exact Segment.lexemes_ne_nil name.nonempty
    | name identifier => exact Segment.lexemes_ne_nil identifier.nonempty
    | number numeral => simp [Numeral.lexemes]
    | _ => simp
  intro empty
  have read := spelled.lexemes_text
  rw [empty, lexemes_nil] at read
  exact notNil read.symm

/-- A token of a phrase is the mark that its kind decides. -/
theorem Spells.text_eq_mark (spelled : Spells token found) :
    ∀ mark ∈ token.kind.mark, token.text.toList = [mark] := by
  cases spelled with
  | comma | dot | opening | closing => simp [TokenKind.mark, Token.comma, Token.dot,
      Token.opening, Token.closing]
  | _ =>
    intro mark isMark
    cases isMark

/-- Every token ends before a space. -/
theorem TokenKind.endsBefore_space (kind : TokenKind) : kind.endsBefore ' ' = true := by
  cases kind <;> rfl

/-- Without a space between them, a token ends before the mark of the next one,
unless the token is a mark itself or a unary sign. -/
theorem TokenKind.endsBefore_of_unspaced {previous next : TokenKind}
    (possible : previous.canPrecede next = true)
    (unspaced : next.isSpacedFrom previous = false) :
    previous = .unary ∨ previous.mark.isSome = true ∨
      next.mark.any previous.endsBefore = true := by
  cases previous <;> cases next <;> revert possible unspaced <;> decide

/-- A mark is never continued. -/
theorem TokenKind.endsBefore_of_mark {kind : TokenKind} (isMark : kind.mark.isSome = true)
    (c : Char) : kind.endsBefore c = true := by
  cases kind <;> first | rfl | simp [TokenKind.mark] at isMark

/-- A token ends before what is written after it. -/
theorem Token.endsBefore_textAfter {next : Token} (neighbours : token.CanPrecede next)
    (spelled : Spells next found) (rest : List Token) :
    ∀ c ∈ (Token.textAfter (some token.kind) (next :: rest)).toList.head?,
      token.kind.endsBefore c = true := by
  obtain ⟨possible, unsigned⟩ := neighbours
  intro c isNext
  rw [Token.textAfter, Token.gap] at isNext
  split at isNext
  · have isSpace : ' ' = c := by simpa using isNext
    rw [← isSpace]
    exact TokenKind.endsBefore_space _
  · rename_i unspaced
    have isFirst : next.text.toList.head? = some c := by
      cases shape : next.text.toList with
      | nil => exact absurd shape spelled.text_ne_nil
      | cons first more => simpa [shape] using isNext
    rcases TokenKind.endsBefore_of_unspaced possible (by simpa using unspaced) with
      isUnary | isMark | ends
    · rw [isUnary]
      have notMinus := unsigned isUnary
      simpa [startsWithMinus, isFirst, TokenKind.endsBefore] using notMinus
    · exact TokenKind.endsBefore_of_mark isMark c
    · obtain ⟨mark, isMark, ends⟩ := (Option.any_eq_true _ _).1 ends
      rw [spelled.text_eq_mark mark isMark] at isFirst
      have same : mark = c := by simpa using isFirst
      rwa [← same]

/-- Tokens that can be neighbours are read one after the other. -/
theorem lexemes_textAfter (previous : Option TokenKind)
    (chain : tokens.IsChain Token.CanPrecede)
    (spelled : ∀ token ∈ tokens, ∃ found, Spells token found) :
    lexemes (Token.textAfter previous tokens).toList =
      tokens.flatMap fun token => lexemes token.text.toList := by
  induction tokens generalizing previous with
  | nil => simp [Token.textAfter]
  | cons token rest inductionHypothesis =>
    obtain ⟨found, spells⟩ := spelled token (by simp)
    have following := inductionHypothesis (some token.kind) chain.tail fun token member =>
      spelled token (by simp [member])
    have ends : ∀ c ∈ (Token.textAfter (some token.kind) rest).toList.head?,
        token.kind.endsBefore c = true := by
      cases rest with
      | nil => simp [Token.textAfter]
      | cons next more =>
        obtain ⟨_, spellsNext⟩ := spelled next (by simp)
        exact Token.endsBefore_textAfter chain.rel spellsNext more
    have unspaced : lexemes (Token.textAfter previous (token :: rest)).toList =
        lexemes (token.text ++ Token.textAfter (some token.kind) rest).toList := by
      rw [Token.textAfter]
      unfold Token.gap
      split
      · simp
      · split <;> simp
    rw [unspaced, String.toList_append, spells.lexemes_append ends, following,
      List.flatMap_cons, spells.lexemes_text]

/-- The text of a phrase is read as its tokens, one after the other. -/
theorem Phrase.lexemes_textOf {breadth : Breadth} (phrase : Phrase breadth tokens) :
    lexemes (Token.textOf tokens).toList =
      tokens.flatMap fun token => lexemes token.text.toList :=
  lexemes_textAfter none phrase.joined.chain phrase.spells

end SqlTree
