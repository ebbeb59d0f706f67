import SqlTree.Statement

/-!
# Phrases

The shapes that rendered token sequences have, whatever tree they come from. A
`Phrase` is built from names, literals and keywords by writing one after the
other, by operators and commas between two phrases, by parentheses, and by
`CASE` and `END` around a body. It says nothing about the order of clauses; it
says which tokens can be neighbours, and what stands outside parentheses.

Where a part of a statement may vanish, its tokens are an `OptionalPhrase`. The
combinators that put the tokens of a whole together from those of its parts
each make a phrase of phrases.
-/

namespace SqlTree

/-- Whether a keyword starts a clause of a statement or joins two queries. -/
def Keyword.startsClause : Keyword → Bool
  | .select | .from | .where | .group | .having | .order => true
  | .union | .intersect | .except | .minus => true
  | .insert | .into | .update | .set | .delete => true
  | _ => false

/-- How much of a statement a phrase can hold outside its parentheses. -/
inductive Breadth where
  /-- One value: no operator and no connective outside parentheses and `CASE`. -/
  | value
  /-- One element of a list: no comma and no start of a clause. -/
  | element
  | clause
deriving DecidableEq

/-- The place of a breadth in the order from narrow to wide. -/
def Breadth.rank : Breadth → Nat
  | value => 0
  | element => 1
  | clause => 2

/-- The keywords that stand by themselves in a phrase of a breadth. The two
keywords that enclose a choice never do. -/
def Breadth.admits (breadth : Breadth) (word : Keyword) : Bool :=
  word ≠ .case && word ≠ .end &&
    match breadth with
    | .value => word = .null || word = .over
    | .element => !word.startsClause
    | .clause => true

/-- The spellings of operators between two operands. -/
def IsOperator (text : String) : Prop :=
  (∃ operator : ArithmeticOperator, text = operator.text) ∨
    ∃ operator : ComparisonOperator, text = operator.text

/-- The shapes of rendered token sequences. -/
inductive Phrase : Breadth → List Token → Prop where
  | keyword {breadth : Breadth} (word : Keyword) (admitted : breadth.admits word = true) :
      Phrase breadth [.keyword word]
  | number {breadth : Breadth} (numeral : Numeral) : Phrase breadth [.literal numeral.text]
  | text {breadth : Breadth} (value : String) :
      Phrase breadth [.literal (Text.enclose '\'' value)]
  | placeholder {breadth : Breadth} (parameter : Placeholder) :
      Phrase breadth [.literal parameter.marker]
  | name {breadth : Breadth} (identifier : Identifier) :
      Phrase breadth [.identifier identifier.sql]
  | star {breadth : Breadth} : Phrase breadth [.identifier "*"]
  | member {breadth : Breadth} (qualifier : Identifier) {text : String}
      (column : Phrase breadth [.identifier text]) :
      Phrase breadth [.identifier qualifier.sql, .dot, .identifier text]
  | emptyParentheses {breadth : Breadth} : Phrase breadth (parenthesized [])
  | parentheses {breadth : Breadth} {inner : List Token} (inside : Phrase .clause inner) :
      Phrase breadth (parenthesized inner)
  | call {breadth : Breadth} (name : Identifier) {inner : List Token}
      (arguments : Phrase breadth (parenthesized inner)) :
      Phrase breadth (.callee name.sql :: parenthesized inner)
  | wordCall {breadth : Breadth} (word : Keyword) {inner : List Token}
      (arguments : Phrase breadth (parenthesized inner)) :
      Phrase breadth (.callee word.text :: parenthesized inner)
  | append {breadth : Breadth} {first second : List Token} (left : Phrase breadth first)
      (right : Phrase breadth second) : Phrase breadth (first ++ second)
  | operation {breadth : Breadth} (wide : breadth ≠ .value) {text : String}
      (operator : IsOperator text) {first second : List Token} (left : Phrase breadth first)
      (right : Phrase breadth second) : Phrase breadth (first ++ .operator text :: second)
  | list {first second : List Token} (left : Phrase .clause first)
      (right : Phrase .clause second) : Phrase .clause (first ++ .comma :: second)
  | negation {breadth : Breadth} {operand : List Token} (inside : Phrase breadth operand)
      (unsigned : (operand.head?.any fun token => startsWithMinus token.text) = false) :
      Phrase breadth (.minus :: operand)
  | emptyChoice {breadth : Breadth} : Phrase breadth [.keyword .case, .keyword .end]
  | choice {breadth : Breadth} {body : List Token} (inside : Phrase .element body) :
      Phrase breadth (.keyword .case :: body ++ [.keyword .end])

/-- A phrase, or nothing. -/
def OptionalPhrase (breadth : Breadth) (tokens : List Token) : Prop :=
  tokens = [] ∨ Phrase breadth tokens

variable {breadth : Breadth} {first second tokens : List Token}

/-- A breadth admits no keyword that a wider one refuses. -/
theorem Breadth.admits_of_rank_le {narrow wide : Breadth} {word : Keyword}
    (within : narrow.rank ≤ wide.rank) (admitted : narrow.admits word = true) :
    wide.admits word = true := by
  cases narrow <;> cases wide <;> cases word <;> revert within admitted <;> decide

namespace Phrase

/-- A phrase can stand wherever a broader one can. -/
theorem widen {narrow wide : Breadth} (phrase : Phrase narrow tokens)
    (within : narrow.rank ≤ wide.rank) : Phrase wide tokens := by
  induction phrase with
  | keyword word admitted => exact .keyword word (Breadth.admits_of_rank_le within admitted)
  | number numeral => exact .number numeral
  | text value => exact .text value
  | placeholder parameter => exact .placeholder parameter
  | name identifier => exact .name identifier
  | star => exact .star
  | member qualifier _ column => exact .member qualifier (column within)
  | emptyParentheses => exact .emptyParentheses
  | parentheses inside _ => exact .parentheses inside
  | call name _ arguments => exact .call name (arguments within)
  | wordCall word _ arguments => exact .wordCall word (arguments within)
  | append _ _ left right => exact .append (left within) (right within)
  | @operation narrow isWide _ operator _ _ _ _ left right =>
    have stillWide : wide ≠ .value := by
      rintro rfl
      cases narrow <;> simp_all [Breadth.rank]
    exact .operation stillWide operator (left within) (right within)
  | list left right _ _ =>
    have same : wide = .clause := by
      cases wide <;> simp_all [Breadth.rank]
    subst same
    exact .list left right
  | negation _ unsigned inside => exact .negation (inside within) unsigned
  | emptyChoice => exact .emptyChoice
  | choice inside _ => exact .choice inside

/-- Every phrase can stand between parentheses. -/
theorem toClause (phrase : Phrase breadth tokens) : Phrase .clause tokens :=
  phrase.widen (by cases breadth <;> decide)

/-- A value can stand anywhere. -/
theorem ofValue (phrase : Phrase .value tokens) : Phrase breadth tokens :=
  phrase.widen (Nat.zero_le _)

/-- A phrase is something. -/
theorem ne_nil (phrase : Phrase breadth tokens) : tokens ≠ [] := by
  induction phrase with
  | append _ _ notNil _ => exact List.append_ne_nil_of_left_ne_nil notNil _
  | _ => simp [parenthesized]

/-- A phrase may be followed by nothing. -/
theorem appendOptional (left : Phrase breadth first) (right : OptionalPhrase breadth second) :
    Phrase breadth (first ++ second) := by
  rcases right with rfl | right
  · simpa using left
  · exact .append left right

/-- A keyword in front of a phrase. -/
theorem cons {word : Keyword} (admitted : breadth.admits word = true)
    (right : Phrase breadth tokens) : Phrase breadth (.keyword word :: tokens) :=
  .append (.keyword word admitted) right

/-- A keyword in front of a phrase that may be missing. -/
theorem consOptional {word : Keyword} (admitted : breadth.admits word = true)
    (right : OptionalPhrase breadth tokens) : Phrase breadth (.keyword word :: tokens) :=
  (Phrase.keyword word admitted).appendOptional right

/-- Keywords in front of a phrase. -/
theorem words {words : List Keyword} (admitted : ∀ word ∈ words, breadth.admits word = true)
    (right : Phrase breadth tokens) : Phrase breadth (words.map Token.keyword ++ tokens) := by
  induction words with
  | nil => simpa using right
  | cons word rest inductionHypothesis =>
    have following := inductionHypothesis fun word member => admitted word (by simp [member])
    exact .cons (admitted word (by simp)) following

/-- Parentheses on demand. -/
theorem parenthesizedIf (wrapped : Bool) (phrase : Phrase breadth tokens) :
    Phrase breadth (parenthesizedIf wrapped tokens) := by
  cases wrapped with
  | false => exact phrase
  | true => exact .parentheses phrase.toClause

end Phrase

namespace OptionalPhrase

/-- Nothing is allowed. -/
theorem nil : OptionalPhrase breadth [] :=
  .inl rfl

/-- A phrase that may be missing may stand wherever a broader one may. -/
theorem toClause (optional : OptionalPhrase breadth tokens) : OptionalPhrase .clause tokens :=
  optional.imp id Phrase.toClause

/-- Two phrases that may be missing, one after the other. -/
theorem append (left : OptionalPhrase breadth first) (right : OptionalPhrase breadth second) :
    OptionalPhrase breadth (first ++ second) := by
  rcases left with rfl | left
  · simpa using right
  · exact .inr (left.appendOptional right)

/-- A phrase that may be missing, before one that is there. -/
theorem appendPhrase (left : OptionalPhrase breadth first) (right : Phrase breadth second) :
    Phrase breadth (first ++ second) := by
  rcases left with rfl | left
  · simpa using right
  · exact .append left right

/-- Parentheses around a phrase that may be missing. -/
theorem parenthesized (inside : OptionalPhrase .clause tokens) :
    Phrase breadth (parenthesized tokens) := by
  rcases inside with rfl | inside
  · exact .emptyParentheses
  · exact .parentheses inside

/-- A keyword on demand. -/
theorem keywordIf (present : Bool) {word : Keyword} (admitted : breadth.admits word = true) :
    OptionalPhrase breadth (keywordIf present word) := by
  cases present with
  | false => exact .nil
  | true => exact .inr (.keyword word admitted)

/-- Words that vanish with the phrase that they introduce. -/
theorem introducedBy (words : List Keyword)
    (admitted : ∀ word ∈ words, breadth.admits word = true)
    (optional : OptionalPhrase breadth tokens) :
    OptionalPhrase breadth (introducedBy words tokens) := by
  rcases optional with rfl | phrase
  · exact .nil
  · rw [SqlTree.introducedBy, if_neg phrase.ne_nil]
    exact .inr (.words admitted phrase)

end OptionalPhrase

/-- Phrases with a comma between two of them. -/
theorem Phrase.commaSeparated {parts : List (List Token)} (notNil : parts ≠ [])
    (phrases : ∀ part ∈ parts, Phrase .clause part) : Phrase .clause (commaSeparated parts) := by
  induction parts with
  | nil => exact absurd rfl notNil
  | cons part rest inductionHypothesis =>
    cases rest with
    | nil => simpa [SqlTree.commaSeparated] using phrases part (by simp)
    | cons next rest =>
      have following := inductionHypothesis (by simp) fun part member =>
        phrases part (by simp [member])
      rw [SqlTree.commaSeparated, List.intercalate_cons_cons, List.append_assoc]
      exact .list (phrases part (by simp)) following

namespace OptionalPhrase

/-- Phrases with a comma between two of them; nothing for no phrases. -/
theorem commaSeparated {parts : List (List Token)}
    (phrases : ∀ part ∈ parts, Phrase .clause part) :
    OptionalPhrase .clause (commaSeparated parts) := by
  by_cases empty : parts = []
  · subst empty
    exact .nil
  · exact .inr (.commaSeparated empty phrases)

/-- A clause that lists phrases after its words; nothing for no phrases. -/
theorem listClause (words : List Keyword) {parts : List (List Token)}
    (admitted : ∀ word ∈ words, Breadth.clause.admits word = true)
    (phrases : ∀ part ∈ parts, Phrase .clause part) :
    OptionalPhrase .clause (listClause words parts) := by
  by_cases empty : parts = []
  · subst empty
    exact .nil
  · rw [SqlTree.listClause, if_neg empty]
    exact .inr (.words admitted (.commaSeparated empty phrases))

/-- Phrases with a keyword between two of them, without those that are missing. -/
theorem joinedBy {word : Keyword} {parts : List (List Token)}
    (admitted : breadth.admits word = true)
    (optional : ∀ part ∈ parts, OptionalPhrase breadth part) :
    OptionalPhrase breadth (joinedBy word parts) := by
  have joined : ∀ phrases : List (List Token), (∀ part ∈ phrases, Phrase breadth part) →
      OptionalPhrase breadth (List.intercalate [Token.keyword word] phrases) := by
    intro phrases
    induction phrases with
    | nil => exact fun _ => .nil
    | cons part rest inductionHypothesis =>
      intro all
      have following := inductionHypothesis fun part member => all part (by simp [member])
      cases rest with
      | nil => simpa using .inr (all part (by simp))
      | cons next rest =>
        rw [List.intercalate_cons_cons, List.append_assoc]
        exact .inr (.append (all part (by simp)) (.consOptional admitted following))
  refine joined _ fun part member => ?_
  obtain ⟨found, notNil⟩ := List.mem_filter.1 member
  exact (optional part found).resolve_left (by simpa using notNil)

end OptionalPhrase

/-- A clause of conditions that must all hold; nothing if no condition is there. -/
theorem OptionalPhrase.conditionClause (word : Keyword) {parts : List (List Token)}
    (admitted : Breadth.clause.admits word = true)
    (optional : ∀ part ∈ parts, OptionalPhrase .element part) :
    OptionalPhrase .clause (SqlTree.introducedBy [word] (SqlTree.joinedBy .and parts)) :=
  .introducedBy [word] (by simpa using admitted)
    (.joinedBy rfl fun part member => (optional part member).toClause)

/-- The keyword and the part after it, if there is a part. -/
theorem OptionalPhrase.optionTokens {word : Keyword} {part : Option (List Token)}
    (admitted : breadth.admits word = true) (phrases : ∀ tokens ∈ part, Phrase breadth tokens) :
    OptionalPhrase breadth (optionTokens word part) := by
  cases part with
  | none => exact .nil
  | some tokens => exact .inr (.cons admitted (phrases tokens rfl))

/-- A choice is a value, whatever its branches hold. -/
theorem Phrase.caseTokens {subject : List Token} {branches : List (List Token)}
    {otherwise : Option (List Token)} (subjectPhrase : OptionalPhrase .element subject)
    (branchPhrases : ∀ branch ∈ branches, Phrase .element branch)
    (otherwisePhrase : ∀ tokens ∈ otherwise, Phrase .element tokens) :
    Phrase breadth (caseTokens subject branches otherwise) := by
  have flattened : OptionalPhrase .element branches.flatten := by
    induction branches with
    | nil => exact .nil
    | cons branch rest inductionHypothesis =>
      have following := inductionHypothesis fun branch member =>
        branchPhrases branch (by simp [member])
      exact .inr ((branchPhrases branch (by simp)).appendOptional following)
  have body : OptionalPhrase .element
      (subject ++ branches.flatten ++ optionTokens .else otherwise) :=
    (subjectPhrase.append flattened).append (.optionTokens rfl otherwisePhrase)
  rw [SqlTree.caseTokens, List.cons_append, List.cons_append]
  rcases body with empty | body
  · rw [empty]
    exact .emptyChoice
  · exact .choice body

/-- An alias is an optional keyword and a name. -/
theorem OptionalPhrase.aliasTokens (usingAs : Bool) (aliasName : Option Identifier) :
    OptionalPhrase .element (aliasTokens usingAs aliasName) := by
  cases aliasName with
  | none => exact .nil
  | some aliasName =>
    exact .inr ((OptionalPhrase.keywordIf usingAs rfl).appendPhrase (.name aliasName))

/-- A name or star behind its qualifier, if there is one. -/
theorem Phrase.qualified (qualifier : Option Identifier) {text : String}
    (column : Phrase breadth [.identifier text]) :
    Phrase breadth (qualifierTokens qualifier ++ [.identifier text]) := by
  cases qualifier with
  | none => exact column
  | some qualifier => exact .member qualifier column

/-- A column is a value. -/
theorem Column.phrase (context : Context) (column : Column) :
    Phrase .value (column.tokens context) :=
  .qualified _ (.name column.name)

/-- A minus sign and its operand are a value if the operand is one. -/
theorem Phrase.negated {operand : List Token} (inside : Phrase breadth operand) :
    Phrase breadth (negatedTokens operand) := by
  rw [negatedTokens]
  cases signed : operand.head?.any fun token => startsWithMinus token.text with
  | false => exact .negation inside signed
  | true => exact .negation (.parentheses inside.toClause) rfl

/-- The edge of a frame is a phrase of keywords and a number. -/
theorem FrameBound.phrase (bound : FrameBound) : Phrase .clause bound.tokens := by
  cases bound with
  | currentRow => exact .cons rfl (.keyword .row rfl)
  | preceding count => exact .append (.number (.ofNat count)) (.keyword .preceding rfl)
  | following count => exact .append (.number (.ofNat count)) (.keyword .following rfl)
  | unboundedPreceding => exact .cons rfl (.keyword .preceding rfl)
  | unboundedFollowing => exact .cons rfl (.keyword .following rfl)

/-- A frame is a phrase of keywords and its edges. -/
theorem OptionalPhrase.frameTokens (frame : Option Frame) :
    OptionalPhrase .clause (frameTokens frame) := by
  cases frame with
  | none => exact .nil
  | some frame =>
    have extent : Phrase .clause frame.extent.tokens := by
      cases frame.extent with
      | between first last => exact .cons rfl (.append first.phrase (.cons rfl last.phrase))
      | startingAt first => exact first.phrase
    exact .inr (.cons (by cases frame.unit <;> rfl) extent)

/-- The keywords after a sort key. -/
theorem OptionalPhrase.sortTokens (direction : Option Direction) (nulls : Option NullPlacement) :
    OptionalPhrase .element (sortTokens direction nulls) := by
  apply OptionalPhrase.append
  · cases direction with
    | none => exact .nil
    | some direction => exact .inr (.keyword _ (by cases direction <;> rfl))
  · cases nulls with
    | none => exact .nil
    | some placement =>
      exact .inr (.cons rfl (.keyword _ (by cases placement <;> rfl)))

/-- The keyword of a set quantifier, if there is one. -/
theorem OptionalPhrase.setQuantifierTokens (quantifier : Option SetQuantifier) :
    OptionalPhrase .element (setQuantifierTokens quantifier) := by
  cases quantifier with
  | none => exact .nil
  | some quantifier => exact .inr (.keyword _ (by cases quantifier <;> rfl))

/-- The keywords of a join. -/
theorem JoinKind.phrase (dialect : Dialect) (kind : JoinKind) :
    Phrase .element (kind.tokens dialect) := by
  have join : Phrase .element [.keyword .join] := .keyword .join rfl
  cases kind with
  | inner => exact (OptionalPhrase.keywordIf _ rfl).appendPhrase join
  | leftOuter | rightOuter | fullOuter =>
    exact .cons rfl ((OptionalPhrase.keywordIf _ rfl).appendPhrase join)
  | cross => exact .cons rfl join

end SqlTree
