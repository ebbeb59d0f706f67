import SqlTree.Proofs.Contents
import SqlTree.Proofs.Spelling

/-!
# What tokens carry

What a reader finds in tokens that is no symbol and no word of SQL: strings, numbers,
markers, quoted names and the words of other names. A statement writes symbols and words
of SQL by itself, but none of these, so whatever of them is found has to come from its
contents.

`Carries` says that exactly the lexemes of the contents are found, in their order. It is an
equation between what is read off the tokens and what the contents stand for. So tokens
that are put together carry what they carry, one after the other, and symbols and words of
SQL around them or between them make no difference.
-/

namespace SqlTree

/-- Whether a lexeme is no symbol and no word of SQL, so that a statement does not write it
by itself. -/
def Lexeme.isContent : Lexeme → Bool
  | symbol _ => false
  | word text => text ∉ Keyword.every.map Keyword.text
  | quoted _ | string _ | number _ | marker _ | comment | stray _ => true

/-- The lexemes that a content stands for. -/
def Content.lexemes : Content → List Lexeme
  | string value => [.string value]
  | number numeral => numeral.lexemes
  | parameter placeholder => [.marker placeholder.marker]
  | name identifier => identifier.lexemes

/-- The lexemes of a token, apart from symbols and words of SQL. -/
def Token.content (token : Token) : List Lexeme :=
  (lexemes token.text.toList).filter Lexeme.isContent

/-- Tokens in which the contents are found, in this order, and nothing else but symbols and
words of SQL. -/
def Carries (contents : List Content) (tokens : List Token) : Prop :=
  tokens.flatMap Token.content = (contents.flatMap Content.lexemes).filter Lexeme.isContent

section Tokens

variable {token : Token} {found : List Lexeme}

/-- The content of a token is what it stands for, apart from symbols and words of SQL. -/
theorem Spells.content (spelled : Spells token found) :
    token.content = found.filter Lexeme.isContent := by
  rw [Token.content, spelled.lexemes_text]

/-- A word of SQL is no content. -/
@[simp] theorem Lexeme.isContent_keyword (word : Keyword) :
    (Lexeme.word word.text).isContent = false := by
  have isWord : word.text ∈ Keyword.every.map Keyword.text :=
    List.mem_map_of_mem word.mem_every
  simp [isContent, isWord]

@[simp] theorem Token.content_keyword (word : Keyword) : (Token.keyword word).content = [] := by
  simp [(Spells.keyword word).content]

@[simp] theorem Token.content_wordCallee (word : Keyword) :
    (Token.callee word.text).content = [] := by
  simp [(Spells.wordCallee word).content]

@[simp] theorem Token.content_arithmetic (operator : ArithmeticOperator) :
    (Token.operator operator.text).content = [] :=
  (Spells.operator (.inl ⟨operator, rfl⟩)).content

@[simp] theorem Token.content_comparison (operator : ComparisonOperator) :
    (Token.operator operator.text).content = [] :=
  (Spells.operator (.inr ⟨operator, rfl⟩)).content

@[simp] theorem Token.content_star : (Token.identifier "*").content = [] :=
  Spells.star.content

@[simp] theorem Token.content_minus : Token.minus.content = [] :=
  Spells.minus.content

@[simp] theorem Token.content_comma : Token.comma.content = [] :=
  Spells.comma.content

@[simp] theorem Token.content_dot : Token.dot.content = [] :=
  Spells.dot.content

@[simp] theorem Token.content_opening : Token.opening.content = [] :=
  Spells.opening.content

@[simp] theorem Token.content_closing : Token.closing.content = [] :=
  Spells.closing.content

end Tokens

/-- A keyword on demand has no content. -/
theorem content_keywordIf (present : Bool) (word : Keyword) :
    ∀ token ∈ keywordIf present word, token.content = [] := by
  cases present <;> simp [keywordIf]

namespace Carries

variable {contents more : List Content} {token : Token} {tokens first second : List Token}
  {parts : List (List Token)}

/-- No tokens carry nothing. -/
theorem nil : Carries [] [] :=
  rfl

/-- Tokens carry what each part of them carries, one part after the other. -/
theorem append (left : Carries contents first) (right : Carries more second) :
    Carries (contents ++ more) (first ++ second) := by
  rw [Carries, List.flatMap_append, List.flatMap_append, List.filter_append, left, right]

/-- Tokens without content carry nothing. -/
theorem blank (noContent : ∀ token ∈ tokens, token.content = []) : Carries [] tokens :=
  List.flatMap_eq_nil_iff.2 noContent

/-- Tokens without content in front of others. -/
theorem prepend (noContent : ∀ token ∈ tokens, token.content = [])
    (right : Carries contents first) : Carries contents (tokens ++ first) :=
  (blank noContent).append right

/-- A token without content in front of others. -/
theorem cons (noContent : token.content = []) (right : Carries contents tokens) :
    Carries contents (token :: tokens) := by
  rw [Carries, List.flatMap_cons, noContent, right, List.nil_append]

/-- A keyword in front of tokens. -/
theorem keyword (word : Keyword) (right : Carries contents tokens) :
    Carries contents (.keyword word :: tokens) :=
  right.cons (Token.content_keyword word)

/-- Tokens without content behind others. -/
theorem concat (left : Carries contents first) (noContent : ∀ token ∈ tokens, token.content = []) :
    Carries contents (first ++ tokens) := by
  simpa using left.append (blank noContent)

/-- A keyword on demand behind tokens. -/
theorem keywordIf (left : Carries contents tokens) (present : Bool) (word : Keyword) :
    Carries contents (tokens ++ keywordIf present word) :=
  left.concat (content_keywordIf present word)

/-- A token that stands for a content carries it, whatever its characters are. -/
theorem single {content : Content} (spelled : Spells token content.lexemes) :
    Carries [content] [token] := by
  simp [Carries, spelled.content]

/-- Parentheses have no content. -/
theorem parenthesized (inside : Carries contents tokens) :
    Carries contents (parenthesized tokens) :=
  (inside.cons Token.content_opening).concat (by simp)

/-- Parentheses on demand have no content. -/
theorem parenthesizedIf (wrapped : Bool) (inside : Carries contents tokens) :
    Carries contents (parenthesizedIf wrapped tokens) := by
  cases wrapped with
  | false => exact inside
  | true => exact inside.parenthesized

/-- The minus sign before an operand has no content. -/
theorem negated (inside : Carries contents tokens) : Carries contents (negatedTokens tokens) :=
  (inside.parenthesizedIf _).cons Token.content_minus

/-- Words in front of tokens, if there are any. -/
theorem introducedBy (words : List Keyword) (inside : Carries contents tokens) :
    Carries contents (introducedBy words tokens) := by
  rw [SqlTree.introducedBy]
  split
  · rename_i empty
    rwa [empty] at inside
  · exact inside.prepend (by simp)

/-- Parts with a token without content between them carry what the parts carry. -/
theorem intercalate (noContent : token.content = []) (each : Carries contents parts.flatten) :
    Carries contents ([token].intercalate parts) := by
  rw [Carries, ← each]
  clear each
  induction parts with
  | nil => rfl
  | cons part rest inductionHypothesis =>
    cases rest with
    | nil => simp
    | cons next others =>
      rw [List.intercalate_cons_cons, List.flatMap_append, List.flatMap_append,
        inductionHypothesis, List.flatten_cons, List.flatMap_append]
      simp [noContent]

/-- Parts with commas between them carry what the parts carry. -/
theorem commaSeparated (each : Carries contents parts.flatten) :
    Carries contents (commaSeparated parts) :=
  each.intercalate Token.content_comma

/-- A clause that lists parts carries what the parts carry. -/
theorem listClause (words : List Keyword) (each : Carries contents parts.flatten) :
    Carries contents (listClause words parts) := by
  rw [SqlTree.listClause]
  split
  · rename_i empty
    rwa [empty] at each
  · exact each.commaSeparated.prepend (by simp)

/-- Parts with a word between those that are not empty carry what the parts carry. -/
theorem joinedBy (word : Keyword) (each : Carries contents parts.flatten) :
    Carries contents (joinedBy word parts) := by
  refine intercalate (Token.content_keyword word) ?_
  rwa [List.flatten_filter_ne_nil]

/-- Several pieces carry what each of them carries. -/
theorem flatten {Item : Type} {contentsOf : Item → List Content}
    {tokensOf : Item → List Token} (each : ∀ item, Carries (contentsOf item) (tokensOf item))
    (items : List Item) : Carries (items.flatMap contentsOf) (items.map tokensOf).flatten := by
  induction items with
  | nil => exact .nil
  | cons item rest inductionHypothesis => exact (each item).append inductionHypothesis

/-- The words of a choice have no content. -/
theorem choice {branches : List (List Token)} {otherwise : Option (List Token)}
    {branchContents otherwiseContents : List Content} (subject : Carries contents first)
    (branch : Carries branchContents branches.flatten)
    (last : Carries otherwiseContents (optionTokens .else otherwise)) :
    Carries (contents ++ branchContents ++ otherwiseContents)
      (caseTokens first branches otherwise) := by
  have stop : ∀ token ∈ [Token.keyword .end], token.content = [] := by simp
  simpa [caseTokens] using (((subject.append branch).append last).concat stop).keyword .case

/-- The words of a branch have no content. -/
theorem branch (condition : Carries contents first) (result : Carries more second) :
    Carries (contents ++ more) (branchTokens first second) :=
  (condition.append (result.keyword .then)).keyword .when

/-- The qualifier of a name carries the name of the source, if there is one. -/
theorem qualifier (qualifier : Option Identifier) :
    Carries (Content.ofName? qualifier) (qualifierTokens qualifier) := by
  cases qualifier with
  | none => exact nil
  | some source => exact (single (.name source)).concat (by simp)

/-- An alias carries its name, after `AS` or without it. -/
theorem named (usingAs : Bool) (aliasName : Option Identifier) :
    Carries (Content.ofName? aliasName) (aliasTokens usingAs aliasName) := by
  cases aliasName with
  | none => exact nil
  | some given => exact (single (.name given)).prepend (content_keywordIf usingAs .as)

end Carries

end SqlTree
