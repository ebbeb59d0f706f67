import SqlTree.Proofs.Nesting
import SqlTree.Proofs.Phrase.Rendering

/-!
# Brackets

Two pairs of tokens enclose what is between them: the parentheses, and the words `CASE` and
`END` around a choice. Read from the front with a stack of the brackets that are open, a
sequence is `Nested` if every token that closes a bracket closes the innermost one that is
open, by its own kind, and none is open in the end.

Every statement is nested, and so is every part of it by itself, whichever conditions,
joins and queries ask for parentheses (`Statement.brackets_nest`). A phrase leaves all
brackets around it as they are, whatever they are (`Phrase.neutral`); so the parts of a
statement can be put together without a look at what is open around them.
-/

namespace SqlTree

/-- The kinds of brackets: a pair of parentheses, and the two words around a choice. -/
inductive Bracket where
  | parentheses
  | choice
deriving DecidableEq

namespace Token

/-- The bracket that a token opens. -/
def opened? (token : Token) : Option Bracket :=
  if token.kind = .opening then some .parentheses
  else if token = .keyword .case then some .choice
  else none

/-- The bracket that a token closes. -/
def closed? (token : Token) : Option Bracket :=
  if token.kind = .closing then some .parentheses
  else if token = .keyword .end then some .choice
  else none

/-- The brackets that are open behind a token, innermost first, if the given ones are open
before it. There are none if the token closes a bracket that is not the innermost one. -/
def bracketsAfter (around : List Bracket) (token : Token) : Option (List Bracket) :=
  match token.opened?, token.closed? with
  | some bracket, _ => some (bracket :: around)
  | none, none => some around
  | none, some bracket => if around.head? = some bracket then some around.tail else none

/-- Whether a token is a bracket of no kind. -/
def IsPlain (token : Token) : Prop :=
  token.opened? = none ∧ token.closed? = none

/-- Tokens of most kinds are no brackets. -/
theorem isPlain_of_kind {token : Token} (kind : token.kind ∉ [.keyword, .opening, .closing]) :
    token.IsPlain := by
  simp only [List.mem_cons, List.not_mem_nil, or_false, not_or] at kind
  obtain ⟨notKeyword, notOpening, notClosing⟩ := kind
  have notWord := ne_keyword notKeyword
  exact ⟨by simp [opened?, notOpening, notWord], by simp [closed?, notClosing, notWord]⟩

/-- The keywords that stand by themselves are no brackets. -/
theorem isPlain_keyword {breadth : Breadth} {word : Keyword}
    (admitted : breadth.admits word = true) : (Token.keyword word).IsPlain := by
  obtain ⟨notCase, notEnd⟩ := Breadth.ne_of_admits admitted
  constructor
  · rw [opened?, if_neg (by simp [keyword]), if_neg (by simpa using notCase)]
  · rw [closed?, if_neg (by simp [keyword]), if_neg (by simpa using notEnd)]

end Token

/-- The brackets that are open behind some tokens, innermost first, if the given ones are
open before them. There are none if a token closes a bracket that is not the innermost
one. -/
def bracketsAfter (around : List Bracket) (tokens : List Token) : Option (List Bracket) :=
  tokens.foldlM Token.bracketsAfter around

/-- Whether tokens close every bracket that they open, and no other one, from the inside
out and each by its own kind. -/
def Nested (tokens : List Token) : Prop :=
  bracketsAfter [] tokens = some []

instance (tokens : List Token) : Decidable (Nested tokens) :=
  inferInstanceAs (Decidable (_ = _))

/-- Whether tokens leave the brackets around them as they are, whatever these are. -/
def Neutral (tokens : List Token) : Prop :=
  ∀ around, bracketsAfter around tokens = some around

namespace Neutral

variable {token opening closing : Token} {first second tokens : List Token}

/-- Neutral tokens are nested. -/
theorem nested (neutral : Neutral tokens) : Nested tokens :=
  neutral []

/-- No tokens are neutral. -/
theorem nil : Neutral [] :=
  fun _ => rfl

/-- Neutral tokens, one after the other. -/
theorem append (left : Neutral first) (right : Neutral second) : Neutral (first ++ second) := by
  intro around
  rw [bracketsAfter, List.foldlM_append]
  exact (congrArg (· >>= _) (left around)).trans (right around)

/-- A token that is no bracket is neutral. -/
theorem single (plain : token.IsPlain) : Neutral [token] := by
  intro around
  simp [bracketsAfter, Token.bracketsAfter, plain.1, plain.2]

/-- A token that is no bracket, before neutral ones. -/
theorem cons (plain : token.IsPlain) (right : Neutral tokens) : Neutral (token :: tokens) :=
  append (single plain) right

/-- Neutral tokens between two tokens that open and close a bracket of one kind. -/
theorem enclosed {bracket : Bracket} (inside : Neutral tokens)
    (opens : opening.opened? = some bracket) (notOpening : closing.opened? = none)
    (closes : closing.closed? = some bracket) : Neutral (opening :: tokens ++ [closing]) := by
  intro around
  have start : bracketsAfter around [opening] = some (bracket :: around) := by
    simp [bracketsAfter, Token.bracketsAfter, opens]
  have stop : bracketsAfter (bracket :: around) [closing] = some around := by
    simp [bracketsAfter, Token.bracketsAfter, notOpening, closes]
  calc bracketsAfter around (opening :: tokens ++ [closing])
      = bracketsAfter around [opening] >>= (bracketsAfter · (tokens ++ [closing])) := by
        rw [bracketsAfter, List.cons_append, ← List.singleton_append, List.foldlM_append]
        rfl
    _ = bracketsAfter (bracket :: around) tokens >>= (bracketsAfter · [closing]) := by
        rw [start, Option.bind_eq_bind, Option.bind_some, bracketsAfter, List.foldlM_append]
        rfl
    _ = some around := by
        rw [inside, Option.bind_eq_bind, Option.bind_some, stop]

/-- Neutral tokens between parentheses. -/
theorem parenthesized (inside : Neutral tokens) : Neutral (parenthesized tokens) :=
  inside.enclosed rfl rfl rfl

/-- Neutral tokens between the two words of a choice. -/
theorem choice (inside : Neutral tokens) :
    Neutral (.keyword .case :: tokens ++ [.keyword .end]) :=
  inside.enclosed rfl rfl rfl

end Neutral

variable {breadth : Breadth} {tokens : List Token}

/-- A phrase leaves the brackets around it as they are. -/
theorem Phrase.neutral (phrase : Phrase breadth tokens) : Neutral tokens := by
  -- Brackets come in pairs around a phrase only, whatever its breadth is.
  induction phrase with
  | keyword word admitted => exact .single (Token.isPlain_keyword admitted)
  | number | text | placeholder | name | star =>
    exact .single (Token.isPlain_of_kind (by simp [Token.literal, Token.identifier]))
  | member _ _ column =>
    exact .cons (Token.isPlain_of_kind (by simp [Token.identifier]))
      (.cons (Token.isPlain_of_kind (by simp [Token.dot])) column)
  | emptyParentheses => exact Neutral.nil.parenthesized
  | parentheses _ inside => exact inside.parenthesized
  | call _ _ arguments | wordCall _ _ arguments =>
    exact arguments.cons (Token.isPlain_of_kind (by simp [Token.callee]))
  | append _ _ left right => exact left.append right
  | operation _ _ _ _ left right =>
    exact left.append (right.cons (Token.isPlain_of_kind (by simp [Token.operator])))
  | list _ _ left right =>
    exact left.append (right.cons (Token.isPlain_of_kind (by simp [Token.comma])))
  | negation _ _ inside =>
    exact inside.cons (Token.isPlain_of_kind (by simp [Token.minus]))
  | emptyChoice => exact Neutral.nil.choice
  | choice _ inside => exact inside.choice

/-- A phrase that may be missing leaves the brackets around it as they are. -/
theorem OptionalPhrase.neutral (optional : OptionalPhrase breadth tokens) : Neutral tokens := by
  rcases optional with rfl | phrase
  · exact .nil
  · exact phrase.neutral

/-- The brackets of every statement nest, in every dialect. So do those of each value,
condition, window, item of a `FROM` clause, list of values to compare with and query by
itself, in every context, and also those of a query in the parentheses that it gets where
it is an operand.

The parts are arbitrary, so it does not matter which of their conditions, joins and queries
ask for parentheses. -/
theorem Statement.brackets_nest :
    (∀ (dialect : Dialect) (statement : Statement), Nested (statement.tokens dialect)) ∧
      ∀ context : Context,
        (∀ expr : Expr, Nested (expr.tokens context)) ∧
          (∀ condition : Condition, Nested (condition.tokens context)) ∧
          (∀ window : Window, Nested (window.tokens context)) ∧
          (∀ item : FromItem, Nested (item.tokens context)) ∧
          (∀ values : Values, Nested (values.tokens context)) ∧
          ∀ query : Query, Nested (query.tokens context) ∧
            Nested (parenthesizedIf query.wrapped (query.tokens context)) := by
  refine ⟨fun dialect statement => (statement.phrase dialect).neutral.nested, fun context => ?_⟩
  refine ⟨fun expr => (expr.phrase context).neutral.nested,
    fun condition => (condition.phrase context).neutral.nested,
    fun window => (window.phrase context).neutral.nested,
    fun item => (item.phrase context).neutral.nested,
    fun values => (values.phrase context).neutral.nested, fun query => ⟨?_, ?_⟩⟩
  · exact (query.phrase context).neutral.nested
  · exact ((query.phrase context).parenthesizedIf query.wrapped).neutral.nested

/-- A choice that is closed by a parenthesis is not nested, although it opens as many
brackets as it closes. -/
example : ¬ Nested [.opening, .keyword .case, .closing, .keyword .end] := by
  decide

end SqlTree
