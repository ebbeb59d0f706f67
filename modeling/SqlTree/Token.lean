import SqlTree.Token.Keyword

/-!
# Tokens

A statement is rendered as a sequence of tokens, and its text is the texts of
the tokens with a space between two of them wherever their kinds ask for one.
There is no space

- after an opening parenthesis, around a dot, and after a unary operator,
- before a closing parenthesis and before a comma,
- between the name of a call and its opening parenthesis.

The space before a token depends on the kind of the token before it and on
nothing else, so a sequence can be cut anywhere and its parts written one
after the other (`textAfter_append`).
-/

namespace SqlTree

/-- The role of a token, which decides the spaces around it. -/
inductive TokenKind where
  | keyword
  /-- A name or word that the following parenthesis belongs to. -/
  | callee
  | identifier
  | literal
  | operator
  /-- An operator that belongs to what follows it. -/
  | unary
  | comma
  | dot
  | opening
  | closing
deriving DecidableEq

/-- Whether a space stands between neighbouring tokens of the two kinds. -/
def TokenKind.isSpacedFrom (next previous : TokenKind) : Bool :=
  match previous, next with
  | .opening, _ | .dot, _ | .unary, _ => false
  | _, .closing | _, .comma | _, .dot => false
  | .callee, .opening => false
  | _, _ => true

/-- A piece of a rendered statement. -/
structure Token where
  kind : TokenKind
  text : String
deriving DecidableEq

namespace Token

/-- The token of a keyword. -/
def keyword (word : Keyword) : Token := ⟨.keyword, word.text⟩

/-- The token of a name or word before its parenthesis. -/
def callee (name : String) : Token := ⟨.callee, name⟩

/-- The token of a name. -/
def identifier (name : String) : Token := ⟨.identifier, name⟩

/-- The token of a literal. -/
def literal (text : String) : Token := ⟨.literal, text⟩

/-- The token of an operator between two operands. -/
def operator (text : String) : Token := ⟨.operator, text⟩

/-- The token of the minus sign before an operand. -/
def minus : Token := ⟨.unary, "-"⟩

/-- The token of a comma. -/
def comma : Token := ⟨.comma, ","⟩

/-- The token of a dot. -/
def dot : Token := ⟨.dot, "."⟩

/-- The token of an opening parenthesis. -/
def opening : Token := ⟨.opening, "("⟩

/-- The token of a closing parenthesis. -/
def closing : Token := ⟨.closing, ")"⟩

/-- What stands between a token and the one before it, if there is one. -/
def gap (previous : Option TokenKind) (next : TokenKind) : String :=
  match previous with
  | none => ""
  | some kind => if next.isSpacedFrom kind then " " else ""

/-- The text of tokens that follow a token of the given kind, or that follow
nothing. -/
def textAfter (previous : Option TokenKind) : List Token → String
  | [] => ""
  | token :: rest => gap previous token.kind ++ (token.text ++ textAfter (some token.kind) rest)

/-- The text of a sequence of tokens. -/
def textOf (tokens : List Token) : String :=
  textAfter none tokens

/-- The kind that decides the space after some tokens: that of the last of
them, or what came before if there are none. -/
def kindAfter (previous : Option TokenKind) : List Token → Option TokenKind
  | [] => previous
  | token :: rest => kindAfter (some token.kind) rest

/-- A sequence may be written in two parts, if the second one knows the kind of
the token before it. -/
theorem textAfter_append (previous : Option TokenKind) (first second : List Token) :
    textAfter previous (first ++ second) =
      textAfter previous first ++ textAfter (kindAfter previous first) second := by
  induction first generalizing previous with
  | nil => simp [textAfter, kindAfter]
  | cons token rest inductionHypothesis =>
    simp [textAfter, kindAfter, inductionHypothesis, String.append_assoc]

end Token

/-- Tokens between parentheses. -/
def parenthesized (tokens : List Token) : List Token :=
  Token.opening :: tokens ++ [Token.closing]

/-- Tokens that are put between parentheses on demand. -/
def parenthesizedIf (wrapped : Bool) (tokens : List Token) : List Token :=
  if wrapped then parenthesized tokens else tokens

/-- A keyword on demand. -/
def keywordIf (present : Bool) (word : Keyword) : List Token :=
  if present then [.keyword word] else []

/-- Parts with a comma between two of them. -/
def commaSeparated (parts : List (List Token)) : List Token :=
  List.intercalate [Token.comma] parts

/-- Parts that are not empty, with a keyword between two of them. -/
def joinedBy (word : Keyword) (parts : List (List Token)) : List Token :=
  List.intercalate [Token.keyword word] (parts.filter (· ≠ []))

/-- Words in front of tokens; nothing in front of no tokens. -/
def introducedBy (words : List Keyword) (tokens : List Token) : List Token :=
  if tokens = [] then [] else words.map Token.keyword ++ tokens

end SqlTree
