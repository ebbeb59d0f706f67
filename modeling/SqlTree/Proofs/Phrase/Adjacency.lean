import Mathlib.Data.List.Chain
import SqlTree.Proofs.Phrase

/-!
# Neighbours in a phrase

Which tokens can follow one another. A comma and an operator stand between two
operands, a dot between two names, a callee before its parenthesis, and a unary
sign before an operand whose text has no sign of its own. This is an adjacency
relation on tokens, and every phrase is a chain of it (`Phrase.joined`).
-/

namespace SqlTree

/-- Whether an operand can start with a token of the kind. -/
def TokenKind.startsOperand : TokenKind → Bool
  | .keyword | .callee | .identifier | .literal | .unary | .opening => true
  | .operator | .comma | .dot | .closing => false

/-- Whether an operand can end with a token of the kind. -/
def TokenKind.endsOperand : TokenKind → Bool
  | .keyword | .identifier | .literal | .closing => true
  | .callee | .operator | .unary | .comma | .dot | .opening => false

/-- Whether tokens of the two kinds can be neighbours. Apart from the kinds that
are bound to one neighbour, two tokens can meet at the edge of an operand. -/
def TokenKind.canPrecede (previous next : TokenKind) : Bool :=
  match previous, next with
  | .callee, _ => next = .opening
  | .dot, _ => next = .identifier
  | _, .dot => previous = .identifier
  | .opening, .closing => true
  | _, _ => previous.endsOperand || next.startsOperand

/-- Whether two tokens can be neighbours. -/
def Token.CanPrecede (previous next : Token) : Prop :=
  previous.kind.canPrecede next.kind = true ∧
    (previous.kind = .unary → startsWithMinus next.text = false)

/-- A kind that ends an operand can precede all but a dot. -/
theorem TokenKind.canPrecede_of_endsOperand {previous next : TokenKind}
    (ends : previous.endsOperand = true) (notDot : next ≠ .dot) :
    previous.canPrecede next = true := by
  cases previous <;> cases next <;> revert ends notDot <;> decide

/-- A kind that starts an operand can follow all that are not bound to another
neighbour. -/
theorem TokenKind.canPrecede_of_startsOperand {previous next : TokenKind}
    (starts : next.startsOperand = true) (notDot : previous ≠ .dot)
    (notCallee : previous ≠ .callee) : previous.canPrecede next = true := by
  cases previous <;> cases next <;> revert starts notDot notCallee <;> decide

/-- A chain of neighbours whose edges are edges of operands. -/
structure Joined (tokens : List Token) : Prop where
  chain : tokens.IsChain Token.CanPrecede
  starts : ∃ first, tokens.head? = some first ∧ first.kind.startsOperand = true
  ends : ∃ last, tokens.getLast? = some last ∧ last.kind.endsOperand = true

namespace Joined

variable {first second tokens : List Token} {token : Token}

/-- A token that is an operand by itself. -/
theorem single (starts : token.kind.startsOperand = true) (ends : token.kind.endsOperand = true) :
    Joined [token] where
  chain := .singleton token
  starts := ⟨token, rfl, starts⟩
  ends := ⟨token, rfl, ends⟩

/-- What ends an operand can be followed by any chain that starts with no dot. -/
theorem chain_append (left : Joined first) (right : second.IsChain Token.CanPrecede)
    (notDot : ∀ next ∈ second.head?, next.kind ≠ .dot) :
    (first ++ second).IsChain Token.CanPrecede := by
  obtain ⟨last, isLast, ends⟩ := left.ends
  refine left.chain.append right fun previous isPrevious next isNext => ?_
  have same : last = previous := by simpa [isLast] using isPrevious
  subst same
  refine ⟨TokenKind.canPrecede_of_endsOperand ends (notDot next isNext), fun isUnary => ?_⟩
  rw [isUnary] at ends
  exact absurd ends (by decide)

/-- What starts an operand can follow any token that is not bound elsewhere. -/
theorem chain_cons (right : Joined tokens) (notDot : token.kind ≠ .dot)
    (notCallee : token.kind ≠ .callee)
    (unsigned : token.kind = .unary →
      (tokens.head?.any fun next => startsWithMinus next.text) = false) :
    (token :: tokens).IsChain Token.CanPrecede := by
  obtain ⟨start, isStart, starts⟩ := right.starts
  refine right.chain.cons fun next isNext => ?_
  have same : start = next := by simpa [isStart] using isNext
  subst same
  refine ⟨TokenKind.canPrecede_of_startsOperand starts notDot notCallee, fun isUnary => ?_⟩
  simpa [isStart] using unsigned isUnary

/-- A list that starts an operand does not start with a dot. -/
theorem head_ne_dot (joined : Joined tokens) : ∀ next ∈ tokens.head?, next.kind ≠ .dot := by
  obtain ⟨start, isStart, starts⟩ := joined.starts
  intro next isNext isDot
  have same : start = next := by simpa [isStart] using isNext
  rw [same, isDot] at starts
  exact absurd starts (by decide)

/-- Two operands, one after the other. -/
theorem append (left : Joined first) (right : Joined second) : Joined (first ++ second) where
  chain := left.chain_append right.chain right.head_ne_dot
  starts := by
    obtain ⟨start, isStart, starts⟩ := left.starts
    exact ⟨start, by simp [isStart], starts⟩
  ends := by
    obtain ⟨last, isLast, ends⟩ := right.ends
    exact ⟨last, by simp [List.getLast?_append, isLast], ends⟩

/-- Two operands, with a comma or an operator between them. -/
theorem separated (left : Joined first) (right : Joined second)
    (separator : token.kind = .comma ∨ token.kind = .operator) :
    Joined (first ++ token :: second) where
  chain := by
    have following : (token :: second).IsChain Token.CanPrecede :=
      right.chain_cons (by rcases separator with kind | kind <;> simp [kind])
        (by rcases separator with kind | kind <;> simp [kind])
        (by rcases separator with kind | kind <;> simp [kind])
    refine left.chain_append following fun next isNext => ?_
    have same : token = next := by simpa using isNext
    rcases separator with kind | kind <;> simp [← same, kind]
  starts := by
    obtain ⟨start, isStart, starts⟩ := left.starts
    exact ⟨start, by simp [isStart], starts⟩
  ends := by
    obtain ⟨last, isLast, ends⟩ := right.ends
    exact ⟨last, by simp [List.getLast?_append, List.getLast?_cons, isLast], ends⟩

/-- An operand after a token that starts operands. -/
theorem cons (right : Joined tokens) (starts : token.kind.startsOperand = true)
    (notCallee : token.kind ≠ .callee)
    (unsigned : token.kind = .unary →
      (tokens.head?.any fun next => startsWithMinus next.text) = false) :
    Joined (token :: tokens) where
  chain := by
    refine right.chain_cons (fun isDot => ?_) notCallee unsigned
    rw [isDot] at starts
    exact absurd starts (by decide)
  starts := ⟨token, rfl, starts⟩
  ends := by
    obtain ⟨last, isLast, ends⟩ := right.ends
    exact ⟨last, by simp [List.getLast?_cons, isLast], ends⟩

/-- An operand between parentheses. -/
theorem parenthesized (inside : Joined tokens) : Joined (parenthesized tokens) where
  chain := by
    have opened : Joined (Token.opening :: tokens) := inside.cons rfl (by decide) nofun
    exact opened.chain_append (.singleton Token.closing) (by simp [Token.closing])
  starts := ⟨.opening, rfl, rfl⟩
  ends := ⟨.closing, by simp [SqlTree.parenthesized, List.getLast?_cons], rfl⟩

/-- A callee before its parenthesis. -/
theorem call (name : String) (arguments : Joined (SqlTree.parenthesized tokens)) :
    Joined (.callee name :: SqlTree.parenthesized tokens) where
  chain := by
    refine arguments.chain.cons fun next isNext => ?_
    have same : Token.opening = next := by simpa [SqlTree.parenthesized] using isNext
    subst same
    exact ⟨rfl, by simp [Token.callee]⟩
  starts := ⟨.callee name, rfl, rfl⟩
  ends := by
    obtain ⟨last, isLast, ends⟩ := arguments.ends
    exact ⟨last, by simp [List.getLast?_cons, isLast], ends⟩

end Joined

/-- Neighbours in a phrase can be neighbours, and a phrase starts and ends like an
operand. -/
theorem Phrase.joined {breadth : Breadth} {tokens : List Token}
    (phrase : Phrase breadth tokens) : Joined tokens := by
  induction phrase with
  | keyword | number | text | placeholder | name | star => exact .single rfl rfl
  | member qualifier _ _ =>
    refine ⟨?_, ⟨_, rfl, rfl⟩, ⟨_, rfl, rfl⟩⟩
    simp [Token.CanPrecede, TokenKind.canPrecede, Token.identifier, Token.dot]
  | emptyParentheses =>
    refine ⟨?_, ⟨_, rfl, rfl⟩, ⟨_, rfl, rfl⟩⟩
    simp [SqlTree.parenthesized, Token.CanPrecede, TokenKind.canPrecede, Token.opening,
      Token.closing]
  | parentheses _ inside => exact inside.parenthesized
  | call _ _ arguments => exact arguments.call _
  | wordCall _ _ arguments => exact arguments.call _
  | append _ _ left right => exact left.append right
  | operation _ _ _ _ left right => exact left.separated right (.inr rfl)
  | list _ _ left right => exact left.separated right (.inl rfl)
  | negation _ unsigned inside => exact inside.cons rfl (by decide) fun _ => unsigned
  | emptyChoice => exact .append (.single rfl rfl) (.single rfl rfl)
  | choice _ inside => exact ((Joined.single rfl rfl).append inside).append (.single rfl rfl)

end SqlTree
