import SqlTree.Proofs.Phrase.Adjacency
import SqlTree.Proofs.Phrase.Rendering

/-!
# Operands

No list, operation, qualified name, call or negation of a statement lacks one of its
operands: a comma or an operator has an operand on both sides, a dot a name on both sides,
a callee its parenthesis, and a minus sign an operand that has no sign of its own
(`Statement.operands_present`).

What a token asks of its neighbours is `Token.IsSupported`. It follows from the chain of
neighbours of a phrase and from its edges (`Joined`): a token that cannot start an operand
is not the first one, and a token that cannot end an operand is not the last one.
-/

namespace SqlTree

/-- Whether a token has the operands that it asks for, between the token before it and the
one behind it, if there are such tokens. -/
def Token.IsSupported (previous : Option Token) (token : Token) (next : Option Token) : Prop :=
  match token.kind with
  | .comma | .operator =>
    (∃ left ∈ previous,
      left.kind ∉ [.opening, .comma, .dot, .operator, .unary, .callee]) ∧
      ∃ right ∈ next, right.kind ∉ [.closing, .comma, .dot, .operator]
  | .dot =>
    (∃ left ∈ previous, left.kind = .identifier) ∧ ∃ right ∈ next, right.kind = .identifier
  | .callee => ∃ right ∈ next, right.kind = .opening
  | .unary =>
    ∃ right ∈ next, right.kind ∉ [.closing, .comma, .dot, .operator] ∧
      startsWithMinus right.text = false
  | .keyword | .identifier | .literal | .opening | .closing => True

/-- Whether every one of some tokens has the operands that it asks for. -/
def OperandsPresent (tokens : List Token) : Prop :=
  ∀ before token after, tokens = before ++ token :: after →
    token.IsSupported before.getLast? after.head?

/-- An operand is not missing before a token that only operands can precede. -/
theorem TokenKind.endsOperand_of_canPrecede {previous next : TokenKind}
    (neighbours : previous.canPrecede next = true) (separates : next = .comma ∨ next = .operator) :
    previous ∉ [.opening, .comma, .dot, .operator, .unary, .callee] := by
  rcases separates with rfl | rfl <;> cases previous <;> revert neighbours <;> decide

/-- An operand is not missing behind a token that only operands can follow. -/
theorem TokenKind.startsOperand_of_canPrecede {previous next : TokenKind}
    (neighbours : previous.canPrecede next = true)
    (asks : previous = .comma ∨ previous = .operator ∨ previous = .unary) :
    next ∉ [.closing, .comma, .dot, .operator] := by
  rcases asks with rfl | rfl | rfl <;> cases next <;> revert neighbours <;> decide

/-- A dot follows names only. -/
theorem TokenKind.eq_identifier_of_canPrecede_dot {previous : TokenKind}
    (neighbours : previous.canPrecede .dot = true) : previous = .identifier := by
  cases previous <;> revert neighbours <;> decide

namespace Joined

variable {tokens before after : List Token} {token : Token}

/-- A token that cannot start an operand has a token before it that can precede it. -/
theorem exists_previous (joined : Joined (before ++ token :: after))
    (inside : token.kind.startsOperand = false) :
    ∃ previous ∈ before.getLast?, previous.CanPrecede token := by
  cases last : before.getLast? with
  | none =>
    obtain ⟨start, isStart, starts⟩ := joined.starts
    rw [List.getLast?_eq_none_iff.1 last] at isStart
    have same : token = start := by simpa using isStart
    rw [same, starts] at inside
    cases inside
  | some previous =>
    obtain ⟨-, -, seam⟩ := List.isChain_append.1 joined.chain
    exact ⟨previous, rfl, seam previous last token rfl⟩

/-- A token that cannot end an operand has a token behind it that it can precede. -/
theorem exists_next (joined : Joined (before ++ token :: after))
    (inside : token.kind.endsOperand = false) :
    ∃ next ∈ after.head?, token.CanPrecede next := by
  cases after with
  | nil =>
    obtain ⟨last, isLast, ends⟩ := joined.ends
    have same : token = last := by simpa using isLast
    rw [same, ends] at inside
    cases inside
  | cons next rest =>
    obtain ⟨-, chain, -⟩ := List.isChain_append.1 joined.chain
    exact ⟨next, rfl, (List.isChain_cons_cons.1 chain).1⟩

/-- Joined tokens have the operands that they ask for. -/
theorem operandsPresent (joined : Joined tokens) : OperandsPresent tokens := by
  rintro before token after rfl
  have behind := joined.exists_next
  have ahead := joined.exists_previous
  rw [Token.IsSupported]
  -- A kind that asks for a neighbour cannot stand at that edge, and the chain says who is there.
  cases kind : token.kind with
  | comma | operator =>
    obtain ⟨previous, isPrevious, precedes⟩ := ahead (by rw [kind]; rfl)
    obtain ⟨next, isNext, follows⟩ := behind (by rw [kind]; rfl)
    exact ⟨⟨previous, isPrevious,
        TokenKind.endsOperand_of_canPrecede precedes.1 (by simp [kind])⟩,
      next, isNext, TokenKind.startsOperand_of_canPrecede follows.1 (by simp [kind])⟩
  | dot =>
    obtain ⟨previous, isPrevious, precedes⟩ := ahead (by rw [kind]; rfl)
    obtain ⟨next, isNext, follows⟩ := behind (by rw [kind]; rfl)
    have isName := follows.1
    rw [kind] at isName
    refine ⟨⟨previous, isPrevious, ?_⟩, next, isNext, of_decide_eq_true isName⟩
    exact TokenKind.eq_identifier_of_canPrecede_dot (kind ▸ precedes.1)
  | callee =>
    obtain ⟨next, isNext, follows⟩ := behind (by rw [kind]; rfl)
    have opens := follows.1
    rw [kind] at opens
    exact ⟨next, isNext, of_decide_eq_true opens⟩
  | unary =>
    obtain ⟨next, isNext, follows⟩ := behind (by rw [kind]; rfl)
    exact ⟨next, isNext, TokenKind.startsOperand_of_canPrecede follows.1 (by simp [kind]),
      follows.2 kind⟩
  | keyword | identifier | literal | opening | closing => trivial

end Joined

/-- In every statement, commas and operators stand between two operands, dots between two
names, callees before their parenthesis, and minus signs before an operand whose text does
not start with a minus sign. -/
theorem Statement.operands_present (dialect : Dialect) (statement : Statement) :
    OperandsPresent (statement.tokens dialect) :=
  (statement.phrase dialect).joined.operandsPresent

end SqlTree
