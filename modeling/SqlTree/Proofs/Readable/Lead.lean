import SqlTree.Proofs.Spelling

/-!
# The first token of a value

Every value has tokens, and the first of them decides which form the value has
(`Expr.lead_tokens`). Parentheses stand for arithmetic and for queries alike, and
a name for a column and for all columns; these are told apart by what follows.
-/

namespace SqlTree

/-- The forms of values that their first token tells apart. -/
inductive Lead where
  | number
  | text
  | null
  | placeholder
  | name
  | call
  | parenthesis
  | minus
  | choice
deriving DecidableEq

/-- The form of a value. -/
def Expr.lead : Expr → Lead
  | .number _ => .number
  | .text _ => .text
  | .null => .null
  | .placeholder _ => .placeholder
  | .column _ | .allColumns _ => .name
  | .call _ => .call
  | .arithmetic _ _ _ | .subquery _ => .parenthesis
  | .negation _ => .minus
  | .matchCase _ | .conditionalCase _ => .choice

/-- The form of the values that start with a token. -/
def Token.lead? (token : Token) : Option Lead :=
  match token.kind with
  | .literal =>
    match token.text.toList.head?.map Opening.of with
    | some .string => some .text
    | some .marker => some .placeholder
    | _ => some .number
  | .identifier => some .name
  | .callee => some .call
  | .opening => some .parenthesis
  | .unary => some .minus
  | .keyword =>
    if token = .keyword .null then some .null
    else if token = .keyword .case then some .choice
    else none
  | .operator | .comma | .dot | .closing => none

/-- Whether a value can start with a token. -/
def Token.startsValue (token : Token) : Bool :=
  token.lead?.isSome

/-- The first character of a numeral is a minus sign or a digit. -/
theorem Numeral.opening_text (numeral : Numeral) :
    ∃ c, numeral.text.toList.head? = some c ∧
      (Opening.of c = .symbolOrComment '-' ∨ Opening.of c = .number) := by
  obtain ⟨negative, ⟨chars, nonempty, digits⟩, fraction⟩ := numeral
  rw [Numeral.toList_text]
  cases negative with
  | true => exact ⟨'-', rfl, .inl (by decide)⟩
  | false =>
    cases chars with
    | nil => exact absurd rfl nonempty
    | cons digit more =>
      exact ⟨digit, rfl, .inr (opening_of_isDigit (digits digit (by simp)))⟩

/-- The first token of a value decides its form. -/
theorem Expr.lead_tokens (context : Context) (expr : Expr) :
    ∃ token tail, expr.tokens context = token :: tail ∧ token.lead? = some expr.lead := by
  have isChoice : (Token.keyword .case).lead? = some .choice := by decide
  cases expr with
  | number numeral =>
    refine ⟨_, _, rfl, ?_⟩
    obtain ⟨c, isFirst, opens | opens⟩ := numeral.opening_text <;>
      simp [Token.lead?, Token.literal, isFirst, opens, Expr.lead]
  | text value =>
    refine ⟨_, _, rfl, ?_⟩
    have opens : Opening.of '\'' = .string := by decide
    simp [Token.lead?, Token.literal, Text.enclose, opens, Expr.lead]
  | null => exact ⟨_, _, rfl, by decide⟩
  | placeholder parameter =>
    refine ⟨_, _, rfl, ?_⟩
    obtain ⟨marker, valid⟩ := parameter
    cases shape : marker.toList with
    | nil => simp [shape, Placeholder.IsMarker] at valid
    | cons sign more =>
      rw [shape] at valid
      simp [Token.lead?, Token.literal, shape, opening_of_mem_signs valid.1, Expr.lead]
  | column reference =>
    rw [Expr.tokens, Column.tokens]
    cases (if reference.override.getD context.qualify then reference.qualifier else none) <;>
      exact ⟨_, _, rfl, rfl⟩
  | allColumns qualifier => cases qualifier <;> exact ⟨_, _, rfl, rfl⟩
  | call invocation =>
    obtain ⟨name, arguments, window⟩ := invocation
    exact ⟨_, _, rfl, rfl⟩
  | arithmetic operator left right => exact ⟨_, _, rfl, rfl⟩
  | negation operand => exact ⟨_, _, rfl, rfl⟩
  | matchCase choice =>
    obtain ⟨subject, branches, otherwise⟩ := choice
    exact ⟨_, _, rfl, isChoice⟩
  | conditionalCase choice =>
    obtain ⟨branches, otherwise⟩ := choice
    exact ⟨_, _, rfl, isChoice⟩
  | subquery body => exact ⟨_, _, rfl, rfl⟩

/-- The first token of a value is one that a value can start with. -/
theorem Expr.begins (context : Context) (expr : Expr) :
    ∃ token tail, expr.tokens context = token :: tail ∧ token.startsValue = true := by
  obtain ⟨token, tail, shape, isLead⟩ := expr.lead_tokens context
  exact ⟨token, tail, shape, by simp [Token.startsValue, isLead]⟩

/-- Values whose tokens start alike have the same form. -/
theorem Expr.lead_eq {context : Context} {first second : Expr} {rest otherRest : List Token}
    (same : first.tokens context ++ rest = second.tokens context ++ otherRest) :
    first.lead = second.lead := by
  obtain ⟨token, tail, shape, isLead⟩ := first.lead_tokens context
  obtain ⟨other, otherTail, otherShape, isOtherLead⟩ := second.lead_tokens context
  rw [shape, otherShape] at same
  have sameToken : token = other := by simpa using congrArg List.head? same
  rw [sameToken, isOtherLead] at isLead
  exact (Option.some.inj isLead).symm

end SqlTree
