import SqlTree.Token

/-!
# The text of tokens, part by part

The text of a sequence of tokens is put together from the texts of its parts, wherever it is cut
(`Token.text_composes`). Between the texts of two parts there is a space or nothing, and the kinds
of the two tokens that meet there decide which. A part without tokens leaves no trace.

The writer of tokens goes on from the kind of the token before (`textAfter`). All that a part can
know of what precedes it is this kind (`kindAfter_eq`), and all that the kind decides is what
stands before the first token of the part (`textAfter_eq`).
-/

namespace SqlTree

/-- What stands between two sequences of tokens, the first of which ends with a token of a kind,
and the second of which starts with one. An empty sequence has no such token. -/
def TokenKind.seam (last next : Option TokenKind) : String :=
  next.elim "" (Token.gap last)

namespace TokenKind

@[simp] theorem seam_none (last : Option TokenKind) : seam last none = "" :=
  rfl

@[simp] theorem none_seam (next : Option TokenKind) : seam none next = "" := by
  cases next <;> rfl

/-- Between two tokens there is a space or nothing. -/
theorem seam_eq (last next : Option TokenKind) : seam last next = "" ∨ seam last next = " " := by
  rcases last with _ | last
  · exact .inl (none_seam next)
  · rcases next with _ | next
    · exact .inl rfl
    · rw [seam, Option.elim_some, Token.gap]
      split
      · exact .inr rfl
      · exact .inl rfl

/-- There is nothing after an opening parenthesis, a dot and a sign, nothing before a closing
parenthesis, a comma and a dot, and nothing between a callee and its parenthesis. Between all
other tokens there is a space. -/
theorem seam_some_eq_empty_iff (last next : TokenKind) :
    seam (some last) (some next) = "" ↔
      last ∈ [.opening, .dot, .unary] ∨ next ∈ [.closing, .comma, .dot] ∨
        (last = .callee ∧ next = .opening) := by
  cases last <;> cases next <;> decide

end TokenKind

namespace Token

open TokenKind (seam)

/-- The kind that decides the space after some tokens is that of the last one. -/
theorem kindAfter_eq (previous : Option TokenKind) (tokens : List Token) :
    kindAfter previous tokens = (tokens.getLast?.map Token.kind).or previous := by
  induction tokens generalizing previous with
  | nil => rfl
  | cons token rest inductionHypothesis =>
    rw [kindAfter, inductionHypothesis, List.getLast?_cons]
    cases rest.getLast? <;> rfl

/-- What comes before tokens decides only what stands before the first of them. -/
theorem textAfter_eq (previous : Option TokenKind) (tokens : List Token) :
    textAfter previous tokens = seam previous (tokens.head?.map Token.kind) ++ textOf tokens := by
  cases tokens with
  | nil => rfl
  | cons token rest => simp [textOf, textAfter, seam, gap]

/-- The texts of the parts of a sequence, each part written after the token that precedes it. -/
def textsOfParts (previous : Option TokenKind) : List (List Token) → List String
  | [] => []
  | part :: rest =>
    textAfter previous part :: textsOfParts ((part.getLast?.map Token.kind).or previous) rest

/-- A sequence may be written part by part. -/
theorem textAfter_flatten (previous : Option TokenKind) (parts : List (List Token)) :
    textAfter previous parts.flatten = String.join (textsOfParts previous parts) := by
  induction parts generalizing previous with
  | nil => rfl
  | cons part rest inductionHypothesis =>
    rw [List.flatten_cons, textAfter_append, inductionHypothesis, kindAfter_eq, textsOfParts,
      String.join_cons]

/-- A text is that of the first token, and for every further one what stands between it and the
token before, and its text. -/
theorem textOf_cons (token : Token) (rest : List Token) :
    textOf (token :: rest) = token.text ++ String.join
      (List.zipWith (fun last next => seam (some last.kind) (some next.kind) ++ next.text)
        (token :: rest) rest) := by
  rw [textOf, textAfter, gap, String.empty_append]
  congr 1
  induction rest generalizing token with
  | nil => rfl
  | cons next rest inductionHypothesis =>
    rw [textAfter, inductionHypothesis next, List.zipWith_cons_cons, String.join_cons,
      String.append_assoc]
    rfl

/-- The text of tokens is composed of the texts of its parts.

The text of two sequences, one after the other, is the text of the first one, what the kinds of
the two tokens that meet decide, which is a space or nothing, and the text of the second one. If
one of them is empty, there is nothing to decide.

So the text of a sequence consists of the texts of its tokens and, between two of them, a space or
nothing. It may be written in parts, cut anywhere, if each part is written after the kind of the
token before it. -/
theorem text_composes :
    (∀ first second : List Token, textOf (first ++ second) =
      textOf first ++ seam (first.getLast?.map Token.kind) (second.head?.map Token.kind) ++
        textOf second) ∧
      (∀ last next, seam last next = "" ∨ seam last next = " ") ∧
      (∀ kind, seam none kind = "" ∧ seam kind none = "") ∧
      (∀ last next, seam (some last) (some next) = "" ↔
        last ∈ [.opening, .dot, .unary] ∨ next ∈ [.closing, .comma, .dot] ∨
          (last = .callee ∧ next = .opening)) ∧
      textOf [] = "" ∧
      (∀ (token : Token) (rest : List Token), textOf (token :: rest) = token.text ++ String.join
        (List.zipWith (fun last next => seam (some last.kind) (some next.kind) ++ next.text)
          (token :: rest) rest)) ∧
      ∀ (previous : Option TokenKind) (parts : List (List Token)),
        textAfter previous parts.flatten = String.join (textsOfParts previous parts) := by
  refine ⟨fun first second => ?_, TokenKind.seam_eq, fun kind => ⟨TokenKind.none_seam kind, rfl⟩,
    TokenKind.seam_some_eq_empty_iff, rfl, textOf_cons, textAfter_flatten⟩
  rw [textOf, textAfter_append, textAfter_eq (kindAfter none first), kindAfter_eq, Option.or_none,
    String.append_assoc]
  rfl

end Token

end SqlTree
