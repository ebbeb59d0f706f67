import SqlTree.Proofs.Nesting

/-!
# Cutting tokens into pieces

What a reader finds who looks only at what is outermost: outside parentheses, and outside of
choices as well if these count. Tokens are cut wherever a separator is outermost (`pieces`), and
what the outermost parentheses enclose is taken out of them (`groups`).

Whatever is balanced and does not show the separator is passed over as a whole, so the pieces
of tokens that are put together around separators are the parts that were put together.
-/

namespace SqlTree

open Token

/-- The outermost tokens: those outside parentheses, and outside of choices if these count. -/
def outermost (choices : Bool) (tokens : List Token) : List Token :=
  ((withDepth choices 0 tokens).filter fun entry => entry.2 = 0).map Prod.fst

/-- Tokens cut at a separator, wherever it is outermost. -/
def pieces (choices : Bool) (separator : Token) (tokens : List Token) : List (List Token) :=
  ((withDepth choices 0 tokens).splitOn (separator, 0)).map fun piece => piece.map Prod.fst

/-- Tokens cut at the outermost commas. No tokens are no elements. -/
def outerElements (choices : Bool) (tokens : List Token) : List (List Token) :=
  if tokens = [] then [] else pieces choices .comma tokens

/-- What is between the outermost parentheses, one pair after the other. -/
def groups (tokens : List Token) : List (List Token) :=
  let enclosed := (withDepth false 0 tokens).filter fun entry => 0 < entry.2
  (enclosed.splitOn (.closing, 1)).dropLast.map fun group => group.map Prod.fst

/-- The tokens before the first separator and those behind it. -/
def cutAtFirst (separator : Token) (tokens : List Token) : List Token × List Token :=
  (tokens.takeWhile (· ≠ separator), (tokens.dropWhile (· ≠ separator)).tail)

variable {choices : Bool} {shown : Token → Prop} {separator : Token}
  {tokens first inside rest : List Token}

/-- No tokens of an element are commas or start a clause, if they are outermost. -/
theorem Phrase.startsNone (phrase : Phrase .element tokens) (choices : Bool) :
    Balanced choices (fun token => token ≠ .comma ∧
      ∀ word, token = .keyword word → word.startsClause = false) tokens := by
  have same : Breadth.element.unfolded choices = .element := by cases choices <;> rfl
  refine (phrase.balanced choices).mono fun token shown => ⟨fun isComma => ?_, ?_⟩
  · rw [same] at shown
    exact absurd (shown.1 isComma) (by decide)
  · rw [same] at shown
    intro word isWord
    rcases shown.2 word isWord with rfl | rfl | admitted
    · rfl
    · rfl
    · simp only [Breadth.admits, Bool.and_eq_true, Bool.not_eq_true'] at admitted
      exact admitted.2

/-- A list of balanced parts is balanced, if the commas between them may be shown. -/
theorem Balanced.commaSeparated {parts : List (List Token)} (comma : shown .comma)
    (balanced : ∀ part ∈ parts, Balanced choices shown part) :
    Balanced choices shown (commaSeparated parts) := by
  have separator : Balanced choices shown [.comma] :=
    .single comma (by cases choices <;> decide) (by cases choices <;> decide)
  induction parts with
  | nil => exact .nil
  | cons part others inductionHypothesis =>
    rw [List.forall_mem_cons] at balanced
    cases others with
    | nil => simpa [SqlTree.commaSeparated] using balanced.1
    | cons next more =>
      rw [SqlTree.commaSeparated, List.intercalate_cons_cons]
      exact (balanced.1.append separator).append (inductionHypothesis balanced.2)

/-- There is one separator less than there are pieces. -/
theorem count_outermost (choices : Bool) (separator : Token) (tokens : List Token) :
    (outermost choices tokens).count separator + 1 =
      (pieces choices separator tokens).length := by
  rw [outermost, pieces, List.length_map]
  induction withDepth choices 0 tokens with
  | nil => rfl
  | cons entry rest inductionHypothesis =>
    rw [List.splitOn_cons_eq_if_modifyHead]
    by_cases isSeparator : entry = (separator, 0)
    · simp [isSeparator, ← inductionHypothesis]
    · have uncounted : ∀ token, entry = (token, 0) → token ≠ separator := by
        rintro token same rfl
        exact isSeparator same
      obtain ⟨token, depth⟩ := entry
      by_cases outer : depth = 0
      · subst outer
        simp [uncounted, ← inductionHypothesis]
      · simp [outer, ← inductionHypothesis]

section Balanced

variable (balanced : Balanced choices shown first)
include balanced

/-- A separator that balanced tokens do not show does not have the least of their depths. -/
theorem Balanced.notMem_withDepth (hidden : ∀ token, shown token → token ≠ separator)
    (depth : Nat) : (separator, depth) ∉ withDepth choices depth first := by
  intro member
  rcases balanced.outside depth _ member with deeper | ⟨-, isShown⟩
  · exact absurd deeper (Nat.lt_irrefl _)
  · exact hidden _ isShown rfl

/-- Balanced tokens that do not show the separator are one piece. -/
theorem pieces_single (hidden : ∀ token, shown token → token ≠ separator) :
    pieces choices separator first = [first] := by
  rw [pieces, List.splitOn_eq_singleton (balanced.notMem_withDepth hidden 0), List.map_singleton,
    map_fst_withDepth]

/-- Balanced tokens that do not show the separator are the piece in front of it. -/
theorem pieces_append (hidden : ∀ token, shown token → token ≠ separator)
    (notOpening : separator.opens choices = false) (notClosing : separator.closes choices = false)
    (rest : List Token) :
    pieces choices separator (first ++ separator :: rest) =
      first :: pieces choices separator rest := by
  have sameDepth : separator.depthAfter choices 0 = 0 := by
    simp [depthAfter, notOpening, notClosing]
  rw [pieces, balanced.withDepth_append, withDepth, sameDepth,
    List.splitOn_append_cons_self_of_not_mem (balanced.notMem_withDepth hidden 0), List.map_cons,
    map_fst_withDepth]
  rfl

end Balanced

/-- The elements of a list are found again by the commas between them. -/
theorem outerElements_commaSeparated {parts : List (List Token)}
    (phrases : ∀ part ∈ parts, Phrase .element part) (choices : Bool) :
    outerElements choices (commaSeparated parts) = parts := by
  have comma : Token.comma.opens choices = false ∧ Token.comma.closes choices = false := by
    cases choices <;> decide
  cases parts with
  | nil => rfl
  | cons part others =>
    have notNil : commaSeparated (part :: others) ≠ [] :=
      (Phrase.commaSeparated (by simp) fun part member => (phrases part member).toClause).ne_nil
    rw [outerElements, if_neg notNil]
    clear notNil
    induction others generalizing part with
    | nil =>
      have element := (phrases part (by simp)).startsNone choices
      simpa [commaSeparated] using pieces_single element fun _ shown => shown.1
    | cons next more inductionHypothesis =>
      rw [List.forall_mem_cons] at phrases
      rw [commaSeparated, List.intercalate_cons_cons, List.append_assoc, List.singleton_append,
        pieces_append (phrases.1.startsNone choices) (fun _ shown => shown.1) comma.1 comma.2,
        ← commaSeparated, inductionHypothesis next phrases.2]

example :
    outerElements true [.identifier "a", .comma, .callee "f", .opening, .identifier "b", .comma,
        .identifier "c", .closing] =
      [[.identifier "a"],
        [.callee "f", .opening, .identifier "b", .comma, .identifier "c", .closing]] := by
  decide

/-- Each entry has the depth that the tokens before it leave behind. -/
theorem split_of_mem_withDepth {depth : Nat} {entry : Token × Nat}
    (member : entry ∈ withDepth choices depth tokens) :
    ∃ before after, tokens = before ++ entry.1 :: after ∧
      before.foldl (depthAfter choices) depth = entry.2 := by
  induction tokens generalizing depth with
  | nil => exact absurd member (by simp [withDepth])
  | cons token rest inductionHypothesis =>
    rcases List.mem_cons.1 member with rfl | later
    · exact ⟨[], rest, rfl, rfl⟩
    · obtain ⟨before, after, rfl, reached⟩ := inductionHypothesis later
      exact ⟨token :: before, after, rfl, reached⟩

/-- A parenthesis that closes around balanced tokens is not among them. -/
theorem Balanced.closing_notMem (balanced : Balanced false shown inside) (depth : Nat) :
    (Token.closing, depth + 1) ∉ withDepth false (depth + 1) inside := by
  intro member
  obtain ⟨before, after, rfl, reached⟩ := split_of_mem_withDepth member
  -- It would leave a depth behind that is less than the one balanced tokens start with.
  have left : (before ++ [Token.closing]).foldl (depthAfter false) (depth + 1) = depth := by
    rw [List.foldl_append, reached]
    rfl
  cases after with
  | nil =>
    have closed : depth = depth + 1 := left.symm.trans (balanced.closed (depth + 1))
    omega
  | cons next more =>
    have behind : (next, depth) ∈
        withDepth false (depth + 1) (before ++ Token.closing :: next :: more) := by
      have split : before ++ Token.closing :: next :: more =
          (before ++ [Token.closing]) ++ next :: more := by simp
      rw [split, Token.withDepth_append, left]
      exact List.mem_append_right _ (by simp [withDepth])
    have within := balanced.depth_le behind
    omega

/-- Tokens other than parentheses are in front of the groups. -/
theorem groups_append (flat : ∀ token ∈ first, token.kind ∉ [.opening, .closing]) :
    groups (first ++ rest) = groups rest ∧
      outermost false (first ++ rest) = first ++ outermost false rest := by
  induction first with
  | nil => exact ⟨rfl, rfl⟩
  | cons token more inductionHypothesis =>
    rw [List.forall_mem_cons] at flat
    obtain ⟨sameGroups, sameTokens⟩ := inductionHypothesis flat.2
    have sameDepth : token.depthAfter false 0 = 0 := by
      have kind := flat.1
      simp only [List.mem_cons, List.not_mem_nil, or_false, not_or] at kind
      simp [depthAfter, opens, closes, kind.1, kind.2]
    constructor
    · rw [← sameGroups]
      simp [groups, withDepth, sameDepth]
    · rw [List.cons_append, List.cons_append, ← sameTokens]
      simp [outermost, withDepth, sameDepth]

/-- Balanced tokens between parentheses are the next group. -/
theorem groups_parenthesized (balanced : Balanced false shown inside) (rest : List Token) :
    groups (parenthesized inside ++ rest) = inside :: groups rest ∧
      outermost false (parenthesized inside ++ rest) = .opening :: outermost false rest := by
  have depths : withDepth false 0 (parenthesized inside ++ rest) =
      (.opening, 0) :: withDepth false 1 inside ++ (.closing, 1) :: withDepth false 0 rest := by
    have opened : Token.opening.depthAfter false 0 = 1 := rfl
    have closed : Token.closing.depthAfter false 1 = 0 := rfl
    rw [parenthesized, List.cons_append, List.cons_append, withDepth, opened, List.append_assoc,
      balanced.withDepth_append, List.singleton_append, withDepth, closed, List.cons_append]
  have deep : ∀ entry ∈ withDepth false 1 inside, 0 < entry.2 := fun entry member =>
    Nat.lt_of_lt_of_le Nat.one_pos (balanced.depth_le member)
  constructor
  · have enclosed : (withDepth false 1 inside).filter (fun entry => 0 < entry.2) =
        withDepth false 1 inside :=
      List.filter_eq_self.2 fun entry member => decide_eq_true (deep entry member)
    rw [groups, depths]
    simp only [List.cons_append, List.filter_cons_of_neg, List.filter_append, enclosed,
      Nat.lt_irrefl, decide_false, Bool.false_eq_true, not_false_eq_true, Nat.one_pos,
      decide_true, List.filter_cons_of_pos]
    rw [List.splitOn_append_cons_self_of_not_mem (balanced.closing_notMem 0),
      List.dropLast_cons_of_ne_nil (List.splitOn_ne_nil _ _), List.map_cons, map_fst_withDepth]
    rfl
  · have hidden : (withDepth false 1 inside).filter (fun entry => entry.2 = 0) = [] :=
      List.filter_eq_nil_iff.2 fun entry member => by
        have isDeep := deep entry member
        simp only [decide_eq_true_eq]
        omega
    simp [outermost, depths, hidden]

/-- A list between parentheses is the next group. -/
theorem groups_commaSeparated {parts : List (List Token)}
    (phrases : ∀ part ∈ parts, Phrase .element part) (rest : List Token) :
    groups (parenthesized (commaSeparated parts) ++ rest) = commaSeparated parts :: groups rest ∧
      outermost false (parenthesized (commaSeparated parts) ++ rest) =
        .opening :: outermost false rest := by
  have balanced : Balanced false (fun _ => True) (commaSeparated parts) :=
    .commaSeparated trivial fun part member =>
      ((phrases part member).startsNone false).mono fun _ _ => trivial
  exact groups_parenthesized balanced rest

/-- What does not hold the separator is what is in front of the first one. -/
theorem cutAtFirst_append (absent : separator ∉ first) (rest : List Token) :
    cutAtFirst separator (first ++ separator :: rest) = (first, rest) := by
  have passed : ∀ token ∈ first, decide (token ≠ separator) = true := fun token member =>
    decide_eq_true (ne_of_mem_of_not_mem member absent)
  rw [cutAtFirst, List.takeWhile_append_of_pos passed, List.dropWhile_append_of_pos passed]
  simp

end SqlTree
