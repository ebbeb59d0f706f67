import SqlTree.Proofs.Reading.Connectives

/-!
# Reading a condition

How a reader of SQL takes the tokens of a condition apart (`Formula.read`). They are cut
at `OR` first, then at `AND`, and then a leading `NOT` is taken off; what remains is read
again from the start if it is between parentheses as a whole, and is an atom if it is
not.

The reader knows nothing of the trees that conditions are rendered from. What it makes
of the tokens that it can be given is said by one lemma for each thing that it does.
-/

namespace SqlTree

open Token

/-- A statement about some atoms. -/
inductive Formula (Atom : Type) where
  | atom (atom : Atom)
  | negation (formula : Formula Atom)
  | join (connective : Connective) (left right : Formula Atom)
deriving DecidableEq

/-- The truth of two statements under a connective. -/
def Connective.apply : Connective → Bool → Bool → Bool
  | and, left, right => left && right
  | or, left, right => left || right

/-- A connective joins several statements in any order. -/
theorem Connective.apply_assoc (connective : Connective) (first second third : Bool) :
    connective.apply (connective.apply first second) third =
      connective.apply first (connective.apply second third) := by
  cases connective
  · exact Bool.and_assoc first second third
  · exact Bool.or_assoc first second third

/-- The truth of no statements under a connective. -/
def Connective.neutral : Connective → Bool
  | and => true
  | or => false

/-- Nothing more under a connective changes no truth. -/
theorem Connective.apply_neutral (connective : Connective) (value : Bool) :
    connective.apply value connective.neutral = value := by
  cases connective <;> simp [apply, neutral]

/-- What can stand on the left of a connective without parentheses: what is joined by
the connective that binds tighter, or what is not joined at all. -/
def Connective.tighter : Connective → Option Connective
  | and => none
  | or => some and

/-- How loosely tokens are bound that are joined by a connective, or not at all. -/
def looseness : Option Connective → Nat
  | none => 0
  | some .and => 1
  | some .or => 2

/-- Nothing is looser than what is joined by `OR`. -/
theorem looseness_le_or (level : Option Connective) : looseness level ≤ looseness (some .or) := by
  rcases level with _ | _ | _ <;> decide

/-- Everything else is at most as loose as what is joined by `AND`. -/
theorem looseness_le_and {level : Option Connective} (notOr : level ≠ some .or) :
    looseness level ≤ looseness (some .and) := by
  rcases level with _ | _ | _
  · decide
  · decide
  · exact absurd rfl notOr

namespace Formula

variable {Atom Name : Type}

/-- The truth of a statement, given that of its atoms. -/
def eval (truth : Atom → Bool) : Formula Atom → Bool
  | .atom name => truth name
  | .negation formula => !formula.eval truth
  | .join connective left right => connective.apply (left.eval truth) (right.eval truth)

/-- The atoms of a statement from left to right. -/
def atoms : Formula Atom → List Atom
  | .atom name => [name]
  | .negation formula => formula.atoms
  | .join _ left right => left.atoms ++ right.atoms

/-- The statement with a name for each of its atoms. -/
def map (name : Atom → Name) : Formula Atom → Formula Name
  | .atom single => .atom (name single)
  | .negation formula => .negation (formula.map name)
  | .join connective left right => .join connective (left.map name) (right.map name)

end Formula

/-- What is between the first token and the last one, if these are parentheses that
belong to each other. -/
def enclosed? : List Token → Option (List Token)
  | [] => none
  | first :: rest =>
    if first = .opening ∧ rest.getLast? = some .closing ∧
        ∀ entry ∈ withDepth true 1 rest, 0 < entry.2 then
      some rest.dropLast
    else none

section Enclosing

variable {token : Token} {tokens inside : List Token}

/-- What is between parentheses is shorter than what it is taken from. -/
theorem length_lt_of_enclosed? (found : enclosed? tokens = some inside) :
    inside.length < tokens.length := by
  cases tokens with
  | nil => simp [enclosed?] at found
  | cons first rest =>
    rw [enclosed?] at found
    split at found
    · cases found
      simp only [List.length_dropLast, List.length_cons]
      omega
    · cases found

/-- Balanced tokens between parentheses are found. -/
theorem enclosed?_parenthesized {shown : Token → Prop} (balanced : Balanced true shown tokens) :
    enclosed? (parenthesized tokens) = some tokens := by
  have deep : ∀ entry ∈ withDepth true 1 (tokens ++ [.closing]), 0 < entry.2 := by
    rw [balanced.withDepth_append]
    intro entry member
    rcases List.mem_append.1 member with inside | last
    · exact balanced.depth_le inside
    · simp [withDepth] at last
      simp [last]
  rw [parenthesized, List.cons_append, enclosed?, if_pos ⟨rfl, by simp, deep⟩]
  simp

/-- Tokens that show more than parentheses are not between parentheses as a whole. -/
theorem enclosed?_eq_none (notOpening : token ≠ .opening)
    (shown : (token, 0) ∈ withDepth true 0 tokens) : enclosed? tokens = none := by
  cases tokens with
  | nil => rfl
  | cons first rest =>
    rw [enclosed?, if_neg]
    rintro ⟨rfl, -, deep⟩
    have depthInside : Token.opening.depthAfter true 0 = 1 := by decide
    rw [withDepth, depthInside, List.mem_cons] at shown
    rcases shown with isFirst | inRest
    · exact notOpening (congrArg Prod.fst isFirst)
    · exact absurd (deep _ inRest) (Nat.lt_irrefl 0)

end Enclosing

/-- Marked tokens cut at the first of the given connective, if there is one. -/
def cutAtFirst? (connective : Connective) :
    List (Token × Bool) → Option (List (Token × Bool) × List (Token × Bool))
  | [] => none
  | entry :: rest =>
    if entry = (.keyword connective.keyword, true) then some ([], rest)
    else (cutAtFirst? connective rest).map fun (before, after) => (entry :: before, after)

section Cutting

variable {connective : Connective} {entries before after : List (Token × Bool)}

/-- Both parts are shorter than what is cut. -/
theorem length_lt_of_cutAtFirst? (cut : cutAtFirst? connective entries = some (before, after)) :
    before.length < entries.length ∧ after.length < entries.length := by
  induction entries generalizing before with
  | nil => cases cut
  | cons entry rest inductionHypothesis =>
    rw [cutAtFirst?] at cut
    split at cut
    · cases cut
      simp
    · obtain ⟨⟨_, _⟩, inRest, same⟩ := Option.map_eq_some_iff.1 cut
      cases same
      have shorter := inductionHypothesis inRest
      simp only [List.length_cons]
      omega

/-- What does not hold the connective is not cut. -/
theorem cutAtFirst?_eq_none (lacks : (.keyword connective.keyword, true) ∉ entries) :
    cutAtFirst? connective entries = none := by
  induction entries with
  | nil => rfl
  | cons entry rest inductionHypothesis =>
    rw [List.mem_cons, not_or] at lacks
    rw [cutAtFirst?, if_neg (Ne.symm lacks.1), inductionHypothesis lacks.2]
    rfl

/-- What is before the cut does not hold the connective. -/
theorem cutAtFirst?_append (lacks : (.keyword connective.keyword, true) ∉ before) :
    cutAtFirst? connective (before ++ (.keyword connective.keyword, true) :: after) =
      some (before, after) := by
  induction before with
  | nil => rw [List.nil_append, cutAtFirst?, if_pos rfl]
  | cons entry rest inductionHypothesis =>
    rw [List.mem_cons, not_or] at lacks
    rw [List.cons_append, cutAtFirst?, if_neg (Ne.symm lacks.1), inductionHypothesis lacks.2]
    rfl

end Cutting

/-- The statement that marked tokens make, as a reader takes them who looks for a
connective of the given looseness first. -/
def Formula.read (level : Option Connective) (entries : List (Token × Bool)) :
    Formula (List Token) :=
  match level with
  | some connective =>
    match _ : cutAtFirst? connective entries with
    | none => read connective.tighter entries
    | some (before, after) =>
      .join connective (read connective.tighter before) (read (some connective) after)
  | none =>
    match entries with
    | [] => .atom []
    | first :: rest =>
      if first = (.keyword .not, true) then .negation (read none rest)
      else
        match _ : enclosed? ((first :: rest).map Prod.fst) with
        | some inside => read (some .or) (marked inside)
        | none => .atom ((first :: rest).map Prod.fst)
termination_by (entries.length, looseness level)
decreasing_by
  · exact .right _ (by cases connective <;> decide)
  · rename_i cut
    exact .left _ _ (length_lt_of_cutAtFirst? cut).1
  · rename_i cut
    exact .left _ _ (length_lt_of_cutAtFirst? cut).2
  · exact .left _ _ (by simp)
  · rename_i found
    exact .left _ _ (by simpa using length_lt_of_enclosed? found)

/-- The statement that tokens make. -/
def Formula.ofTokens (tokens : List Token) : Formula (List Token) :=
  read (some .or) (marked tokens)

namespace Formula

variable {connective : Connective} {entries before after : List (Token × Bool)}
  {tokens : List Token}

/-- Tokens without the connective are read as those of a tighter one. -/
theorem read_of_lacks (lacks : (.keyword connective.keyword, true) ∉ entries) :
    read (some connective) entries = read connective.tighter entries := by
  have uncut := cutAtFirst?_eq_none lacks
  rw [read]
  split <;> simp_all

/-- Tokens are read in two parts, before and after the first of the connective. -/
theorem read_append (lacks : (.keyword connective.keyword, true) ∉ before) :
    read (some connective) (before ++ (.keyword connective.keyword, true) :: after) =
      .join connective (read connective.tighter before) (read (some connective) after) := by
  have isCut : cutAtFirst? connective (before ++ (.keyword connective.keyword, true) :: after) =
      some (before, after) := cutAtFirst?_append lacks
  rw [read]
  split <;> simp_all

/-- A leading `NOT` negates the rest. -/
theorem read_negation :
    read none ((.keyword .not, true) :: entries) = .negation (read none entries) := by
  rw [read, if_pos rfl]

/-- What is between parentheses is read from the start. -/
theorem read_parenthesized {shown : Token → Prop} (balanced : Balanced true shown tokens)
    (isWhole : entries.map Prod.fst = parenthesized tokens) :
    read none entries = ofTokens tokens := by
  have found := enclosed?_parenthesized balanced
  rw [← isWhole] at found
  cases entries with
  | nil => cases isWhole
  | cons first rest =>
    have notNegation : first ≠ (.keyword .not, true) := by
      rintro rfl
      exact absurd (congrArg Token.kind (List.cons.inj isWhole).1)
        (by simp [Token.keyword, Token.opening])
    rw [read, if_neg notNegation]
    split <;> simp_all [ofTokens]

/-- Tokens that hold no connective and show more than parentheses are an atom. -/
theorem read_atom {token : Token} (notOpening : token ≠ .opening)
    (shown : (token, 0) ∈ withDepth true 0 tokens) :
    read none (unmarked tokens) = .atom tokens := by
  have notFound := enclosed?_eq_none notOpening shown
  cases tokens with
  | nil => rw [unmarked_nil, read]
  | cons first rest =>
    have whole : (unmarked (first :: rest)).map Prod.fst = first :: rest := map_fst_unmarked _
    rw [unmarked_cons] at whole ⊢
    rw [read, if_neg (by simp)]
    split <;> simp_all

/-- `NOT (a = 1 OR b NOT BETWEEN 1 AND 2) AND a = 1`. -/
example :
    let isOne := [identifier "a", .operator "=", literal "1"]
    let outside := [identifier "b", keyword .not, keyword .between, literal "1", keyword .and,
      literal "2"]
    ofTokens (keyword .not :: parenthesized (isOne ++ keyword .or :: outside) ++
        keyword .and :: isOne) =
      .join .and (.negation (.join .or (.atom isOne) (.atom outside))) (.atom isOne) := by
  cbv

end Formula

end SqlTree
