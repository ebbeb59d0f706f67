import Mathlib.Data.List.Chain
import SqlTree.Proofs.Parts.Rendering

/-!
# Branches and their conditions

A condition that holds nothing has no tokens, and a branch is written with its condition
as it is. So `WHEN` stands directly before `THEN` in a statement exactly if the condition
of a branch holds nothing (`Statement.conditions_written_iff`). Clauses, joins and
negations leave such conditions out and their own words with them; branches keep theirs.
-/

namespace SqlTree

/-- Whether a token leaves room for the condition of a branch before the next one. -/
def Token.LeavesCondition (token next : Token) : Prop :=
  token = .keyword .when → next ≠ .keyword .then

instance : DecidableRel Token.LeavesCondition :=
  fun token next => inferInstanceAs (Decidable (token = _ → next ≠ _))

/-- Whether every branch among the tokens is written with a condition. -/
def ConditionsWritten (tokens : List Token) : Prop :=
  tokens.IsChain Token.LeavesCondition

instance (tokens : List Token) : Decidable (ConditionsWritten tokens) :=
  inferInstanceAs (Decidable (tokens.IsChain _))

variable {dialect : Dialect} {parts : List Part} {tokens first second terse : List Token}

/-- Tokens one after the other, where no branch is cut in two. -/
theorem conditionsWritten_append (whole : first.getLast? ≠ some (.keyword .when)) :
    ConditionsWritten (first ++ second) ↔ ConditionsWritten first ∧ ConditionsWritten second := by
  rw [ConditionsWritten, List.isChain_append]
  refine ⟨fun chain => ⟨chain.1, chain.2.1⟩, fun chain => ⟨chain.1, chain.2, ?_⟩⟩
  rintro token isLast - - rfl
  exact absurd isLast whole

/-- Tokens among which there is no word of a branch. -/
structure LacksBranch (tokens : List Token) : Prop where
  noWhen : .keyword .when ∉ tokens
  noThen : .keyword .then ∉ tokens

namespace LacksBranch

/-- Tokens that no part brings lack the words of a branch. -/
theorem of_isFixed (fixed : ∀ token ∈ tokens, token.IsFixed) : LacksBranch tokens :=
  ⟨fun member => fixed _ member .when (by decide) rfl,
    fun member => fixed _ member .then (by decide) rfl⟩

/-- An alias lacks the words of a branch. -/
theorem aliasTokens (usingAs : Bool) (aliasName : Option Identifier) :
    LacksBranch (aliasTokens usingAs aliasName) := by
  have notName : ∀ (word : Keyword) name, Token.keyword word ≠ .identifier name := by
    simp [Token.identifier, Token.keyword]
  constructor <;> cases aliasName <;> cases usingAs <;>
    simp [SqlTree.aliasTokens, keywordIf, notName]

/-- The words of a join lack those of a branch. -/
theorem joinTokens (dialect : Dialect) (kind : JoinKind) : LacksBranch (kind.tokens dialect) := by
  constructor <;> cases kind <;> cases inner : dialect.verboseInnerJoin <;>
    cases outer : dialect.verboseOuterJoin <;> simp [JoinKind.tokens, keywordIf, inner, outer]

/-- The edges of tokens are among them. -/
theorem edges (lacks : LacksBranch tokens) :
    tokens.head? ≠ some (.keyword .then) ∧ tokens.getLast? ≠ some (.keyword .when) :=
  ⟨fun isHead => lacks.noThen (List.mem_of_head? isHead),
    fun isLast => lacks.noWhen (List.mem_of_getLast? isLast)⟩

/-- Where there is no branch, none is without its condition. -/
theorem conditionsWritten (lacks : LacksBranch tokens) : ConditionsWritten tokens := by
  refine (List.pairwise_of_forall_mem_list ?_).isChain
  rintro token member - - rfl
  exact absurd member lacks.noWhen

end LacksBranch

/-- A branch starts with `WHEN`, and ends with its result or with `THEN`. -/
theorem edges_branchTokens (condition : List Token) {result : List Token}
    (whole : result.getLast? ≠ some (.keyword .when)) :
    (branchTokens condition result).head? ≠ some (.keyword .then) ∧
      (branchTokens condition result).getLast? ≠ some (.keyword .when) := by
  refine ⟨by simp [branchTokens], ?_⟩
  rw [branchTokens, List.getLast?_append, List.getLast?_cons, Option.some_or]
  cases isLast : result.getLast? with
  | none => simp
  | some token => simpa [isLast] using whole

namespace Worded

/-- The words of a branch stand inside of a text, not at its edges. -/
theorem edges (worded : Worded dialect parts first terse) :
    first.head? ≠ some (.keyword .then) ∧ first.getLast? ≠ some (.keyword .when) := by
  induction worded with
  | same tokens fixed => exact (LacksBranch.of_isFixed fixed).edges
  | append _ _ left right =>
    rw [List.head?_append, List.getLast?_append, ne_eq, ne_eq, Option.or_eq_some_iff,
      Option.or_eq_some_iff]
    exact ⟨fun isHead => isHead.elim left.1 fun isHead => right.1 isHead.2,
      fun isLast => isLast.elim right.2 fun isLast => left.2 isLast.2⟩
  | source | projection => exact (LacksBranch.aliasTokens _ _).edges
  | join => exact (LacksBranch.joinTokens _ _).edges
  | matchBranch _ _ _ _ right | branch _ _ _ _ _ right => exact edges_branchTokens _ right.2

/-- A branch is written with a condition if there are tokens for it. -/
theorem conditionsWritten_branchTokens {condition : List Token} (result : List Token)
    (left : Worded dialect parts condition terse) :
    ConditionsWritten (branchTokens condition result) ↔
      condition ≠ [] ∧ ConditionsWritten condition ∧ ConditionsWritten result := by
  obtain ⟨noThen, noWhen⟩ := left.edges
  cases condition with
  | nil =>
    -- The two words of the branch are neighbours.
    simp [branchTokens, ConditionsWritten, Token.LeavesCondition]
  | cons token rest =>
    have behind : ConditionsWritten (.keyword .then :: result) ↔ ConditionsWritten result := by
      simp [ConditionsWritten, List.isChain_cons, Token.LeavesCondition]
    have before : ConditionsWritten (.keyword .when :: token :: rest) ↔
        ConditionsWritten (token :: rest) := by
      have isNext : token ≠ .keyword .then := by simpa using noThen
      simp [ConditionsWritten, Token.LeavesCondition, isNext]
    have whole : (Token.keyword .when :: token :: rest).getLast? ≠ some (.keyword .when) := by
      rwa [List.getLast?_cons_cons]
    rw [branchTokens, conditionsWritten_append whole, before, behind]
    simp

/-- In a text, the conditions of all branches are written exactly if none of them holds
nothing. -/
theorem conditionsWritten_iff (worded : Worded dialect parts first terse) :
    ConditionsWritten first ↔
      ∀ branch, .branch branch ∈ parts → branch.condition.vacuous = false := by
  induction worded with
  | same tokens fixed => simp [(LacksBranch.of_isFixed fixed).conditionsWritten]
  | append left _ leftIff rightIff =>
    rw [conditionsWritten_append left.edges.2, leftIff, rightIff]
    simp only [List.mem_append, or_imp, forall_and]
  | source | projection => simp [(LacksBranch.aliasTokens _ _).conditionsWritten]
  | join => simp [(LacksBranch.joinTokens _ _).conditionsWritten]
  | matchBranch notNil left _ leftIff rightIff =>
    rw [left.conditionsWritten_branchTokens, leftIff, rightIff]
    simp only [notNil, ne_eq, not_false_eq_true, true_and, List.mem_append, or_imp, forall_and]
  | branch branch nil_iff left _ leftIff rightIff =>
    rw [left.conditionsWritten_branchTokens, leftIff, rightIff, ne_eq, nil_iff]
    simp [or_imp, forall_and]

end Worded

/-- In a statement, every `WHEN` is followed by a condition exactly if no condition of a
branch holds nothing. -/
theorem Statement.conditions_written_iff (dialect : Dialect) (statement : Statement) :
    ConditionsWritten (statement.tokens dialect) ↔
      ∀ branch, .branch branch ∈ statement.parts → branch.condition.vacuous = false :=
  (statement.worded dialect).conditionsWritten_iff

/-- A branch that is chosen by a group of nothing is written without a condition. -/
theorem conditions_unwritten_emptyGroup :
    ¬ ∀ (dialect : Dialect) (statement : Statement),
      ConditionsWritten (statement.tokens dialect) := by
  intro written
  let one : Expr := .number (.ofNat 1)
  let two : Expr := .number (.ofNat 2)
  let nothing : Condition := ⟨.group ⟨.and, []⟩, false⟩
  let holds : Condition := ⟨.comparison one .equal one, false⟩
  let choice : Expr := .conditionalCase ⟨[⟨nothing, one⟩, ⟨holds, two⟩], none⟩
  let select : Select := ⟨none, none, [⟨choice, none⟩], [], ⟨[]⟩, [], [], [], [], false⟩
  exact absurd (written .standard (.query (.select select))) (by decide)

end SqlTree
