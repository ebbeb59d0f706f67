import SqlTree.Proofs.Clauses

/-!
# Chains of set operators

A set operation combines two queries, and an operand that is an operation itself may
stand without parentheses. What a reader sees then is no tree but a chain: operands, and
between two of them an operator with its quantifier. The operands of the chain are the
`SELECT`s and the operations in parentheses that are reached through operations without
parentheses (`Query.chain`).

Cutting at the operators outside parentheses finds that chain
(`SetOperation.chain_found`), for no operand of it shows an operator.
-/

namespace SqlTree

/-- Operands, each but the first after an operator and its quantifier. -/
structure Chain (Operator Operand : Type) where
  first : Operand
  others : List (Operator × Option SetQuantifier × Operand)

namespace Chain

variable {Operator Operand : Type}

/-- One operand. -/
def single (operand : Operand) : Chain Operator Operand :=
  ⟨operand, []⟩

/-- Two chains with an operator between them. -/
def join (left : Chain Operator Operand) (operator : Operator)
    (quantifier : Option SetQuantifier) (right : Chain Operator Operand) :
    Chain Operator Operand :=
  ⟨left.first, left.others ++ (operator, quantifier, right.first) :: right.others⟩

/-- The chain with others in place of its operators and operands. -/
def map {Word Part : Type} (word : Operator → Word) (part : Operand → Part)
    (chain : Chain Operator Operand) : Chain Word Part :=
  ⟨part chain.first, chain.others.map fun (operator, quantifier, operand) =>
    (word operator, quantifier, part operand)⟩

/-- The words of set operators. -/
def words : List Keyword :=
  [.union, .intersect, .except, .minus]

/-- The quantifier that tokens start with, if they do, and what is after it. -/
def takeQuantifier : List Token → Option SetQuantifier × List Token
  | [] => (none, [])
  | token :: rest =>
    if token = .keyword .all then (some .all, rest)
    else if token = .keyword .distinct then (some .distinct, rest)
    else (none, token :: rest)

/-- The chain that tokens are, as a reader takes them who looks for operators outside
parentheses. -/
def ofTokens (tokens : List Token) : Chain Keyword (List Token) :=
  let (first, parts) := sections words tokens
  ⟨first, parts.map fun (word, part) => (word, takeQuantifier part)⟩

end Chain

/-- The operands that a query consists of. An operation without parentheses consists of
those of its two sides, every other query of itself. -/
def Query.chain : Query → Chain SetOperator Query
  | .select body => .single (.select body)
  | .setOperation ⟨operator, left, right, quantifier, wrapped⟩ =>
    if wrapped then .single (.setOperation ⟨operator, left, right, quantifier, wrapped⟩)
    else left.chain.join operator quantifier right.chain

/-- The operands that an operation consists of, whether or not it asks for parentheses
itself. -/
def SetOperation.chain (operation : SetOperation) : Chain SetOperator Query :=
  operation.left.chain.join operation.operator operation.quantifier operation.right.chain

/-- The tokens of a query as an operand, with the parentheses that it asks for. -/
def Query.operandTokens (context : Context) (query : Query) : List Token :=
  parenthesizedIf query.wrapped (query.tokens context)

/-- Whether a query is an operation itself. -/
def Query.isOperation : Query → Bool
  | .select _ => false
  | .setOperation _ => true

variable {words : List Keyword} {context : Context}

/-- The tokens of an operation are those of its operands, with the operator and its
quantifier between them. -/
theorem SetOperation.tokens_eq (context : Context) (operation : SetOperation) :
    (Query.setOperation operation).tokens context =
      operation.left.operandTokens context ++
        .keyword operation.operator.keyword :: (setQuantifierTokens operation.quantifier ++
          operation.right.operandTokens context) := by
  obtain ⟨operator, left, right, quantifier, wrapped⟩ := operation
  simp only [Query.tokens, Query.operandTokens, List.append_assoc, List.cons_append]

/-- An operand starts with `SELECT` or with a parenthesis. -/
theorem Query.head?_operandTokens (context : Context) : (query : Query) →
    (query.operandTokens context).head? = some (.keyword .select) ∨
      (query.operandTokens context).head? = some .opening
  | .select ⟨_, _, _, _, _, _, _, _, _, wrapped⟩ => by
    cases wrapped with
    | false => exact .inl (by simp [operandTokens, Query.wrapped, parenthesizedIf, tokens,
        Select.tokens])
    | true => exact .inr (by simp [operandTokens, Query.wrapped, parenthesizedIf, parenthesized])
  | .setOperation ⟨operator, left, right, quantifier, wrapped⟩ => by
    cases wrapped with
    | true => exact .inr (by simp [operandTokens, Query.wrapped, parenthesizedIf, parenthesized])
    | false =>
      have whole : (Query.setOperation ⟨operator, left, right, quantifier, false⟩).operandTokens
          context = (Query.setOperation ⟨operator, left, right, quantifier, false⟩).tokens
            context := rfl
      rw [whole, SetOperation.tokens_eq, List.head?_append]
      rcases left.head?_operandTokens context with isSelect | isOpening
      · exact .inl (by rw [isSelect]; rfl)
      · exact .inr (by rw [isOpening]; rfl)
termination_by structural query => query

/-- The quantifier before an operand is found, and nothing is taken for one. -/
theorem Chain.takeQuantifier_append (quantifier : Option SetQuantifier) (query : Query) :
    takeQuantifier (setQuantifierTokens quantifier ++ query.operandTokens context) =
      (quantifier, query.operandTokens context) := by
  have isOpening : ∀ word, Token.opening ≠ .keyword word := by
    intro word same
    exact absurd (congrArg Token.kind same) (by simp [Token.opening, Token.keyword])
  cases quantifier with
  | some quantifier =>
    cases quantifier <;>
      simp [setQuantifierTokens, takeQuantifier, SetQuantifier.keyword]
  | none =>
    obtain head | head := query.head?_operandTokens context
    all_goals
      obtain ⟨rest, shape⟩ := List.head?_eq_some_iff.1 head
      simp [setQuantifierTokens, takeQuantifier, shape, isOpening]

/-- A word that is not among the given ones is none of them. -/
theorem Lacks.keyword {word : Keyword} (isOther : word ∉ words) : Lacks words [.keyword word] :=
  .single (fun other member same => isOther (Token.keyword_inj.1 same ▸ member))
    (by simp) (by simp)

/-- Clauses have none of the words if these are neither their own nor under them. -/
theorem Lacks.clauseTokens {clauses : List (Keyword × Option (List Token))}
    (others : ∀ clause ∈ clauses, clause.1 ∉ words)
    (lacks : ∀ clause ∈ clauses, ∀ body ∈ clause.2, Lacks words body) :
    Lacks words (clauseTokens clauses) := by
  induction clauses with
  | nil => exact .nil
  | cons clause more inductionHypothesis =>
    rw [List.forall_mem_cons] at others lacks
    have following := inductionHypothesis others.2 lacks.2
    obtain ⟨word, body?⟩ := clause
    cases body? with
    | none => exact following
    | some body => exact ((keyword others.1).append (lacks.1 body rfl)).append following

/-- A `SELECT` shows no set operator, whatever it holds. -/
theorem Select.lacks_operators (context : Context) (select : Select) :
    Lacks Chain.words (select.tokens context) := by
  rw [select.tokens_eq_clauseTokens]
  refine .clauseTokens ?_ (select.lacks_clauses (by decide) _)
  simp only [clauses, List.forall_mem_cons]
  decide

/-- What is between parentheses shows no set operator. -/
theorem Query.lacks_operators_parenthesized (context : Context) (query : Query) :
    Lacks Chain.words (parenthesized (query.tokens context)) := by
  refine ((query.phrase context).balanced false).parenthesized fun word _ same => ?_
  exact absurd (congrArg Token.kind same) (by simp [Token.opening, Token.keyword])

/-- An operand is cut into those that it consists of, if an operator or nothing follows
it. -/
theorem Query.sections_operandTokens (context : Context) {rest : List Token} :
    (query : Query) → (sections Chain.words rest).1 = [] →
    sections Chain.words (query.operandTokens context ++ rest) =
      (query.chain.first.operandTokens context,
        (query.chain.others.map fun (operator, quantifier, operand) =>
          (operator.keyword, setQuantifierTokens quantifier ++ operand.operandTokens context)) ++
            (sections Chain.words rest).2)
  | .select body, ends => by
    have lacks : Lacks Chain.words ((Query.select body).operandTokens context) := by
      rw [operandTokens, parenthesizedIf]
      split
      · exact lacks_operators_parenthesized context _
      · exact body.lacks_operators context
    rw [lacks.sections_append, ends]
    simp [chain, Chain.single]
  | .setOperation ⟨operator, left, right, quantifier, true⟩, ends => by
    have lacks := lacks_operators_parenthesized context
      (.setOperation ⟨operator, left, right, quantifier, true⟩)
    have whole : (Query.setOperation ⟨operator, left, right, quantifier, true⟩).operandTokens
        context = parenthesized ((Query.setOperation ⟨operator, left, right, quantifier,
          true⟩).tokens context) := rfl
    rw [whole, lacks.sections_append, ends]
    simp [chain, Chain.single, whole]
  | .setOperation ⟨operator, left, right, quantifier, false⟩, ends => by
    have whole : (Query.setOperation ⟨operator, left, right, quantifier, false⟩).operandTokens
        context ++ rest = left.operandTokens context ++ .keyword operator.keyword ::
          (setQuantifierTokens quantifier ++ (right.operandTokens context ++ rest)) := by
      rw [operandTokens, parenthesizedIf, if_neg (by simp [Query.wrapped]),
        SetOperation.tokens_eq]
      simp only [List.append_assoc, List.cons_append]
    have noOperator : Lacks Chain.words (setQuantifierTokens quantifier) :=
      .ofOptional (by decide) (.setQuantifierTokens quantifier)
    have isOperator : operator.keyword ∈ Chain.words := by cases operator <;> decide
    -- The operator between the two sides is a cut, so the left side ends there.
    let following := setQuantifierTokens quantifier ++ (right.operandTokens context ++ rest)
    have cut : sections Chain.words (.keyword operator.keyword :: following) =
        ([], (operator.keyword, (sections Chain.words following).1) ::
          (sections Chain.words following).2) := sections_cons isOperator
    rw [noOperator.sections_append, Query.sections_operandTokens context right ends] at cut
    rw [whole, Query.sections_operandTokens context left (by rw [cut]), cut]
    simp [chain, Chain.join]
termination_by structural query => query

/-- The chain of a query that is read where it stands as an operand. -/
theorem Query.ofTokens_operandTokens (context : Context) (query : Query) :
    Chain.ofTokens (query.operandTokens context) =
      query.chain.map SetOperator.keyword (operandTokens context) := by
  have ends : (sections Chain.words []).1 = [] := rfl
  have cut := Query.sections_operandTokens context query ends
  have nothing : sections Chain.words [] = ([], []) := rfl
  rw [nothing, List.append_nil, List.append_nil] at cut
  simp [Chain.ofTokens, cut, Chain.map, Chain.takeQuantifier_append]

/-- A query that is a `SELECT` or asks for parentheses consists of itself. -/
theorem Query.chain_eq_single (query : Query)
    (whole : query.isOperation = true → query.wrapped = true) : query.chain = .single query := by
  cases query with
  | select body => rfl
  | setOperation body =>
    obtain ⟨operator, left, right, quantifier, wrapped⟩ := body
    have isWrapped : wrapped = true := whole rfl
    rw [chain, if_pos isWrapped]

/-- The chain of a set operation is found by the operators that stand outside its
parentheses: its operands in order, each rendered whole and with the parentheses that it
asks for, and between them the operators with their quantifiers. If no operand is an
operation without parentheses, there is one operator, and the two sides are found by
it. -/
theorem SetOperation.chain_found (context : Context) (operation : SetOperation) :
    let found := Chain.ofTokens ((Query.setOperation operation).tokens context)
    found = operation.chain.map SetOperator.keyword (Query.operandTokens context) ∧
      ((∀ operand ∈ [operation.left, operation.right],
          operand.isOperation = true → operand.wrapped = true) →
        found = ⟨operation.left.operandTokens context,
          [(operation.operator.keyword, operation.quantifier,
            operation.right.operandTokens context)]⟩) := by
  intro found
  have isChain : found =
      operation.chain.map SetOperator.keyword (Query.operandTokens context) := by
    let bare : SetOperation := { operation with wrapped := false }
    have sameTokens : (Query.setOperation operation).tokens context =
        (Query.setOperation bare).operandTokens context := by
      rw [SetOperation.tokens_eq, ← SetOperation.tokens_eq context bare]
      rfl
    have sameChain : (Query.setOperation bare).chain = operation.chain := rfl
    rw [← sameChain, ← Query.ofTokens_operandTokens, ← sameTokens]
  refine ⟨isChain, fun whole => ?_⟩
  simp only [List.forall_mem_cons] at whole
  rw [isChain, chain, Query.chain_eq_single _ whole.1, Query.chain_eq_single _ whole.2.1]
  rfl

/-- In `(SELECT 1 UNION ALL SELECT 1) EXCEPT SELECT 1`, one operator stands outside the
parentheses. Without them there are two. -/
theorem SetOperation.chain_found_except :
    let one : Query := .select
      ⟨none, none, [⟨.number (.ofNat 1), none⟩], [], ⟨[]⟩, [], [], [], [], false⟩
    let union (wrapped : Bool) : Query := .setOperation ⟨.union, one, one, some .all, wrapped⟩
    let except (wrapped : Bool) : SetOperation := ⟨.except, union wrapped, one, none, false⟩
    let context : Context := ⟨.standard, true⟩
    let found (wrapped : Bool) :=
      Chain.ofTokens ((Query.setOperation (except wrapped)).tokens context)
    let select := one.operandTokens context
    found true = ⟨(union true).operandTokens context, [(.except, none, select)]⟩ ∧
      found false = ⟨select, [(.union, some .all, select), (.except, none, select)]⟩ := by
  intro one union except context found select
  have whole : ∀ operand ∈ [(except true).left, (except true).right],
      operand.isOperation = true → operand.wrapped = true := by decide
  exact ⟨(SetOperation.chain_found context (except true)).2 whole,
    (SetOperation.chain_found context (except false)).1⟩

end SqlTree
