import SqlTree.Proofs.Places.Rendering
import SqlTree.Proofs.Reading
import SqlTree.Proofs.Rewriting.Uniform
import SqlTree.Select

/-!
# The parentheses of queries

A query may ask for parentheses. Where it is a statement or an operand of a set operation
it gets what it asks for, and nothing else in the statement changes with it. All other
places put one pair of parentheses around every query, and it does not show at all what
the query asks for there (`Statement.parentheses_where_asked`).
-/

namespace SqlTree

/-- The query with or without parentheses. -/
def Query.setWrapped (query : Query) (wrapped : Bool) : Query :=
  match query with
  | .select body => .select (body.setWrapped wrapped)
  | .setOperation body => .setOperation (body.setWrapped wrapped)

/-- A query asks for what it has been told to ask for. -/
@[simp] theorem Query.wrapped_setWrapped (query : Query) (wrapped : Bool) :
    (query.setWrapped wrapped).wrapped = wrapped := by
  cases query <;> rfl

/-- What a query asks for is none of its own tokens. -/
@[simp] theorem Query.tokens_setWrapped (context : Context) (query : Query) (wrapped : Bool) :
    (query.setWrapped wrapped).tokens context = query.tokens context := by
  rw [← Query.tokens_unwrapped, ← Query.tokens_unwrapped context query]
  cases query <;> rfl

/-- The rewriting after which no query asks for parentheses whose place puts them around it
anyway. -/
def Rewriting.clearing : Rewriting where
  column := fun _ column => column
  conditions := id
  on := id
  nested := fun query => query.setWrapped false

/-- The statement in which no query asks for parentheses whose place puts them around it
anyway, at any depth. Columns are left as they are, so it does not matter which dialect
they are left as they are in. -/
def Statement.cleared (statement : Statement) : Statement :=
  statement.rewrite .clearing .standard

/-- What a query asks for does not show where its place puts parentheses around it. -/
theorem Rewriting.faithful_clearing (dialect : Dialect) :
    Rewriting.clearing.Faithful Eq dialect dialect where
  wording := .refl dialect
  select := rfl
  column := by
    rintro shown _ rfl column
    rfl
  conditions := fun _ _ _ => rfl
  on := fun _ _ => rfl
  nested := fun context query => query.tokens_setWrapped context false

/-- A statement has the tokens that it has without what is asked for in vain. -/
theorem Statement.tokens_cleared (dialect : Dialect) (statement : Statement) :
    statement.cleared.tokens dialect = statement.tokens dialect := by
  rw [cleared, statement.rewrite_eq_of_uniform (fun _ _ _ => rfl) .standard dialect]
  exact statement.tokens_rewrite (Rewriting.faithful_clearing dialect) rfl rfl rfl

/-- A query is not between parentheses of its own: it shows `SELECT` or a set operator. -/
theorem Query.enclosed?_tokens (context : Context) (query : Query) :
    enclosed? (query.tokens context) = none := by
  have notOpening : ∀ word, Token.keyword word ≠ .opening := fun word same =>
    absurd (congrArg Token.kind same) (by simp [Token.opening, Token.keyword])
  cases query with
  | select body =>
    obtain ⟨quantifier, top, projections, items, scope, conditions, groupKeys, groupConditions,
      sortKeys, wrapped⟩ := body
    exact enclosed?_eq_none (notOpening .select) (by simp [tokens, Select.tokens, Token.withDepth])
  | setOperation body =>
    have balanced := ((body.left.phrase context).parenthesizedIf body.left.wrapped).balanced true
    refine enclosed?_eq_none (notOpening body.operator.keyword) ?_
    rw [SetOperation.tokens_eq, operandTokens, balanced.withDepth_append, List.mem_append]
    exact .inr (List.mem_cons_self)

/-- A query between parentheses is between one pair of them. -/
theorem Query.enclosed?_parenthesized (context : Context) (query : Query) :
    enclosed? (parenthesized (query.tokens context)) = some (query.tokens context) :=
  SqlTree.enclosed?_parenthesized ((query.phrase context).balanced true)

/-- A query gets the parentheses that it asks for where it is a statement or an operand,
and one pair of them anywhere else.

Nothing shows of what is asked for between parentheses. Whatever query is put at a place of
a statement, and whatever it asks for, it has its own tokens there, between parentheses if
the place encloses it or it asks for them, and the tokens before and after it stay the
same. No query brings parentheses of its own, so there is one pair of them around a query
that is a value, a source, the values to compare with, in an `EXISTS` or the rows of an
`INSERT`. -/
theorem Statement.parentheses_where_asked (dialect : Dialect) (statement : Statement) :
    statement.cleared.tokens dialect = statement.tokens dialect ∧
      (∀ place ∈ statement.places, place.put place.query = statement ∧
        ∃ before after, ∀ (query : Query) (wrapped : Bool),
          (place.put (query.setWrapped wrapped)).tokens dialect =
            before ++ parenthesizedIf (place.encloses || wrapped)
              (query.tokens ⟨dialect, true⟩) ++ after) ∧
      (∀ (query : Query) (wrapped : Bool),
        (Statement.query (query.setWrapped wrapped)).tokens dialect =
          parenthesizedIf wrapped (query.tokens ⟨dialect, true⟩)) ∧
      ∀ (context : Context) (query : Query),
        let body := query.tokens context
        enclosed? body = none ∧
          ∀ tokens ∈ [(Expr.subquery query).tokens context, (Origin.query query).tokens context,
              (Values.query query).tokens context,
              ((Predicate.existence query).tokens context).tail,
              (InsertRows.query query).tokens context],
            enclosed? tokens = some body := by
  refine ⟨statement.tokens_cleared dialect, ?_, ?_, ?_⟩
  · intro place member
    obtain ⟨here, before, after, around⟩ := statement.independent dialect place member
    refine ⟨here, before, after, fun query wrapped => ?_⟩
    rw [around, Place.tokens, query.wrapped_setWrapped, query.tokens_setWrapped]
  · intro query wrapped
    rw [Statement.tokens, query.wrapped_setWrapped, query.tokens_setWrapped]
  · intro context query body
    have onePair := query.enclosed?_parenthesized context
    refine ⟨query.enclosed?_tokens context, ?_⟩
    simp only [List.forall_mem_cons]
    exact ⟨onePair, onePair, onePair, onePair, onePair, by simp⟩

/-- The places of `SELECT (SELECT 1 UNION SELECT 1)`: the statement, the value between
parentheses, and the two operands in it. -/
example :
    let select (expr : Expr) : Query :=
      .select ⟨none, none, [⟨expr, none⟩], [], ⟨[]⟩, [], [], [], [], false⟩
    let one := select (.number (.ofNat 1))
    let union : Query := .setOperation ⟨.union, one, one, none, true⟩
    let statement : Statement := .query (select (.subquery union))
    statement.places.map (fun place => (place.query, place.encloses)) =
      [(select (.subquery union), false), (union, true), (one, false), (one, false)] :=
  rfl

end SqlTree
