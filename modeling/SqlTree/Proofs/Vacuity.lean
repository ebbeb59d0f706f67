import SqlTree.Proofs.Clauses
import SqlTree.Proofs.Rewriting.Faithful
import SqlTree.Proofs.Rewriting.Uniform

/-!
# Conditions that hold nothing

A condition holds nothing if it is a group of such conditions, or the negation of one.
These are the conditions without tokens (`Condition.tokens_eq_nil_iff`), and nothing
else shows that they are there: a statement from which all of them are taken away, at
every depth, has the tokens that it had (`Statement.tokens_pruned`), and a clause is
written exactly if something is left in it.

Taking them away is a rewriting. That it is faithful is all there is to say, for
conditions without tokens are left out wherever conditions are joined.
-/

namespace SqlTree

mutual

/-- Whether a condition holds nothing, in parentheses or not. -/
def Condition.vacuous : Condition → Bool
  | ⟨predicate, _⟩ => predicate.vacuous

/-- Whether each of some conditions holds nothing. -/
def Condition.allVacuous : List Condition → Bool
  | [] => true
  | condition :: rest => condition.vacuous && Condition.allVacuous rest

/-- Whether a predicate holds nothing: a group of nothing else, or the negation of
such a condition. -/
def Predicate.vacuous : Predicate → Bool
  | .group ⟨_, conditions⟩ => Condition.allVacuous conditions
  | .negation condition => condition.vacuous
  | _ => false

end

/-- Each of some conditions holds nothing if all of them do. -/
@[simp] theorem Condition.allVacuous_eq_all (conditions : List Condition) :
    Condition.allVacuous conditions = conditions.all Condition.vacuous := by
  induction conditions with
  | nil => rfl
  | cons condition rest inductionHypothesis => simp [Condition.allVacuous, inductionHypothesis]

mutual

/-- The conditions without tokens are those that hold nothing. -/
theorem Condition.tokens_eq_nil_iff (context : Context) : (condition : Condition) →
    (condition.tokens context = [] ↔ condition.vacuous = true)
  | ⟨predicate, wrapped⟩ => by
    rw [Condition.vacuous, ← Predicate.tokens_eq_nil_iff context predicate, Condition.tokens]
    cases predicate.tokens context with
    | nil => simp
    | cons token rest => cases wrapped <;> simp [parenthesizedIf, parenthesized]
termination_by structural condition => condition

theorem Condition.tokensEach_eq_nil_iff (context : Context) : (conditions : List Condition) →
    ((∀ part ∈ Condition.tokensEach context conditions, part = []) ↔
      Condition.allVacuous conditions = true)
  | [] => by simp
  | condition :: rest => by
    rw [Condition.tokensEach, List.forall_mem_cons, Condition.allVacuous, Bool.and_eq_true,
      Condition.tokens_eq_nil_iff context condition,
      Condition.tokensEach_eq_nil_iff context rest]
termination_by structural conditions => conditions

theorem Predicate.tokens_eq_nil_iff (context : Context) : (predicate : Predicate) →
    (predicate.tokens context = [] ↔ predicate.vacuous = true)
  | .comparison _ _ _ | .between _ _ _ _ | .like _ _ _ | .isNull _ _ | .isIn _ _ _
  | .existence _ | .quantified _ _ _ _ => by
    simp [Predicate.tokens, Predicate.vacuous]
  | .group ⟨connective, conditions⟩ => by
    rw [Predicate.tokens, joinedBy_eq_nil_iff, Predicate.vacuous,
      Condition.tokensEach_eq_nil_iff context conditions]
  | .negation condition => by
    rw [Predicate.tokens, Predicate.vacuous, ← Condition.tokens_eq_nil_iff context condition,
      introducedBy]
    split <;> simp_all
termination_by structural predicate => predicate

end

/-- The rewriting that takes away the conditions that hold nothing: from groups, from
clauses and from joins. -/
def Rewriting.pruning : Rewriting where
  column := fun _ column => column
  conditions := List.filter fun condition => !condition.vacuous
  on := Option.filter fun condition => !condition.vacuous
  nested := id

/-- The statement without the conditions that hold nothing, at any depth. Columns are
left as they are, so it does not matter which dialect they are left as they are in. -/
def Statement.pruned (statement : Statement) : Statement :=
  statement.rewrite .pruning .standard

mutual

/-- What is taken away inside of a condition does not decide whether the condition
itself goes. -/
theorem Condition.vacuous_rewrite_pruning (shown : Bool) : (condition : Condition) →
    (condition.rewrite .pruning shown).vacuous = condition.vacuous
  | ⟨predicate, _⟩ => Predicate.vacuous_rewrite_pruning shown predicate
termination_by structural condition => condition

theorem Condition.allVacuous_rewriteEach_pruning (shown : Bool) :
    (conditions : List Condition) →
    Condition.allVacuous (Condition.rewriteEach .pruning shown conditions) =
      Condition.allVacuous conditions
  | [] => rfl
  | condition :: rest => by
    rw [Condition.rewriteEach, Condition.allVacuous, Condition.allVacuous,
      Condition.vacuous_rewrite_pruning shown condition,
      Condition.allVacuous_rewriteEach_pruning shown rest]
termination_by structural conditions => conditions

theorem Predicate.vacuous_rewrite_pruning (shown : Bool) : (predicate : Predicate) →
    (predicate.rewrite .pruning shown).vacuous = predicate.vacuous
  | .comparison _ _ _ | .between _ _ _ _ | .like _ _ _ | .isNull _ _ | .isIn _ _ _
  | .existence _ | .quantified _ _ _ _ => rfl
  | .group ⟨connective, conditions⟩ => by
    have kept : ∀ conditions : List Condition,
        Condition.allVacuous (Rewriting.pruning.conditions conditions) =
          Condition.allVacuous conditions := by
      intro conditions
      simp [Rewriting.pruning, List.all_filter]
    rw [Predicate.rewrite, Predicate.vacuous, kept,
      Condition.allVacuous_rewriteEach_pruning shown conditions, Predicate.vacuous]
  | .negation condition => Condition.vacuous_rewrite_pruning shown condition
termination_by structural predicate => predicate

end

/-- Of a list of conditions those are left that hold something, without what holds
nothing inside of them. -/
theorem Rewriting.conditions_pruning (shown : Bool) (conditions : List Condition) :
    pruning.conditions (Condition.rewriteEach .pruning shown conditions) =
      (conditions.filter fun condition => !condition.vacuous).map
        (Condition.rewrite .pruning shown) := by
  induction conditions with
  | nil => rfl
  | cons condition rest inductionHypothesis =>
    have same := Condition.vacuous_rewrite_pruning shown condition
    simp only [pruning] at inductionHypothesis same
    cases vacuous : condition.vacuous <;>
      simp_all [pruning, Condition.rewriteEach]

/-- A join keeps its condition if it holds something, without what holds nothing inside
of it. -/
theorem Rewriting.on_pruning (shown : Bool) (on : Option Condition) :
    pruning.on (Condition.rewriteOption .pruning shown on) =
      (on.filter fun condition => !condition.vacuous).map (Condition.rewrite .pruning shown) := by
  cases on with
  | none => rfl
  | some condition =>
    have same := Condition.vacuous_rewrite_pruning shown condition
    cases vacuous : condition.vacuous <;>
      simp_all [pruning, Condition.rewriteOption, Option.filter_some]

/-- Taking away conditions that hold nothing does not show. -/
theorem Rewriting.faithful_pruning (dialect : Dialect) :
    Rewriting.pruning.Faithful Eq dialect dialect where
  wording := .refl dialect
  select := rfl
  column := by
    rintro shown _ rfl column
    rfl
  conditions := fun context word conditions => by
    have keeps : ∀ condition : Condition,
        (condition.tokens context ≠ [] && !condition.vacuous) =
          decide (condition.tokens context ≠ []) := by
      intro condition
      simp [Condition.tokens_eq_nil_iff]
    simp only [joinedBy, Condition.tokensEach_eq_map, Rewriting.pruning, List.filter_map,
      List.filter_filter, Function.comp_def, keeps]
  on := fun context condition => by
    cases condition with
    | none => rfl
    | some condition =>
      have empty := Condition.tokens_eq_nil_iff context condition
      cases vacuous : condition.vacuous <;>
        simp_all [Rewriting.pruning, Condition.tokensOption, Option.filter_some]
  nested := fun _ _ => rfl

/-- A statement without the conditions that hold nothing has the tokens that it had. -/
theorem Statement.tokens_pruned (dialect : Dialect) (statement : Statement) :
    statement.pruned.tokens dialect = statement.tokens dialect := by
  rw [pruned, statement.rewrite_eq_of_uniform (fun _ _ _ => rfl) .standard dialect]
  exact statement.tokens_rewrite (Rewriting.faithful_pruning dialect) rfl rfl rfl

/-- Nothing is left of joined conditions exactly if each of them holds nothing. -/
theorem Condition.joinedBy_eq_nil_iff (context : Context) (word : Keyword)
    (conditions : List Condition) :
    joinedBy word (Condition.tokensEach context conditions) = [] ↔
      Condition.allVacuous conditions = true := by
  rw [SqlTree.joinedBy_eq_nil_iff, Condition.tokensEach_eq_nil_iff]

/-- Something is under the word of a clause of conditions exactly if one of them holds
something. -/
theorem isSome_conditionBody? (context : Context) (conditions : List Condition) :
    (conditionBody? (Condition.tokensEach context conditions)).isSome = true ↔
      ∃ condition ∈ conditions, condition.vacuous = false := by
  rw [conditionBody?]
  split
  · rename_i empty
    rw [Condition.joinedBy_eq_nil_iff] at empty
    simpa using empty
  · rename_i notEmpty
    rw [Condition.joinedBy_eq_nil_iff] at notEmpty
    simpa using notEmpty

/-- The condition of a join comes after `ON` and what is joined, unless it holds
nothing. -/
theorem Join.tokens_eq (context : Context) (join : Join) :
    join.tokens context = parenthesizedIf join.wrapped
      ({ join with on := none, wrapped := false }.tokens context ++
        optionTokens .on ((join.on.filter fun condition => !condition.vacuous).map
          (Condition.tokens context))) := by
  obtain ⟨left, right, kind, on, wrapped, scope⟩ := join
  have noCondition : introducedBy [.on] [] = [] := rfl
  have clause : introducedBy [.on] (Condition.tokensOption context on) =
      optionTokens .on ((on.filter fun condition => !condition.vacuous).map
        (Condition.tokens context)) := by
    cases on with
    | none => rfl
    | some condition =>
      have empty := Condition.tokens_eq_nil_iff context condition
      cases vacuous : condition.vacuous <;>
        simp_all [Condition.tokensOption, introducedBy, Option.filter_some, optionTokens]
  simp only [Join.tokens, clause, Condition.tokensOption, noCondition, List.append_nil,
    parenthesizedIf, Bool.false_eq_true, if_false]

/-- Conditions that hold nothing do not show. They are the ones without tokens. Taking
them away, from groups, clauses and joins at every depth, leaves the others and all
tokens of the statement. `WHERE`, `HAVING` and `ON` are written exactly if one of their
conditions holds something. -/
theorem Condition.vacuous_invisible :
    (∀ (context : Context) (condition : Condition),
        condition.tokens context = [] ↔ condition.vacuous = true) ∧
      (∀ (shown : Bool) (conditions : List Condition),
        Rewriting.pruning.conditions (Condition.rewriteEach .pruning shown conditions) =
          (conditions.filter fun condition => !condition.vacuous).map
            (Condition.rewrite .pruning shown)) ∧
      (∀ (shown : Bool) (on : Option Condition),
        Rewriting.pruning.on (Condition.rewriteOption .pruning shown on) =
          (on.filter fun condition => !condition.vacuous).map
            (Condition.rewrite .pruning shown)) ∧
      (∀ (dialect : Dialect) (statement : Statement),
        statement.pruned.tokens dialect = statement.tokens dialect) ∧
      (∀ (context : Context) (select : Select),
        let clause? := SqlTree.clause? Select.clauseWords (select.tokens context)
        ((clause? .where).isSome = true ↔
            ∃ condition ∈ select.conditions, condition.vacuous = false) ∧
          ((clause? .having).isSome = true ↔
            ∃ condition ∈ select.groupConditions, condition.vacuous = false)) ∧
      (∀ (context : Context) (update : Update),
        (clause? Update.clauseWords (update.tokens context) .where).isSome = true ↔
          ∃ condition ∈ update.conditions, condition.vacuous = false) ∧
      (∀ (context : Context) (delete : Delete),
        (clause? Delete.clauseWords (delete.tokens context) .where).isSome = true ↔
          ∃ condition ∈ delete.conditions, condition.vacuous = false) ∧
      ∀ (context : Context) (join : Join),
        join.tokens context = parenthesizedIf join.wrapped
          ({ join with on := none, wrapped := false }.tokens context ++
            optionTokens .on ((join.on.filter fun condition => !condition.vacuous).map
              (Condition.tokens context))) := by
  refine ⟨Condition.tokens_eq_nil_iff, Rewriting.conditions_pruning, Rewriting.on_pruning,
    Statement.tokens_pruned, ?_, ?_, ?_, Join.tokens_eq⟩
  · intro context select clause?
    have isClause : ∀ word, clause? word =
        ((select.clauses (context.qualified true)).lookup word).join :=
      fun word => select.clause?_tokens context word
    rw [isClause, isClause]
    exact ⟨isSome_conditionBody? _ _, isSome_conditionBody? _ _⟩
  · intro context update
    rw [update.clause?_tokens]
    exact isSome_conditionBody? _ _
  · intro context delete
    rw [delete.clause?_tokens]
    exact isSome_conditionBody? _ _

end SqlTree
