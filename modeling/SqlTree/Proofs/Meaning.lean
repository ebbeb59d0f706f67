import SqlTree.Proofs.Clauses
import SqlTree.Proofs.Reading.Written
import SqlTree.Proofs.Vacuity

/-!
# What conditions mean to a reader

Rendering adds no parentheses, so a caller has to ask for those that the meaning of a
condition needs: around an `OR` group under `AND`, and around a group under `NOT`
(`Condition.WellWrapped`). If this is done, a reader of SQL finds in the tokens of a
clause what its conditions say (`Condition.clauses_read`): the same atomic predicates in
the same order, and the same truth whatever the truth of each of them is.

A group in a group with the same connective is read as one chain, so the statement that
is read has a shape of its own. Between the trees and the reader stands the grammar of
such statements (`Formula.Written`). It is closed under joining, which is where chains
are put together, and the reader gives back what is written by it.
-/

namespace SqlTree

open Token

/-- The connective of a group. -/
def Predicate.connective? : Predicate → Option Connective
  | .group ⟨connective, _⟩ => some connective
  | _ => none

/-- The connective of a group that has no parentheses around it. -/
def Condition.bare? (condition : Condition) : Option Connective :=
  if condition.wrapped then none else condition.predicate.connective?

mutual

/-- Whether a condition has the parentheses inside of it that its meaning needs. -/
def Condition.wellWrapped : Condition → Bool
  | ⟨predicate, _⟩ => predicate.wellWrapped

/-- Whether each of some conditions has the parentheses inside of it that its meaning
needs. -/
def Condition.allWellWrapped : List Condition → Bool
  | [] => true
  | condition :: rest => condition.wellWrapped && Condition.allWellWrapped rest

/-- Whether a predicate has the parentheses that its meaning needs: around the `OR`
groups in an `AND` group, and around a group that is negated. -/
def Predicate.wellWrapped : Predicate → Bool
  | .group ⟨connective, conditions⟩ =>
    (connective = .or || conditions.all fun condition => condition.bare? ≠ some .or) &&
      Condition.allWellWrapped conditions
  | .negation condition => condition.bare? = none && condition.wellWrapped
  | _ => true

end

mutual

/-- The truth of a condition, given that of its atomic predicates. -/
def Condition.holds (truth : Predicate → Bool) : Condition → Bool
  | ⟨predicate, _⟩ => predicate.holds truth

/-- The truth of conditions under a connective. Those that hold nothing are left out. -/
def Condition.holdTogether (truth : Predicate → Bool) (connective : Connective) :
    List Condition → Bool
  | [] => connective.neutral
  | condition :: rest =>
    if condition.vacuous then Condition.holdTogether truth connective rest
    else
      connective.apply (condition.holds truth) (Condition.holdTogether truth connective rest)

/-- The truth of a predicate, given that of its atomic predicates. -/
def Predicate.holds (truth : Predicate → Bool) : Predicate → Bool
  | .group ⟨connective, conditions⟩ => Condition.holdTogether truth connective conditions
  | .negation condition => !condition.holds truth
  | predicate => truth predicate

end

mutual

/-- The atomic predicates of a condition from left to right. -/
def Condition.atoms : Condition → List Predicate
  | ⟨predicate, _⟩ => predicate.atoms

/-- The atomic predicates of some conditions from left to right. -/
def Condition.atomsEach : List Condition → List Predicate
  | [] => []
  | condition :: rest => condition.atoms ++ Condition.atomsEach rest

/-- The atomic predicates of a predicate from left to right. -/
def Predicate.atoms : Predicate → List Predicate
  | .group ⟨_, conditions⟩ => Condition.atomsEach conditions
  | .negation condition => condition.atoms
  | predicate => [predicate]

end

/-- Whether the conditions of a clause have the parentheses that their meaning needs. An
`OR` group has them, unless nothing else is left of the clause. -/
def Condition.WellWrapped (conditions : List Condition) : Prop :=
  (∀ condition ∈ conditions, condition.wellWrapped = true) ∧
    ∀ condition ∈ conditions, condition.bare? = some .or →
      conditions.filter (fun other => !other.vacuous) = [condition]

/-- What a reader makes of a clause says what its conditions say. There is no clause
exactly if all of them hold nothing. What is read has their atomic predicates, in their
order, and is true exactly if all of them hold, those left out that hold nothing. -/
def Condition.ReadAs (context : Context) (conditions : List Condition)
    (clause : Option (List Token)) : Prop :=
  (clause = none ↔ ∀ condition ∈ conditions, condition.vacuous = true) ∧
    ∀ tokens ∈ clause, ∃ formula : Formula Predicate,
      Formula.ofTokens tokens = formula.map (Predicate.tokens context) ∧
        formula.atoms = conditions.flatMap Condition.atoms ∧
        ∀ truth, formula.eval truth =
          (conditions.filter fun condition => !condition.vacuous).all (Condition.holds truth)

/-- Tokens in which a statement is written that has some atoms and some truth. -/
def Expresses (context : Context) (level : Option Connective) (tokens : List Token)
    (atoms : List Predicate) (holds : (Predicate → Bool) → Bool) : Prop :=
  ∃ formula : Formula Predicate, formula.Written context level tokens ∧
    formula.atoms = atoms ∧ ∀ truth, formula.eval truth = holds truth

/-- Conditions under `AND` hold if all of them do that hold something. -/
theorem Condition.holdTogether_and (truth : Predicate → Bool) (conditions : List Condition) :
    Condition.holdTogether truth .and conditions =
      (conditions.filter fun condition => !condition.vacuous).all (Condition.holds truth) := by
  induction conditions with
  | nil => rfl
  | cons condition rest inductionHypothesis =>
    rw [holdTogether, inductionHypothesis]
    cases vacuous : condition.vacuous <;> simp [vacuous, Connective.apply]

/-- Conditions that hold nothing have no say in the truth of others. -/
theorem Condition.holdTogether_of_allVacuous (truth : Predicate → Bool) (connective : Connective)
    {conditions : List Condition} (nothing : Condition.allVacuous conditions = true) :
    Condition.holdTogether truth connective conditions = connective.neutral := by
  induction conditions with
  | nil => rfl
  | cons condition rest inductionHypothesis =>
    rw [allVacuous, Bool.and_eq_true] at nothing
    rw [holdTogether, if_pos nothing.1, inductionHypothesis nothing.2]

@[simp] theorem Condition.allWellWrapped_eq_all (conditions : List Condition) :
    Condition.allWellWrapped conditions = conditions.all Condition.wellWrapped := by
  induction conditions with
  | nil => rfl
  | cons condition rest inductionHypothesis =>
    simp [Condition.allWellWrapped, inductionHypothesis]

@[simp] theorem Condition.atomsEach_eq_flatMap (conditions : List Condition) :
    Condition.atomsEach conditions = conditions.flatMap Condition.atoms := by
  induction conditions with
  | nil => rfl
  | cons condition rest inductionHypothesis => simp [Condition.atomsEach, inductionHypothesis]

mutual

/-- What holds nothing has no atomic predicates. -/
theorem Condition.atoms_of_vacuous : (condition : Condition) → condition.vacuous = true →
    condition.atoms = []
  | ⟨predicate, _⟩, nothing => Predicate.atoms_of_vacuous predicate nothing
termination_by structural condition => condition

theorem Condition.atomsEach_of_allVacuous : (conditions : List Condition) →
    Condition.allVacuous conditions = true → Condition.atomsEach conditions = []
  | [], _ => rfl
  | condition :: rest, nothing => by
    rw [Condition.allVacuous, Bool.and_eq_true] at nothing
    rw [Condition.atomsEach, Condition.atoms_of_vacuous condition nothing.1,
      Condition.atomsEach_of_allVacuous rest nothing.2]
    rfl
termination_by structural conditions => conditions

theorem Predicate.atoms_of_vacuous : (predicate : Predicate) → predicate.vacuous = true →
    predicate.atoms = []
  | .comparison _ _ _, nothing | .between _ _ _ _, nothing | .like _ _ _, nothing
  | .isNull _ _, nothing | .isIn _ _ _, nothing | .existence _, nothing
  | .quantified _ _ _ _, nothing => by cases nothing
  | .group ⟨_, conditions⟩, nothing => Condition.atomsEach_of_allVacuous conditions nothing
  | .negation condition, nothing => Condition.atoms_of_vacuous condition nothing
termination_by structural predicate => predicate

end

/-- Two statements joined by a connective are written as one chain. -/
theorem Formula.Written.chain {context : Context} {connective : Connective}
    {first second : Formula Predicate} {before after : List Token}
    (left : Written context (some connective) first before)
    (right : Written context (some connective) second after) :
    Expresses context (some connective) (before ++ .keyword connective.keyword :: after)
      (first.atoms ++ second.atoms)
      fun truth => connective.apply (first.eval truth) (second.eval truth) := by
  generalize isLevel : some connective = level at left
  induction left with
  | atom | parentheses | negation => cases isLevel
  | single tight =>
    cases isLevel
    exact ⟨_, .join tight right, rfl, fun _ => rfl⟩
  | @join _ leading _ _ _ tight _ _ following =>
    cases isLevel
    obtain ⟨formula, written, atoms, holds⟩ := following rfl
    refine ⟨.join connective leading formula, ?_, ?_, ?_⟩
    · simpa using Written.join tight written
    · rw [Formula.atoms, atoms, Formula.atoms, List.append_assoc]
    · intro truth
      simp only [Formula.eval, holds, Connective.apply_assoc]

namespace Expresses

variable {context : Context} {tight loose : Option Connective} {connective : Connective}
  {tokens before after : List Token} {atoms more : List Predicate}
  {holds also : (Predicate → Bool) → Bool}

/-- What is said in one place may be said in a looser one. -/
theorem widen (expresses : Expresses context tight tokens atoms holds)
    (within : looseness tight ≤ looseness loose) :
    Expresses context loose tokens atoms holds := by
  obtain ⟨formula, written, sameAtoms, sameTruth⟩ := expresses
  exact ⟨formula, written.widen within, sameAtoms, sameTruth⟩

/-- Between parentheses everything may be said. -/
theorem parentheses (expresses : Expresses context loose tokens atoms holds) :
    Expresses context none (parenthesized tokens) atoms holds := by
  obtain ⟨formula, written, sameAtoms, sameTruth⟩ := expresses.widen (looseness_le_or loose)
  exact ⟨formula, .parentheses written, sameAtoms, sameTruth⟩

/-- `NOT` before what is said says the opposite. -/
theorem negation (expresses : Expresses context none tokens atoms holds) :
    Expresses context none (.keyword .not :: tokens) atoms fun truth => !holds truth := by
  obtain ⟨formula, written, sameAtoms, sameTruth⟩ := expresses
  exact ⟨.negation formula, .negation written, sameAtoms,
    fun truth => congrArg Bool.not (sameTruth truth)⟩

/-- A connective between what is said twice joins it. -/
theorem join (left : Expresses context (some connective) before atoms holds)
    (right : Expresses context (some connective) after more also) :
    Expresses context (some connective) (before ++ .keyword connective.keyword :: after)
      (atoms ++ more) fun truth => connective.apply (holds truth) (also truth) := by
  obtain ⟨first, writtenFirst, rfl, truthOfFirst⟩ := left
  obtain ⟨second, writtenSecond, rfl, truthOfSecond⟩ := right
  simpa only [truthOfFirst, truthOfSecond] using writtenFirst.chain writtenSecond

end Expresses

/-- A condition that holds something has the tokens of its predicate, in parentheses or
not. -/
theorem Condition.tokens_of_not_vacuous (context : Context) {condition : Condition}
    (something : condition.vacuous = false) :
    condition.tokens context =
      parenthesizedIf condition.wrapped (condition.predicate.tokens context) := by
  obtain ⟨predicate, wrapped⟩ := condition
  have notVacuous : predicate.vacuous = false := something
  have notNil : predicate.tokens context ≠ [] := by
    simp [Predicate.tokens_eq_nil_iff, notVacuous]
  rw [Condition.tokens]
  split
  · rename_i empty
    exact absurd empty notNil
  · rfl

/-- A condition that holds something comes before the others, if anything is left of
them. -/
theorem Condition.expresses_cons {context : Context} {connective : Connective}
    {condition : Condition} {rest : List Condition} (something : condition.vacuous = false)
    (here : Expresses context (some connective) (condition.tokens context) condition.atoms
      fun truth => condition.holds truth)
    (following : Condition.allVacuous rest = false →
      Expresses context (some connective)
        (joinedBy connective.keyword (Condition.tokensEach context rest))
        (Condition.atomsEach rest) fun truth => Condition.holdTogether truth connective rest) :
    Expresses context (some connective)
      (joinedBy connective.keyword (Condition.tokensEach context (condition :: rest)))
      (Condition.atomsEach (condition :: rest))
      fun truth => Condition.holdTogether truth connective (condition :: rest) := by
  have notNil : condition.tokens context ≠ [] := by
    simp [Condition.tokens_eq_nil_iff, something]
  have restNil := Condition.joinedBy_eq_nil_iff context connective.keyword rest
  rw [Condition.tokensEach, joinedBy_cons notNil, Condition.atomsEach]
  simp only [Condition.holdTogether, something, Bool.false_eq_true, if_false]
  cases nothingMore : Condition.allVacuous rest with
  | true =>
    rw [if_pos (restNil.2 nothingMore), Condition.atomsEach_of_allVacuous rest nothingMore,
      List.append_nil]
    simpa only [Condition.holdTogether_of_allVacuous _ connective nothingMore,
      Connective.apply_neutral] using here
  | false =>
    rw [nothingMore] at restNil
    rw [if_neg (mt restNil.1 (by decide))]
    exact here.join (following nothingMore)

mutual

/-- The tokens of a condition that has its parentheses say what the condition says. -/
theorem Condition.expresses (context : Context) : (condition : Condition) →
    condition.wellWrapped = true → condition.vacuous = false →
    Expresses context condition.bare? (condition.tokens context) condition.atoms
      fun truth => condition.holds truth
  | ⟨predicate, wrapped⟩, wellWrapped, something => by
    have said := Predicate.expresses context predicate wellWrapped something
    rw [Condition.tokens_of_not_vacuous context something]
    cases wrapped with
    | true => exact said.parentheses
    | false => exact said
termination_by structural condition => condition

theorem Condition.expressEach (context : Context) (connective : Connective) :
    (conditions : List Condition) → Condition.allWellWrapped conditions = true →
    (∀ condition ∈ conditions, looseness condition.bare? ≤ looseness (some connective)) →
    Condition.allVacuous conditions = false →
    Expresses context (some connective)
      (joinedBy connective.keyword (Condition.tokensEach context conditions))
      (Condition.atomsEach conditions)
      fun truth => Condition.holdTogether truth connective conditions
  | [], _, _, something => by cases something
  | condition :: rest, wellWrapped, within, something => by
    rw [Condition.allWellWrapped, Bool.and_eq_true] at wellWrapped
    rw [List.forall_mem_cons] at within
    have following := Condition.expressEach context connective rest wellWrapped.2 within.2
    cases nothing : condition.vacuous with
    | true =>
      have nil := (Condition.tokens_eq_nil_iff context condition).2 nothing
      rw [Condition.allVacuous, nothing, Bool.true_and] at something
      rw [Condition.tokensEach, nil, joinedBy_nil_cons, Condition.atomsEach,
        Condition.atoms_of_vacuous condition nothing, List.nil_append]
      simpa only [Condition.holdTogether, nothing, if_true] using following something
    | false =>
      have here := Condition.expresses context condition wellWrapped.1 nothing
      exact Condition.expresses_cons nothing (here.widen within.1) following
termination_by structural conditions => conditions

theorem Predicate.expresses (context : Context) : (predicate : Predicate) →
    predicate.wellWrapped = true → predicate.vacuous = false →
    Expresses context predicate.connective? (predicate.tokens context) predicate.atoms
      fun truth => predicate.holds truth
  | .comparison _ _ _, _, _ | .between _ _ _ _, _, _ | .like _ _ _, _, _ | .isNull _ _, _, _
  | .isIn _ _ _, _, _ | .existence _, _, _ | .quantified _ _ _ _, _, _ =>
    ⟨.atom _, .atom rfl, rfl, fun _ => rfl⟩
  | .group ⟨connective, conditions⟩, wellWrapped, something => by
    rw [Predicate.wellWrapped, Bool.and_eq_true] at wellWrapped
    have within : ∀ condition ∈ conditions,
        looseness condition.bare? ≤ looseness (some connective) := by
      intro condition member
      cases connective with
      | or => exact looseness_le_or condition.bare?
      | and =>
        have noneOr : ∀ other ∈ conditions, other.bare? ≠ some .or := by
          simpa using wellWrapped.1
        exact looseness_le_and (noneOr condition member)
    exact Condition.expressEach context connective conditions wellWrapped.2 within something
  | .negation condition, wellWrapped, something => by
    rw [Predicate.wellWrapped, Bool.and_eq_true, decide_eq_true_eq] at wellWrapped
    have said := Condition.expresses context condition wellWrapped.2 something
    rw [wellWrapped.1] at said
    have notVacuous : condition.vacuous = false := something
    have notNil : condition.tokens context ≠ [] := by
      simp [Condition.tokens_eq_nil_iff, notVacuous]
    rw [Predicate.tokens, introducedBy, if_neg notNil]
    exact said.negation
termination_by structural predicate => predicate

end

/-- Conditions that are taken away because they hold nothing take no atomic predicates
with them. -/
theorem Condition.flatMap_atoms_filter (conditions : List Condition) :
    (conditions.filter fun condition => !condition.vacuous).flatMap Condition.atoms =
      conditions.flatMap Condition.atoms := by
  induction conditions with
  | nil => rfl
  | cons condition rest inductionHypothesis =>
    cases nothing : condition.vacuous with
    | true =>
      simp [nothing, inductionHypothesis, Condition.atoms_of_vacuous condition nothing]
    | false => simp [nothing, inductionHypothesis]

/-- The tokens of the conditions of a clause say that all of them hold. -/
theorem Condition.WellWrapped.expresses {context : Context} {conditions : List Condition}
    (wellWrapped : Condition.WellWrapped conditions)
    (something : Condition.allVacuous conditions = false) :
    Expresses context (some .or) (joinedBy .and (Condition.tokensEach context conditions))
      (conditions.flatMap Condition.atoms)
      fun truth => (conditions.filter fun condition => !condition.vacuous).all
        (Condition.holds truth) := by
  by_cases bareOr : ∃ condition ∈ conditions, condition.bare? = some .or
  · -- The one condition that is left may be a chain of its own.
    obtain ⟨condition, member, isOr⟩ := bareOr
    have only := wellWrapped.2 condition member isOr
    have notVacuous : condition.vacuous = false := by
      have kept : condition ∈ conditions.filter fun other => !other.vacuous := by simp [only]
      simpa using (List.mem_filter.1 kept).2
    have said := Condition.expresses context condition (wellWrapped.1 condition member) notVacuous
    have notNil : condition.tokens context ≠ [] := by
      simp [Condition.tokens_eq_nil_iff, notVacuous]
    have alone : joinedBy .and (Condition.tokensEach context conditions) =
        condition.tokens context := by
      rw [← (Rewriting.faithful_pruning context.dialect).conditions context .and conditions]
      simp [Rewriting.pruning, only, joinedBy, notNil]
    rw [alone, ← Condition.flatMap_atoms_filter, only]
    simpa [isOr] using said
  · -- Whatever is not in parentheses binds at least as tightly as the `AND` between them.
    have within : ∀ condition ∈ conditions,
        looseness condition.bare? ≤ looseness (some .and) := fun condition member =>
      looseness_le_and fun isOr => bareOr ⟨condition, member, isOr⟩
    have each : Condition.allWellWrapped conditions = true := by
      simpa using wellWrapped.1
    have said := (Condition.expressEach context .and conditions each within something).widen
      (looseness_le_or _)
    simp only [Condition.holdTogether_and, Condition.atomsEach_eq_flatMap] at said
    exact said

/-- A reader makes of a clause of conditions what its conditions say. -/
theorem Condition.WellWrapped.readAs {conditions : List Condition}
    (wellWrapped : Condition.WellWrapped conditions) (context : Context) :
    Condition.ReadAs context conditions
      (conditionBody? (Condition.tokensEach context conditions)) := by
  rw [Condition.ReadAs, conditionBody?]
  split
  · rename_i empty
    rw [Condition.joinedBy_eq_nil_iff] at empty
    exact ⟨by simpa using empty, fun tokens missing => by cases missing⟩
  · rename_i notEmpty
    rw [Condition.joinedBy_eq_nil_iff, Bool.not_eq_true] at notEmpty
    refine ⟨by simpa using notEmpty, ?_⟩
    rintro tokens ⟨⟩
    obtain ⟨formula, written, atoms, holds⟩ := wellWrapped.expresses notEmpty
    exact ⟨formula, written.isRead.read, atoms, holds⟩

/-- The meaning of conditions survives rendering. Where they have the parentheses that
their meaning needs, a reader of SQL who looks for `OR`, `AND` and `NOT` in this order
finds in a `WHERE` or `HAVING` clause the atomic predicates of its conditions, in their
order, and a statement about them that is true exactly if all conditions hold. Those that
hold nothing are left out, and there is no clause if nothing is left. -/
theorem Condition.clauses_read (context : Context) :
    (∀ select : Select,
        let inside := context.qualified true
        let clause? := SqlTree.clause? Select.clauseWords (select.tokens context)
        (Condition.WellWrapped select.conditions →
            Condition.ReadAs inside select.conditions (clause? .where)) ∧
          (Condition.WellWrapped select.groupConditions →
            Condition.ReadAs inside select.groupConditions (clause? .having))) ∧
      (∀ update : Update, Condition.WellWrapped update.conditions →
        Condition.ReadAs context update.conditions
          (clause? Update.clauseWords (update.tokens context) .where)) ∧
      ∀ delete : Delete, Condition.WellWrapped delete.conditions →
        Condition.ReadAs context delete.conditions
          (clause? Delete.clauseWords (delete.tokens context) .where) := by
  refine ⟨?_, ?_, ?_⟩
  · intro select inside clause?
    have isClause : ∀ word, clause? word = ((select.clauses inside).lookup word).join :=
      fun word => select.clause?_tokens context word
    rw [isClause, isClause]
    exact ⟨fun wellWrapped => wellWrapped.readAs inside,
      fun wellWrapped => wellWrapped.readAs inside⟩
  · intro update wellWrapped
    rw [update.clause?_tokens]
    exact wellWrapped.readAs context
  · intro delete wellWrapped
    rw [delete.clause?_tokens]
    exact wellWrapped.readAs context

/-- An `OR` group and a negated `AND` group in their parentheses, beside a group of
nothing, say what they say; so does an `OR` group without parentheses that is all that is
left of its clause. -/
theorem Condition.clauses_read_nested :
    let one : Expr := .number (.ofNat 1)
    let inRange : Condition := ⟨.between one one one true, false⟩
    let isKnown : Condition := ⟨.isNull one true, false⟩
    let nothing : Condition := ⟨.group ⟨.and, []⟩, true⟩
    let both : Condition := ⟨.group ⟨.and, [inRange, isKnown]⟩, true⟩
    let either : ConditionGroup := ⟨.or, [isKnown, ⟨.negation both, false⟩]⟩
    let select : Select := ⟨none, none, [⟨one, none⟩], [], ⟨[]⟩,
      [⟨.group either, true⟩, nothing, inRange], [], [⟨.group either, false⟩, nothing], [], false⟩
    let clause? := SqlTree.clause? Select.clauseWords (select.tokens ⟨.standard, true⟩)
    Condition.WellWrapped select.conditions ∧ Condition.WellWrapped select.groupConditions ∧
      Condition.ReadAs ⟨.standard, true⟩ select.conditions (clause? .where) ∧
      Condition.ReadAs ⟨.standard, true⟩ select.groupConditions (clause? .having) := by
  intro one inRange isKnown nothing both either select clause?
  have conditions : Condition.WellWrapped select.conditions := by
    constructor <;> decide
  have groupConditions : Condition.WellWrapped select.groupConditions := by
    constructor <;> decide
  have read := (Condition.clauses_read ⟨.standard, true⟩).1 select
  exact ⟨conditions, groupConditions, read.1 conditions, read.2 groupConditions⟩

end SqlTree
