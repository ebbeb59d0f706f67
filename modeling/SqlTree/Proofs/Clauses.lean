import SqlTree.Proofs.Phrase.Rendering
import SqlTree.Proofs.Pieces

/-!
# Clauses and their elements

A reader who looks only at what is outside parentheses finds the clauses of a
`SELECT` by their words, and the elements of its lists by the commas between them
(`Select.sections_tokens`). Every clause is found once, in the order of the words,
and only if there is something in it; every element is found whole and in its place.

Elements show neither commas nor words of clauses (`Phrase.startsNone`), so cutting
passes over them, and each cut is one that rendering has put there.
-/

namespace SqlTree

open Token

/-- A list cut at the labelled elements: what is before the first of them, and each
label with what follows its element. -/
def cutAt {Element Label : Type} (label? : Element → Option Label) :
    List Element → List Element × List (Label × List Element)
  | [] => ([], [])
  | element :: rest =>
    let (before, parts) := cutAt label? rest
    match label? element with
    | none => (element :: before, parts)
    | some label => ([], (label, before) :: parts)

/-- The word that starts a section at a token with its depth: one of some words, if it
is outside parentheses. -/
def sectionWord? (words : List Keyword) (entry : Token × Nat) : Option Keyword :=
  if entry.2 = 0 then words.find? fun word => entry.1 = .keyword word else none

/-- Tokens cut at those of some words that are outside parentheses: what is before the
first of them, and each word with what follows it. -/
def sections (words : List Keyword) (tokens : List Token) :
    List Token × List (Keyword × List Token) :=
  let (before, parts) := cutAt (sectionWord? words) (withDepth false 0 tokens)
  (before.map Prod.fst, parts.map fun (word, part) => (word, part.map Prod.fst))

/-- What is found under one of the words that tokens are cut at. -/
def clause? (words : List Keyword) (tokens : List Token) (word : Keyword) :
    Option (List Token) :=
  (sections words tokens).2.lookup word

/-- Elements without a label are not cut. -/
theorem cutAt_append {Element Label : Type} {label? : Element → Option Label}
    {first second : List Element} (unlabelled : ∀ element ∈ first, label? element = none) :
    cutAt label? (first ++ second) =
      (first ++ (cutAt label? second).1, (cutAt label? second).2) := by
  induction first with
  | nil => rfl
  | cons element rest inductionHypothesis =>
    rw [List.forall_mem_cons] at unlabelled
    rw [List.cons_append, cutAt, inductionHypothesis unlabelled.2, unlabelled.1]
    rfl

/-- Tokens that close what they open and show none of some words outside of it. -/
def Lacks (words : List Keyword) (tokens : List Token) : Prop :=
  Balanced false (fun token => ∀ word ∈ words, token ≠ .keyword word) tokens

variable {words : List Keyword} {word : Keyword} {tokens first second rest : List Token}

namespace Lacks

/-- Nothing has none of the words. -/
theorem nil : Lacks words [] :=
  Balanced.nil

/-- Two sequences without the words, one after the other. -/
theorem append (left : Lacks words first) (right : Lacks words second) :
    Lacks words (first ++ second) :=
  Balanced.append left right

/-- An element has no words that start clauses. -/
theorem ofPhrase (starts : ∀ word ∈ words, word.startsClause = true)
    (phrase : Phrase .element tokens) : Lacks words tokens := by
  refine (phrase.startsNone false).mono fun token shown word member isWord => ?_
  have none := shown.2 word isWord
  rw [starts word member] at none
  exact absurd none (by decide)

/-- An element, or nothing, has no words that start clauses. -/
theorem ofOptional (starts : ∀ word ∈ words, word.startsClause = true)
    (optional : OptionalPhrase .element tokens) : Lacks words tokens := by
  rcases optional with rfl | phrase
  · exact .nil
  · exact .ofPhrase starts phrase

/-- A list of parts without the words has none of them. -/
theorem commaSeparated {parts : List (List Token)} (lacks : ∀ part ∈ parts, Lacks words part) :
    Lacks words (commaSeparated parts) :=
  Balanced.commaSeparated
    (fun word _ isWord => absurd (congrArg kind isWord) (by simp [Token.comma, Token.keyword])) lacks

/-- What has none of the words is not cut. -/
theorem sections_append (lacks : Lacks words first) :
    sections words (first ++ rest) =
      (first ++ (sections words rest).1, (sections words rest).2) := by
  have unlabelled : ∀ entry ∈ withDepth false 0 first, sectionWord? words entry = none := by
    intro entry member
    rcases lacks.outside 0 entry member with deeper | ⟨outermost, shown⟩
    · rw [sectionWord?, if_neg (by omega)]
    · rw [sectionWord?, if_pos outermost, List.find?_eq_none]
      simpa using shown
  simp [sections, lacks.withDepth_append, cutAt_append unlabelled]

end Lacks

/-- A word starts a section. -/
theorem sections_cons (member : word ∈ words) :
    sections words (.keyword word :: rest) =
      ([], (word, (sections words rest).1) :: (sections words rest).2) := by
  have labelled : sectionWord? words (.keyword word, 0) = some word := by
    rw [sectionWord?, if_pos rfl]
    simp only [keyword_inj]
    cases found : words.find? fun other => word = other with
    | none => simpa using List.find?_eq_none.1 found word member
    | some other =>
      have same : word = other := by simpa using List.find?_some found
      rw [same]
  have sameDepth : (Token.keyword word).depthAfter false 0 = 0 := by
    simp [depthAfter]
  simp [sections, withDepth, cutAt, labelled, sameDepth]

/-- A clause that is there is its word and what is under it. -/
theorem optionTokens_some (word : Keyword) (tokens : List Token) :
    optionTokens word (some tokens) = .keyword word :: tokens :=
  rfl

/-- The clauses that are not missing. -/
def presentClauses (clauses : List (Keyword × Option (List Token))) :
    List (Keyword × List Token) :=
  clauses.filterMap fun clause => clause.2.map (Prod.mk clause.1)

/-- The tokens of clauses, each of which is a word and what is under it, unless it is
missing. -/
def clauseTokens (clauses : List (Keyword × Option (List Token))) : List Token :=
  clauses.flatMap fun clause => optionTokens clause.1 clause.2

section Clauses

variable {clauses : List (Keyword × Option (List Token))}

/-- Clauses are found again by their words, as far as they are not missing. -/
theorem sections_clauseTokens (among : ∀ clause ∈ clauses, clause.1 ∈ words)
    (lacks : ∀ clause ∈ clauses, ∀ body ∈ clause.2, Lacks words body) :
    sections words (clauseTokens clauses) = ([], presentClauses clauses) := by
  induction clauses with
  | nil => rfl
  | cons clause others inductionHypothesis =>
    rw [List.forall_mem_cons] at among lacks
    have following := inductionHypothesis among.2 lacks.2
    obtain ⟨word, body?⟩ := clause
    rw [clauseTokens, List.flatMap_cons, ← clauseTokens]
    cases body? with
    | none => simpa [optionTokens, presentClauses] using following
    | some body =>
      rw [optionTokens, List.cons_append, sections_cons among.1,
        (lacks.1 body rfl).sections_append, following]
      simp [presentClauses]

/-- The words of the clauses that are not missing are among those of all, in their
order. -/
theorem words_presentClauses_sublist (clauses : List (Keyword × Option (List Token))) :
    ((presentClauses clauses).map Prod.fst).Sublist (clauses.map Prod.fst) := by
  induction clauses with
  | nil => exact .slnil
  | cons clause others inductionHypothesis =>
    obtain ⟨word, body?⟩ := clause
    cases body? with
    | none => simpa [presentClauses] using inductionHypothesis.cons word
    | some body => simpa [presentClauses] using inductionHypothesis.cons_cons word

/-- What is found under a word is the body of its clause, if no word has two. -/
theorem lookup_presentClauses (distinct : (clauses.map Prod.fst).Nodup) (word : Keyword) :
    (presentClauses clauses).lookup word = (clauses.lookup word).join := by
  induction clauses with
  | nil => rfl
  | cons clause others inductionHypothesis =>
    obtain ⟨head, body?⟩ := clause
    rw [List.map_cons, List.nodup_cons] at distinct
    have following := inductionHypothesis distinct.2
    rw [presentClauses] at following ⊢
    by_cases same : word = head
    · subst same
      have missing : others.lookup word = none := by
        rw [List.lookup_eq_none_iff]
        intro other member
        have different : word ≠ other.1 := by
          rintro rfl
          exact distinct.1 (List.mem_map.2 ⟨other, member, rfl⟩)
        simpa using different
      cases body? with
      | none => simpa [missing] using following
      | some body => simp
    · have different : (word == head) = false := by simpa using same
      cases body? <;> simpa [List.lookup_cons, different] using following

end Clauses

/-- Joined parts are nothing exactly if each of them is. -/
theorem joinedBy_eq_nil_iff {parts : List (List Token)} :
    joinedBy word parts = [] ↔ ∀ part ∈ parts, part = [] := by
  rw [joinedBy]
  cases kept : parts.filter (· ≠ []) with
  | nil => simpa using kept
  | cons part others =>
    have member : part ∈ parts.filter (· ≠ []) := kept ▸ List.mem_cons_self
    obtain ⟨isPart, notNil⟩ := List.mem_filter.1 member
    have partNotNil : part ≠ [] := by simpa using notNil
    have joinedNotNil : [Token.keyword word].intercalate (part :: others) ≠ [] := by
      cases others <;> simp [List.intercalate_cons_cons, partNotNil]
    exact ⟨fun empty => absurd empty joinedNotNil,
      fun allNil => absurd (allNil part isPart) partNotNil⟩

/-- A part without tokens is left out. -/
theorem joinedBy_nil_cons (word : Keyword) (parts : List (List Token)) :
    joinedBy word ([] :: parts) = joinedBy word parts := by
  simp [joinedBy]

/-- A part with tokens comes before the others, with the word in between if anything is
left of them. -/
theorem joinedBy_cons {part : List Token} (notNil : part ≠ []) (word : Keyword)
    (parts : List (List Token)) :
    joinedBy word (part :: parts) =
      if joinedBy word parts = [] then part
      else part ++ .keyword word :: joinedBy word parts := by
  have isNil : joinedBy word parts = [] ↔ parts.filter (· ≠ []) = [] := by
    rw [joinedBy_eq_nil_iff]
    simp
  split
  · rename_i empty
    rw [joinedBy, List.filter_cons_of_pos (by simpa using notNil), isNil.1 empty,
      List.intercalate_singleton]
  · rename_i notEmpty
    obtain ⟨next, others, kept⟩ := List.exists_cons_of_ne_nil (mt isNil.2 notEmpty)
    rw [joinedBy, List.filter_cons_of_pos (by simpa using notNil), joinedBy, kept,
      List.intercalate_cons_cons, List.append_assoc, List.singleton_append]

/-- What is under the first word of a clause that lists parts, if there are any. -/
def listBody? (more : List Keyword) (parts : List (List Token)) : Option (List Token) :=
  if parts = [] then none else some (more.map Token.keyword ++ commaSeparated parts)

/-- What is under the word of a clause of conditions, if anything is left of them. -/
def conditionBody? (parts : List (List Token)) : Option (List Token) :=
  if joinedBy .and parts = [] then none else some (joinedBy .and parts)

/-- A clause that lists parts is its first word and what is under it. -/
theorem listClause_eq_optionTokens (word : Keyword) (more : List Keyword)
    (parts : List (List Token)) :
    listClause (word :: more) parts = optionTokens word (listBody? more parts) := by
  rw [listClause, listBody?]
  split <;> rfl

/-- A clause of conditions is its word and what is under it. -/
theorem conditionClause_eq_optionTokens (word : Keyword) (parts : List (List Token)) :
    introducedBy [word] (joinedBy .and parts) = optionTokens word (conditionBody? parts) := by
  rw [introducedBy, conditionBody?]
  split <;> rfl

namespace Lacks

/-- What is under the word of a list of elements has no words of clauses. -/
theorem listBody? {more : List Keyword} {parts : List (List Token)}
    (starts : ∀ word ∈ words, word.startsClause = true)
    (admitted : ∀ word ∈ more, Breadth.element.admits word = true)
    (phrases : ∀ part ∈ parts, Phrase .element part) :
    ∀ body ∈ SqlTree.listBody? more parts, Lacks words body := by
  have lacksMore : Lacks words (more.map Token.keyword) := by
    induction more with
    | nil => exact .nil
    | cons next others inductionHypothesis =>
      rw [List.forall_mem_cons] at admitted
      exact .append (.ofPhrase starts (.keyword next admitted.1))
        (inductionHypothesis admitted.2)
  intro body isBody
  rw [SqlTree.listBody?] at isBody
  split at isBody
  · cases isBody
  · cases isBody
    exact lacksMore.append
      (.commaSeparated fun part member => .ofPhrase starts (phrases part member))

/-- What is under the word of a clause of conditions has no words of clauses. -/
theorem conditionBody? {parts : List (List Token)}
    (starts : ∀ word ∈ words, word.startsClause = true)
    (optional : ∀ part ∈ parts, OptionalPhrase .element part) :
    ∀ body ∈ SqlTree.conditionBody? parts, Lacks words body := by
  intro body isBody
  rw [SqlTree.conditionBody?] at isBody
  split at isBody
  · cases isBody
  · cases isBody
    exact .ofOptional starts (.joinedBy rfl optional)

end Lacks

/-- A clause that consists of some words and a list of the given parts, whose elements
are found by its commas. It is missing if there are no parts. -/
def IsListOf (words : List Keyword) (parts : List (List Token)) : Option (List Token) → Prop
  | none => parts = []
  | some body => parts ≠ [] ∧
      ∃ list, body = words.map Token.keyword ++ list ∧ outerElements false list = parts

/-- A clause that consists of the given parts, as far as they have tokens, with `AND`
between them. It is missing if none of them has. -/
def IsConjunctionOf (parts : List (List Token)) : Option (List Token) → Prop
  | none => ∀ part ∈ parts, part = []
  | some body => (∃ part ∈ parts, part ≠ []) ∧ body = joinedBy .and parts

/-- A clause that lists parts has them as its elements. -/
theorem isListOf_listBody? {more : List Keyword} {parts : List (List Token)}
    (phrases : ∀ part ∈ parts, Phrase .element part) :
    IsListOf more parts (listBody? more parts) := by
  rw [listBody?]
  split
  · assumption
  · exact ⟨by assumption, _, rfl, outerElements_commaSeparated phrases false⟩

/-- A clause of conditions has them between its connectives. -/
theorem isConjunctionOf_conditionBody? (parts : List (List Token)) :
    IsConjunctionOf parts (conditionBody? parts) := by
  rw [conditionBody?]
  split
  · rename_i empty
    exact joinedBy_eq_nil_iff.1 empty
  · rename_i notNil
    rw [joinedBy_eq_nil_iff] at notNil
    exact ⟨by simpa using notNil, rfl⟩

/-- The words that start the clauses of a `SELECT`, in their order. -/
def Select.clauseWords : List Keyword :=
  [.select, .from, .where, .group, .having, .order]

/-- The clauses of a `SELECT`, present or missing. -/
def Select.clauses (context : Context) (select : Select) :
    List (Keyword × Option (List Token)) :=
  [(.select, some (setQuantifierTokens select.quantifier ++ Top.tokensOption context select.top ++
      commaSeparated (Projection.tokensEach context select.projections))),
    (.from, listBody? [] (FromItem.tokensEach context select.items)),
    (.where, conditionBody? (Condition.tokensEach context select.conditions)),
    (.group, listBody? [.by] (Expr.tokensEach context select.groupKeys)),
    (.having, conditionBody? (Condition.tokensEach context select.groupConditions)),
    (.order, listBody? [.by] (SortKey.tokensEach context select.sortKeys))]

/-- The tokens of a `SELECT` are those of its clauses. -/
theorem Select.tokens_eq_clauseTokens (context : Context) (select : Select) :
    select.tokens context = clauseTokens (select.clauses (context.qualified true)) := by
  obtain ⟨quantifier, top, projections, items, scope, conditions, groupKeys, groupConditions,
    sortKeys, wrapped⟩ := select
  simp only [tokens, listClause_eq_optionTokens, conditionClause_eq_optionTokens, clauseTokens,
    clauses, List.flatMap_cons, List.flatMap_nil, optionTokens_some, List.append_nil,
    List.append_assoc, List.cons_append]

/-- No clause of a `SELECT` shows a word that starts clauses under its own one. -/
theorem Select.lacks_clauses (starts : ∀ word ∈ words, word.startsClause = true)
    (context : Context) (select : Select) :
    ∀ clause ∈ select.clauses context, ∀ body ∈ clause.2, Lacks words body := by
  have head : Lacks words (setQuantifierTokens select.quantifier ++
      Top.tokensOption context select.top ++
        commaSeparated (Projection.tokensEach context select.projections)) :=
    ((Lacks.ofOptional starts (.setQuantifierTokens select.quantifier)).append
      (.ofOptional starts (Top.phraseOption context select.top))).append
        (.commaSeparated fun part member =>
          .ofPhrase starts (Projection.phraseEach context select.projections part member))
  simp only [clauses, List.forall_mem_cons]
  refine ⟨?_, ?_, ?_, ?_, ?_, ?_, by simp⟩
  · rintro body ⟨⟩
    exact head
  · exact .listBody? starts (by simp) (FromItem.phraseEach context select.items)
  · exact .conditionBody? starts (Condition.phraseEach context select.conditions)
  · exact .listBody? starts (by decide)
      fun part member => (Expr.phraseEach context select.groupKeys part member).ofValue
  · exact .conditionBody? starts (Condition.phraseEach context select.groupConditions)
  · exact .listBody? starts (by decide) (SortKey.phraseEach context select.sortKeys)

/-- The clauses of a `SELECT` are found again by their words. -/
theorem Select.sections_tokens (context : Context) (select : Select) :
    sections clauseWords (select.tokens context) =
      ([], presentClauses (select.clauses (context.qualified true))) := by
  rw [select.tokens_eq_clauseTokens]
  exact sections_clauseTokens (by simp [clauses, clauseWords])
    (select.lacks_clauses (by decide) (context.qualified true))

/-- What is under a word of a `SELECT` is its clause of that word. -/
theorem Select.clause?_tokens (context : Context) (select : Select) (word : Keyword) :
    clause? clauseWords (select.tokens context) word =
      ((select.clauses (context.qualified true)).lookup word).join := by
  rw [clause?, sections_tokens]
  exact lookup_presentClauses (by simp [clauses]) word

/-- The words that start the clauses of an `UPDATE`, in their order. -/
def Update.clauseWords : List Keyword :=
  [.update, .set, .where]

/-- The clauses of an `UPDATE`, present or missing. -/
def Update.clauses (context : Context) (update : Update) :
    List (Keyword × Option (List Token)) :=
  [(.update, some (update.target.source.tokens context)),
    (.set, some (commaSeparated (update.setters.map (Setter.tokens context)))),
    (.where, conditionBody? (Condition.tokensEach context update.conditions))]

/-- What is under a word of an `UPDATE` is its clause of that word. -/
theorem Update.clause?_tokens (context : Context) (update : Update) (word : Keyword) :
    clause? clauseWords (update.tokens context) word =
      ((update.clauses context).lookup word).join := by
  have starts : ∀ word ∈ clauseWords, word.startsClause = true := by decide
  have tokens : update.tokens context = clauseTokens (update.clauses context) := by
    simp only [Update.tokens, whereClause, conditionClause_eq_optionTokens, clauseTokens, clauses,
      List.flatMap_cons, List.flatMap_nil, optionTokens_some, List.append_nil, List.append_assoc,
      List.cons_append]
  have setters : ∀ part ∈ update.setters.map (Setter.tokens context), Lacks clauseWords part := by
    intro part member
    obtain ⟨setter, -, rfl⟩ := List.mem_map.1 member
    exact .ofPhrase starts (setter.phrase context)
  have lacks : ∀ clause ∈ update.clauses context, ∀ body ∈ clause.2, Lacks clauseWords body := by
    simp only [clauses, List.forall_mem_cons]
    refine ⟨?_, ?_, ?_, by simp⟩
    · rintro body ⟨⟩
      exact .ofPhrase starts (update.target.source.phrase context)
    · rintro body ⟨⟩
      exact .commaSeparated setters
    · exact .conditionBody? starts (Condition.phraseEach context update.conditions)
  rw [clause?, tokens, sections_clauseTokens (by simp [clauses, clauseWords]) lacks]
  exact lookup_presentClauses (by simp [clauses]) word

/-- The words that start the clauses of a `DELETE`, in their order. -/
def Delete.clauseWords : List Keyword :=
  [.delete, .from, .where]

/-- The clauses of a `DELETE`, present or missing. -/
def Delete.clauses (context : Context) (delete : Delete) :
    List (Keyword × Option (List Token)) :=
  [(.delete, some []), (.from, some (delete.target.source.tokens context)),
    (.where, conditionBody? (Condition.tokensEach context delete.conditions))]

/-- What is under a word of a `DELETE` is its clause of that word. -/
theorem Delete.clause?_tokens (context : Context) (delete : Delete) (word : Keyword) :
    clause? clauseWords (delete.tokens context) word =
      ((delete.clauses context).lookup word).join := by
  have starts : ∀ word ∈ clauseWords, word.startsClause = true := by decide
  have tokens : delete.tokens context = clauseTokens (delete.clauses context) := by
    simp only [Delete.tokens, whereClause, conditionClause_eq_optionTokens, clauseTokens, clauses,
      List.flatMap_cons, List.flatMap_nil, optionTokens_some, List.append_nil, List.cons_append,
      List.nil_append]
  have lacks : ∀ clause ∈ delete.clauses context, ∀ body ∈ clause.2, Lacks clauseWords body := by
    simp only [clauses, List.forall_mem_cons]
    refine ⟨?_, ?_, ?_, by simp⟩
    · rintro body ⟨⟩
      exact .nil
    · rintro body ⟨⟩
      exact .ofPhrase starts (delete.target.source.phrase context)
    · exact .conditionBody? starts (Condition.phraseEach context delete.conditions)
  rw [clause?, tokens, sections_clauseTokens (by simp [clauses, clauseWords]) lacks]
  exact lookup_presentClauses (by simp [clauses]) word

/-- The clauses of a `SELECT` are found by the words that stand outside its parentheses.
It starts with `SELECT`, its words come in their order and each at most once, and a
clause is there exactly if it has something in it. The list after `SELECT`, the sources,
the keys to group by and the keys to sort by are found by the commas that stand outside
parentheses, each element whole and in its place; the conditions are joined as they are
rendered. -/
theorem Select.clauses_found (context : Context) (select : Select) :
    let inside := context.qualified true
    let found := sections clauseWords (select.tokens context)
    let clause? := SqlTree.clause? clauseWords (select.tokens context)
    found.1 = [] ∧ (found.2.map Prod.fst).head? = some .select ∧
      (found.2.map Prod.fst).Sublist clauseWords ∧
      (∃ list, clause? .select = some (setQuantifierTokens select.quantifier ++
          Top.tokensOption inside select.top ++ list) ∧
        outerElements false list = Projection.tokensEach inside select.projections) ∧
      IsListOf [] (select.items.map (FromItem.tokens inside)) (clause? .from) ∧
      IsConjunctionOf (select.conditions.map (Condition.tokens inside)) (clause? .where) ∧
      IsListOf [.by] (select.groupKeys.map (Expr.tokens inside)) (clause? .group) ∧
      IsConjunctionOf (select.groupConditions.map (Condition.tokens inside)) (clause? .having) ∧
      IsListOf [.by] (select.sortKeys.map (SortKey.tokens inside)) (clause? .order) := by
  intro inside found clause?
  have isFound : found = ([], presentClauses (select.clauses inside)) :=
    select.sections_tokens context
  have isClause : ∀ word, clause? word = ((select.clauses inside).lookup word).join :=
    fun word => select.clause?_tokens context word
  have sublist := words_presentClauses_sublist (select.clauses inside)
  refine ⟨by rw [isFound], ?_, by rw [isFound]; exact sublist, ?_, ?_, ?_, ?_, ?_, ?_⟩
  · simp [isFound, presentClauses, clauses]
  · refine ⟨_, isClause .select, ?_⟩
    exact outerElements_commaSeparated (Projection.phraseEach inside select.projections) false
  · rw [isClause, ← FromItem.tokensEach_eq_map]
    exact isListOf_listBody? (FromItem.phraseEach inside select.items)
  · rw [isClause, ← Condition.tokensEach_eq_map]
    exact isConjunctionOf_conditionBody? _
  · rw [isClause, ← Expr.tokensEach_eq_map]
    exact isListOf_listBody?
      fun part member => (Expr.phraseEach inside select.groupKeys part member).ofValue
  · rw [isClause, ← Condition.tokensEach_eq_map]
    exact isConjunctionOf_conditionBody? _
  · rw [isClause, ← SortKey.tokensEach_eq_map]
    exact isListOf_listBody? (SortKey.phraseEach inside select.sortKeys)

end SqlTree
