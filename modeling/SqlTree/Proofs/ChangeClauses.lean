import SqlTree.Proofs.Clauses

/-!
# The parts of statements that change rows

An `UPDATE` shows outside of parentheses and choices one `SET` and at most one `WHERE`, whatever
stands in its values. Cut there, and between the two at its commas, it gives its settings in
their order, and the first equals sign of each of them parts the column from the value. A
`DELETE` has its conditions behind `WHERE` alike.

An `INSERT` has its columns in one pair of parentheses, if there are any, and its rows in
another. So no column can come to stand by the value of another one, neither here nor there
(`Statement.changes_found`).
-/

namespace SqlTree

open Token

variable {choices : Bool} {word : Keyword} {tokens front : List Token}

/-- An element does not show a word that starts clauses. -/
theorem Phrase.hides (phrase : Phrase .element tokens) (choices : Bool)
    (starts : word.startsClause = true) :
    Balanced choices (fun token => token ≠ .keyword word) tokens := by
  refine (phrase.startsNone choices).mono fun token shown isWord => ?_
  have none := shown.2 word isWord
  rw [starts] at none
  exact absurd none (by decide)

/-- An element, or nothing, does not show a word that starts clauses. -/
theorem OptionalPhrase.hides (optional : OptionalPhrase .element tokens) (choices : Bool)
    (starts : word.startsClause = true) :
    Balanced choices (fun token => token ≠ .keyword word) tokens := by
  rcases optional with rfl | phrase
  · exact .nil
  · exact phrase.hides choices starts

/-- Tokens hold a clause of conditions: they are cut in two by its word, if any condition has
tokens, and not at all otherwise. -/
def HasConditions (choices : Bool) (context : Context) (conditions : List Condition)
    (front tokens : List Token) : Prop :=
  (outermost choices tokens).count (.keyword .where) ≤ 1 ∧
    ∃ body, pieces choices (.keyword .where) tokens = front :: body.toList ∧
      IsConjunctionOf (conditions.map (Condition.tokens context)) body

/-- Tokens are cut in two by the word of a clause that follows them, if there is one. -/
theorem pieces_optionTokens {body? : Option (List Token)} (starts : word.startsClause = true)
    (hides : Balanced choices (fun token => token ≠ .keyword word) front)
    (hidesBody : ∀ body ∈ body?, Balanced choices (fun token => token ≠ .keyword word) body) :
    pieces choices (.keyword word) (front ++ optionTokens word body?) =
      front :: body?.toList := by
  cases body? with
  | none =>
    rw [optionTokens, List.append_nil]
    exact pieces_single hides fun _ shown => shown
  | some body =>
    have plain : word ≠ .case ∧ word ≠ .end := by
      constructor <;> rintro rfl <;> exact absurd starts (by decide)
    rw [optionTokens, pieces_append hides (fun _ shown => shown) (by simp [plain])
      (by simp [plain]), pieces_single (hidesBody body rfl) fun _ shown => shown]
    rfl

/-- What is under the word of a clause of conditions does not show a word that starts clauses. -/
theorem hides_conditionBody? (choices : Bool) (context : Context) (conditions : List Condition)
    (starts : word.startsClause = true) :
    ∀ body ∈ conditionBody? (Condition.tokensEach context conditions),
      Balanced choices (fun token => token ≠ .keyword word) body := by
  intro body isBody
  rw [conditionBody?] at isBody
  split at isBody
  · cases isBody
  · cases isBody
    have parts := Condition.phraseEach context conditions
    exact (OptionalPhrase.joinedBy rfl parts).hides choices starts

/-- A clause of conditions shows no word that starts clauses but its own. -/
theorem hides_whereClause (choices : Bool) (context : Context) (conditions : List Condition)
    (starts : word.startsClause = true) (different : word ≠ .where) :
    Balanced choices (fun token => token ≠ .keyword word) (whereClause context conditions) := by
  have hides := hides_conditionBody? choices context conditions starts
  rw [whereClause, conditionClause_eq_optionTokens]
  cases isBody : conditionBody? (Condition.tokensEach context conditions) with
  | none => exact .nil
  | some body =>
    exact .cons (by simpa using different.symm) (by simp) (by simp) (hides body isBody)

/-- A clause of conditions is found behind tokens that do not show its word. -/
theorem hasConditions_whereClause (context : Context) (conditions : List Condition)
    (hides : Balanced choices (fun token => token ≠ .keyword .where) front) :
    HasConditions choices context conditions front (front ++ whereClause context conditions) := by
  have cut := pieces_optionTokens rfl hides (hides_conditionBody? choices context conditions rfl)
  rw [HasConditions, whereClause, conditionClause_eq_optionTokens,
    ← Condition.tokensEach_eq_map]
  refine ⟨?_, _, cut, isConjunctionOf_conditionBody? _⟩
  have count := count_outermost choices (.keyword .where) (front ++
    optionTokens .where (conditionBody? (Condition.tokensEach context conditions)))
  rw [cut, List.length_cons] at count
  exact Nat.succ.inj count ▸ Option.length_toList_le

/-- The settings of an `UPDATE` do not show a word that starts clauses. -/
theorem Setter.hides_commaSeparated (context : Context) (setters : List Setter) (choices : Bool)
    (starts : word.startsClause = true) :
    Balanced choices (fun token => token ≠ .keyword word)
      (commaSeparated (setters.map (Setter.tokens context))) := by
  refine .commaSeparated (ne_keyword (by decide) word) fun part member => ?_
  obtain ⟨setter, -, rfl⟩ := List.mem_map.1 member
  exact (setter.phrase context).hides choices starts

/-- The first equals sign in the setting of a column is the one behind the column. -/
theorem Setter.cutAtFirst_tokens (context : Context) (setter : Setter) :
    cutAtFirst (.operator "=") (setter.tokens context) =
      (setter.column.tokens context, setter.value.tokens context) := by
  have absent : ∀ qualifier : Option Identifier,
      Token.operator "=" ∉ qualifierTokens qualifier ++ [.identifier setter.column.name.sql] := by
    intro qualifier
    cases qualifier <;> simp [qualifierTokens, operator, identifier, dot]
  exact cutAtFirst_append (absent _) _

/-- The settings of an `UPDATE` are found by the commas between them, and in each of them the
column and the value by the equals sign. -/
theorem Setter.cut_commaSeparated (choices : Bool) (context : Context) (setters : List Setter) :
    (outerElements choices (commaSeparated (setters.map (Setter.tokens context)))).map
        (cutAtFirst (.operator "=")) =
      setters.map fun setter => (setter.column.tokens context, setter.value.tokens context) := by
  have phrases : ∀ part ∈ setters.map (Setter.tokens context), Phrase .element part := by
    intro part member
    obtain ⟨setter, -, rfl⟩ := List.mem_map.1 member
    exact setter.phrase context
  rw [outerElements_commaSeparated phrases, List.map_map]
  exact List.map_congr_left fun setter _ => setter.cutAtFirst_tokens context

/-- The beginning of an `UPDATE` shows its own word only. -/
theorem Update.hides_target (choices : Bool) (context : Context) (update : Update)
    (starts : word.startsClause = true) (different : word ≠ .update) :
    Balanced choices (fun token => token ≠ .keyword word)
      (.keyword .update :: update.target.source.tokens context) :=
  .cons (by simpa using different.symm) (by simp) (by simp)
    ((update.target.source.phrase context).hides choices starts)

/-- What is behind `SET` in an `UPDATE` is cut off there, if it does not show the word again. -/
theorem Update.pieces_set (context : Context) (update : Update) {rest : List Token}
    (hides : Balanced choices (fun token => token ≠ .keyword .set) rest) :
    pieces choices (.keyword .set)
        (.keyword .update :: update.target.source.tokens context ++ .keyword .set :: rest) =
      [.keyword .update :: update.target.source.tokens context, rest] := by
  rw [pieces_append (update.hides_target choices context rfl (by decide)) (fun _ shown => shown)
    (by simp) (by simp), pieces_single hides fun _ shown => shown]

/-- An `UPDATE` is cut into its settings and its conditions. -/
def Update.IsCut (choices : Bool) (context : Context) (update : Update) (tokens : List Token) :
    Prop :=
  (outermost choices tokens).count (.keyword .set) = 1 ∧
    ∃ front list, HasConditions choices context update.conditions front tokens ∧
      pieces choices (.keyword .set) front =
        [.keyword .update :: update.target.source.tokens context, list] ∧
      (outerElements choices list).map (cutAtFirst (.operator "=")) =
        update.setters.map fun setter =>
          (setter.column.tokens context, setter.value.tokens context)

/-- The tokens of an `UPDATE` are cut into its settings and its conditions. -/
theorem Update.isCut_tokens (choices : Bool) (context : Context) (update : Update) :
    update.IsCut choices context (update.tokens context) := by
  let setters := commaSeparated (update.setters.map (Setter.tokens context))
  let conditions := whereClause context update.conditions
  have hidesSet : Balanced choices (fun token => token ≠ .keyword .set) setters :=
    Setter.hides_commaSeparated context update.setters choices rfl
  have hidesWhere : Balanced choices (fun token => token ≠ .keyword .where) setters :=
    Setter.hides_commaSeparated context update.setters choices rfl
  constructor
  · have conditionsHideSet : Balanced choices (fun token => token ≠ .keyword .set) conditions :=
      hides_whereClause choices context update.conditions rfl (by decide)
    have tokens : update.tokens context =
        .keyword .update :: update.target.source.tokens context ++
          .keyword .set :: (setters ++ conditions) := by
      simp [Update.tokens, setters, conditions]
    have count := count_outermost choices (.keyword .set) (update.tokens context)
    rw [tokens, update.pieces_set context (hidesSet.append conditionsHideSet)] at count
    rw [tokens]
    exact Nat.succ.inj count
  · have front : Balanced choices (fun token => token ≠ .keyword .where)
        (.keyword .update :: update.target.source.tokens context ++ .keyword .set :: setters) :=
      (update.hides_target choices context rfl (by decide)).append
        (.cons (by simp) (by simp) (by simp) hidesWhere)
    exact ⟨_, setters, hasConditions_whereClause context update.conditions front,
      update.pieces_set context hidesSet, Setter.cut_commaSeparated choices context update.setters⟩

/-- The tokens of a `DELETE` hold its conditions behind its target. -/
theorem Delete.hasConditions_tokens (choices : Bool) (context : Context) (delete : Delete) :
    HasConditions choices context delete.conditions
      ([.keyword .delete, .keyword .from] ++ delete.target.source.tokens context)
      (delete.tokens context) := by
  refine hasConditions_whereClause context delete.conditions ?_
  exact .cons (by simp) (by simp) (by simp)
    (.cons (by simp) (by simp) (by simp)
      ((delete.target.source.phrase context).hides choices rfl))

/-- What stands outside parentheses in the rows of an `INSERT`. -/
def InsertRows.lead : InsertRows → List Token
  | .list _ => [.callee Keyword.values.text, .opening]
  | .query _ => [.opening]

/-- The rows of an `INSERT` are between parentheses: the elements of the list, or the query and
nothing else. -/
def InsertRows.IsGroup (choices : Bool) (context : Context) (rows : InsertRows)
    (group : List Token) : Prop :=
  match rows with
  | .list values => outerElements choices group = values.map (Expr.tokens context)
  | .query body => group = body.tokens context

/-- An `INSERT` is cut into its columns and its rows. -/
def Insert.IsCut (choices : Bool) (context : Context) (insert : Insert) (tokens : List Token) :
    Prop :=
  outermost false tokens =
      [.keyword .insert, .keyword .into] ++ insert.target.source.tokens context ++
        (if insert.columns = [] then [] else [.opening]) ++ insert.rows.lead ∧
    ∃ (columnGroup : Option (List Token)) (rowsGroup : List Token),
      groups tokens = columnGroup.toList ++ [rowsGroup] ∧
      columnGroup.map (outerElements choices) =
        (if insert.columns = [] then none
          else some (insert.columns.map (Column.tokens context))) ∧
      insert.rows.IsGroup choices context rowsGroup

/-- The rows of an `INSERT` are one group. -/
theorem InsertRows.groups_tokens (choices : Bool) (context : Context) (rows : InsertRows) :
    outermost false (rows.tokens context) = rows.lead ∧
      ∃ group, groups (rows.tokens context) = [group] ∧ rows.IsGroup choices context group := by
  cases rows with
  | list values =>
    have phrases : ∀ part ∈ values.map (Expr.tokens context), Phrase .element part := by
      rw [← Expr.tokensEach_eq_map]
      exact fun part member => (Expr.phraseEach context values part member).ofValue
    obtain ⟨skipped, shown⟩ := @groups_append [.callee Keyword.values.text]
      (parenthesized (commaSeparated (values.map (Expr.tokens context)))) (by simp [callee])
    obtain ⟨found, outer⟩ := groups_commaSeparated phrases []
    rw [List.append_nil] at found outer
    rw [InsertRows.tokens, Expr.tokensEach_eq_map, ← List.singleton_append, shown, skipped, found,
      outer]
    exact ⟨rfl, _, rfl, outerElements_commaSeparated phrases choices⟩
  | query body =>
    obtain ⟨found, outer⟩ := groups_parenthesized ((body.phrase context).balanced false) []
    rw [List.append_nil] at found outer
    rw [InsertRows.tokens, found, outer]
    exact ⟨rfl, _, rfl, rfl⟩

/-- The tokens of an `INSERT` are cut into its columns and its rows. -/
theorem Insert.isCut_tokens (choices : Bool) (context : Context) (insert : Insert) :
    insert.IsCut choices context (insert.tokens context) := by
  obtain ⟨rowsShown, rowsGroup, rowsFound, isGroup⟩ :=
    insert.rows.groups_tokens choices context
  have flat : ∀ token ∈ [.keyword .insert, .keyword .into] ++
      insert.target.source.tokens context, token.kind ∉ [TokenKind.opening, .closing] := by
    obtain ⟨⟨table, aliasName⟩, _, _⟩ := insert
    cases aliasName <;> cases aliased : context.dialect.aliasSourcesUsingAs <;>
      simp [Target.source, Source.tokens, Origin.tokens, aliasTokens, keywordIf, aliased, keyword,
        identifier]
  rw [Insert.IsCut, Insert.tokens, List.append_assoc, (groups_append flat).1,
    (groups_append flat).2, columnListTokens]
  by_cases empty : insert.columns = []
  · refine ⟨?_, none, rowsGroup, ?_, ?_, isGroup⟩ <;> simp [empty, rowsShown, rowsFound]
  · have phrases : ∀ part ∈ insert.columns.map (Column.tokens context), Phrase .element part := by
      intro part member
      obtain ⟨column, -, rfl⟩ := List.mem_map.1 member
      exact (column.phrase context).ofValue
    obtain ⟨found, outer⟩ := groups_commaSeparated phrases (insert.rows.tokens context)
    rw [if_neg empty, if_neg empty, if_neg empty, found, outer, rowsShown, rowsFound]
    refine ⟨by simp, some _, rowsGroup, rfl, ?_, isGroup⟩
    rw [Option.map_some, outerElements_commaSeparated phrases]

/-- Statements that change rows are cut into their parts by what stands outside of parentheses,
and as well by what stands outside of choices too (`choices`), in every dialect.

An `UPDATE` has one `SET` and at most one `WHERE` there. What is between the two has one element
for each setting, in order, and the first equals sign of an element parts the column from its
value. Behind `WHERE` are the conditions that have tokens, with `AND` between them, and it is
there exactly if there are any; alike in a `DELETE`. An `INSERT` has a pair of parentheses for
its columns exactly if there are any, and one for its rows; the elements of the two are the
columns and the values, or the rows are one query. -/
theorem Statement.changes_found (dialect : Dialect) (choices : Bool) :
    (∀ update : Update, update.IsCut choices ⟨dialect, dialect.qualifyUpdateColumns⟩
        ((Statement.update update).tokens dialect)) ∧
      (∀ delete : Delete,
        HasConditions choices ⟨dialect, dialect.qualifyDeleteColumns⟩ delete.conditions
          ([.keyword .delete, .keyword .from] ++
            delete.target.source.tokens ⟨dialect, dialect.qualifyDeleteColumns⟩)
          ((Statement.delete delete).tokens dialect)) ∧
      ∀ insert : Insert, insert.IsCut choices ⟨dialect, dialect.qualifyInsertColumns⟩
        ((Statement.insert insert).tokens dialect) :=
  ⟨fun update => update.isCut_tokens choices _, fun delete => delete.hasConditions_tokens choices _,
    fun insert => insert.isCut_tokens choices _⟩

end SqlTree
