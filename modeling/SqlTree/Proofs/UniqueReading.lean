import SqlTree.Proofs.Readable.Lead
import SqlTree.Proofs.Readable.Words
import SqlTree.Proofs.Rewriting.Faithful

/-!
# Unique reading of values

The tokens of a value that holds no query and no condition say which value it is,
up to what columns do not show (`Expr.tokens_eq_iff_asShown_eq`). The parentheses
of arithmetic leave no choice of precedence, the parentheses that negation adds
in some cases are not taken for those of arithmetic, and calls, windows and
choices end where their own tokens say.

The first token of a value decides its form (`Expr.lead`). From there on its parts
are read off one after the other, each of them `Readable`.
-/

namespace SqlTree

/-- A value that holds no query and no condition. -/
inductive Expr.Elementary : Expr → Prop where
  | number (numeral : Numeral) : Elementary (.number numeral)
  | text (value : String) : Elementary (.text value)
  | null : Elementary .null
  | placeholder (parameter : Placeholder) : Elementary (.placeholder parameter)
  | column (reference : Column) : Elementary (.column reference)
  | allColumns (qualifier : Option Identifier) : Elementary (.allColumns qualifier)
  | call {invocation : Call}
      (arguments : ∀ argument ∈ invocation.arguments, argument.Elementary)
      (partitions : ∀ window ∈ invocation.window, ∀ expr ∈ window.partitions,
        expr.Elementary)
      (sortKeys : ∀ window ∈ invocation.window, ∀ key ∈ window.sortKeys,
        key.expr.Elementary) : Elementary (.call invocation)
  | arithmetic (operator : ArithmeticOperator) {left right : Expr} (first : left.Elementary)
      (second : right.Elementary) : Elementary (.arithmetic operator left right)
  | negation {operand : Expr} (inside : operand.Elementary) : Elementary (.negation operand)
  | matchCase {choice : MatchCase} (subject : choice.subject.Elementary)
      (values : ∀ branch ∈ choice.branches, branch.value.Elementary)
      (results : ∀ branch ∈ choice.branches, branch.result.Elementary)
      (otherwise : ∀ expr ∈ choice.otherwise, expr.Elementary) :
      Elementary (.matchCase choice)

/-- The column with nothing but what it shows: its name, and its qualifier unless
the qualifier is hidden. -/
def Column.asShown (shown : Bool) (column : Column) : Column :=
  ⟨if column.override.getD shown then column.qualifier else none, column.name, some true⟩

/-- The value with nothing of its columns but what they show. -/
def Expr.asShown (shown : Bool) (expr : Expr) : Expr :=
  expr.rewrite (.ofColumn Column.asShown) shown

/-- The sort key with nothing of its columns but what they show. -/
def SortKey.asShown (shown : Bool) (key : SortKey) : SortKey :=
  ⟨key.expr.asShown shown, key.direction, key.nulls⟩

/-- The branch with nothing of its columns but what they show. -/
def MatchBranch.asShown (shown : Bool) (branch : MatchBranch) : MatchBranch :=
  ⟨branch.value.asShown shown, branch.result.asShown shown⟩

/-- The window with nothing of its columns but what they show. -/
def Window.asShown (shown : Bool) (window : Window) : Window :=
  ⟨window.partitions.map (Expr.asShown shown), window.sortKeys.map (SortKey.asShown shown),
    window.frame⟩

/-- Whether a value can be read off the front of tokens. -/
abbrev Expr.IsReadable (context : Context) (expr : Expr) : Prop :=
  Readable Expr.Elementary (Expr.tokens context) (Expr.asShown context.qualify)
    Token.continuesValue expr

variable {context : Context} {first second : Expr} {rest otherRest : List Token}

/-- An operator does not go on with the value before it. -/
theorem stops_operator (operator : ArithmeticOperator) (tail : List Token) :
    Stops Token.continuesValue (.operator operator.text :: tail) :=
  Token.stops_cons (by cases operator <;> decide) tail

/-- A closing parenthesis does not go on with the value before it. -/
theorem stops_closing (tail : List Token) : Stops Token.continuesValue (.closing :: tail) :=
  Token.stops_cons (by decide) tail

namespace Expr

/-- A numeral is readable. -/
theorem readable_number (numeral : Numeral) : (number numeral).IsReadable context := by
  intro other rest otherRest elementary _ _ same
  have lead := lead_eq same
  cases elementary with
  | number otherNumeral =>
    obtain ⟨sameText, sameRest⟩ := Token.literal_cancel same
    exact ⟨by rw [Numeral.text_injective sameText], sameRest⟩
  | _ => simp [Expr.lead] at lead

/-- A string is readable. -/
theorem readable_text (value : String) : (text value).IsReadable context := by
  intro other rest otherRest elementary _ _ same
  have lead := lead_eq same
  cases elementary with
  | text otherValue =>
    obtain ⟨sameText, sameRest⟩ := Token.literal_cancel same
    exact ⟨by rw [Text.enclose_injective sameText], sameRest⟩
  | _ => simp [Expr.lead] at lead

/-- The null is readable. -/
theorem readable_null : null.IsReadable context := by
  intro other rest otherRest elementary _ _ same
  have lead := lead_eq same
  cases elementary with
  | null => exact ⟨rfl, by simpa [tokens] using same⟩
  | _ => simp [Expr.lead] at lead

/-- A placeholder is readable. -/
theorem readable_placeholder (parameter : Placeholder) :
    (placeholder parameter).IsReadable context := by
  intro other rest otherRest elementary _ _ same
  have lead := lead_eq same
  cases elementary with
  | placeholder otherParameter =>
    obtain ⟨sameText, sameRest⟩ := Token.literal_cancel same
    exact ⟨by rw [Placeholder.marker_injective sameText], sameRest⟩
  | _ => simp [Expr.lead] at lead

/-- A column is readable. -/
theorem readable_column (reference : Column) : (column reference).IsReadable context := by
  intro other rest otherRest elementary stops otherStops same
  have lead := lead_eq same
  cases elementary with
  | column otherReference =>
    obtain ⟨sameQualifier, sameName, sameRest⟩ := qualified_cancel stops otherStops same
    refine ⟨?_, sameRest⟩
    simp [asShown, rewrite, Rewriting.ofColumn, Column.asShown, sameQualifier,
      Identifier.sql_injective sameName]
  | allColumns qualifier =>
    obtain ⟨-, isStar, -⟩ := qualified_cancel stops otherStops same
    exact absurd isStar reference.name.sql_ne_star
  | _ => simp [Expr.lead] at lead

/-- A star is readable. -/
theorem readable_allColumns (qualifier : Option Identifier) :
    (allColumns qualifier).IsReadable context := by
  intro other rest otherRest elementary stops otherStops same
  have lead := lead_eq same
  cases elementary with
  | column reference =>
    obtain ⟨-, isStar, -⟩ := qualified_cancel stops otherStops same
    exact absurd isStar.symm reference.name.sql_ne_star
  | allColumns otherQualifier =>
    obtain ⟨sameQualifier, -, sameRest⟩ := qualified_cancel stops otherStops same
    exact ⟨by rw [sameQualifier], sameRest⟩
  | _ => simp [Expr.lead] at lead

/-- Arithmetic is readable if its operands are. -/
theorem readable_arithmetic (operator : ArithmeticOperator) {left right : Expr}
    (leftReadable : left.IsReadable context) (rightReadable : right.IsReadable context) :
    (arithmetic operator left right).IsReadable context := by
  intro other rest otherRest elementary stops otherStops same
  have lead := lead_eq same
  cases elementary with
  | @arithmetic otherOperator otherLeft otherRight first second =>
    simp only [tokens, parenthesized, List.cons_append, List.append_assoc, List.cons.injEq,
      true_and, List.nil_append] at same
    obtain ⟨sameLeft, following⟩ :=
      leftReadable first (stops_operator _ _) (stops_operator _ _) same
    simp only [List.cons.injEq] at following
    obtain ⟨sameText, following⟩ := following
    obtain ⟨sameRight, following⟩ :=
      rightReadable second (stops_closing _) (stops_closing _) following
    have operators : ∀ operator otherOperator : ArithmeticOperator,
        Token.operator operator.text = .operator otherOperator.text →
        operator = otherOperator := by
      intro operator otherOperator
      cases operator <;> cases otherOperator <;> decide
    simp only [List.cons.injEq, true_and] at following
    refine ⟨?_, following⟩
    rw [operators _ _ sameText]
    simpa [asShown, rewrite] using ⟨sameLeft, sameRight⟩
  | _ => simp [Expr.lead] at lead

/-- An operand of arithmetic and the closing of parentheses are not read off the
same tokens. -/
theorem operator_ne_closing {operand other : Expr} (readable : operand.IsReadable context)
    (elementary : other.Elementary) (operator : ArithmeticOperator) (tail : List Token) :
    operand.tokens context ++ .operator operator.text :: tail ≠
        other.tokens context ++ .closing :: rest ∧
      operand.tokens context ++ .closing :: rest ≠
        other.tokens context ++ .operator operator.text :: tail := by
  constructor
  · intro same
    have following := (readable elementary (stops_operator _ _) (stops_closing _) same).2
    simp [Token.operator, Token.closing] at following
  · intro same
    have following := (readable elementary (stops_closing _) (stops_operator _ _) same).2
    simp [Token.operator, Token.closing] at following

/-- A value that starts with a parenthesis is arithmetic. -/
theorem Elementary.eq_arithmetic {expr : Expr} (elementary : expr.Elementary)
    {tail : List Token} (same : expr.tokens context ++ rest = .opening :: tail) :
    ∃ operator left right, expr = .arithmetic operator left right ∧ left.Elementary := by
  obtain ⟨token, more, shape, isLead⟩ := expr.lead_tokens context
  rw [shape, List.cons_append, List.cons.injEq] at same
  rw [same.1] at isLead
  have lead : expr.lead = .parenthesis := (Option.some.inj isLead).symm
  cases elementary with
  | arithmetic operator first second => exact ⟨operator, _, _, rfl, first⟩
  | _ => simp [Expr.lead] at lead

/-- A negation is readable if its operand is, and the left operand of its operand
where that is arithmetic. -/
theorem readable_negation {operand : Expr} (operandElementary : operand.Elementary)
    (readable : operand.IsReadable context)
    (leftReadable : ∀ operator left right, operand = .arithmetic operator left right →
      left.IsReadable context) : (negation operand).IsReadable context := by
  intro other rest otherRest elementary stops otherStops same
  have lead := lead_eq same
  cases elementary with
  | @negation otherOperand inside =>
    simp only [tokens, negatedTokens, List.cons_append, List.cons.injEq, true_and] at same
    suffices operands : operand.asShown context.qualify = otherOperand.asShown context.qualify ∧
        rest = otherRest by
      refine ⟨?_, operands.2⟩
      simpa [asShown, rewrite] using operands.1
    -- Where one operand goes between parentheses and the other does not, the other one is
    -- arithmetic, and its left operand would have to end where the first one does.
    cases signed : (operand.tokens context).head?.any fun token => startsWithMinus token.text <;>
      cases otherSigned :
        (otherOperand.tokens context).head?.any fun token => startsWithMinus token.text <;>
      simp only [signed, otherSigned, parenthesizedIf, if_true, Bool.false_eq_true, if_false,
        parenthesized, List.cons_append, List.append_assoc, List.nil_append, List.cons.injEq,
        true_and] at same
    · exact readable inside stops otherStops same
    · obtain ⟨operator, left, right, rfl, _⟩ := operandElementary.eq_arithmetic same
      simp only [tokens, parenthesized, List.cons_append, List.append_assoc, List.cons.injEq,
        true_and] at same
      exact absurd same (operator_ne_closing (leftReadable _ _ _ rfl) inside operator _).1
    · obtain ⟨operator, left, right, rfl, first⟩ := inside.eq_arithmetic same.symm
      simp only [tokens, parenthesized, List.cons_append, List.append_assoc, List.cons.injEq,
        true_and] at same
      exact absurd same (operator_ne_closing readable first operator _).2
    · obtain ⟨sameOperand, following⟩ :=
        readable inside (stops_closing _) (stops_closing _) same
      simp only [List.cons.injEq, true_and] at following
      exact ⟨sameOperand, following⟩
  | _ => simp [Expr.lead] at lead

end Expr

/-- A sort key is readable if its value is. -/
theorem SortKey.readable {key : SortKey} (readable : key.expr.IsReadable context) :
    Readable (fun key => key.expr.Elementary) (SortKey.tokens context)
      (SortKey.asShown context.qualify) Token.continuesSortKey key := by
  intro other rest otherRest elementary stops otherStops same
  obtain ⟨expr, direction, nulls⟩ := key
  obtain ⟨otherExpr, otherDirection, otherNulls⟩ := other
  have wordStops : ∀ {direction nulls rest}, Stops Token.continuesSortKey rest →
      Stops Token.continuesValue (sortTokens direction nulls ++ rest) := by
    intro direction nulls rest stops
    rcases direction with _ | _ | _ <;> rcases nulls with _ | _ | _ <;>
      first | exact stops.left | exact Token.stops_cons (by decide) _
  simp only [SortKey.tokens, List.append_assoc] at same
  obtain ⟨sameExpr, following⟩ := readable elementary (wordStops stops) (wordStops otherStops) same
  obtain ⟨sameDirection, sameNulls, sameRest⟩ :=
    sortTokens_cancel stops.right otherStops.right following
  refine ⟨?_, sameRest⟩
  rw [SortKey.asShown, SortKey.asShown, sameExpr, sameDirection, sameNulls]

/-- A branch is readable if its value and its result are. -/
theorem MatchBranch.readable {branch : MatchBranch} (value : branch.value.IsReadable context)
    (result : branch.result.IsReadable context) :
    Readable (fun branch : MatchBranch => branch.value.Elementary ∧ branch.result.Elementary)
      (fun branch => branch.value.tokens context ++ .keyword .then :: branch.result.tokens context)
      (MatchBranch.asShown context.qualify) Token.continuesValue branch := by
  intro other rest otherRest elementary stops otherStops same
  have thenStops : ∀ tail, Stops Token.continuesValue (.keyword .then :: tail) :=
    fun tail => Token.stops_cons (by decide) tail
  simp only [List.append_assoc, List.cons_append] at same
  obtain ⟨sameValue, following⟩ := value elementary.1 (thenStops _) (thenStops _) same
  simp only [List.cons.injEq, true_and] at following
  obtain ⟨sameResult, sameRest⟩ := result elementary.2 stops otherStops following
  exact ⟨by rw [MatchBranch.asShown, MatchBranch.asShown, sameValue, sameResult], sameRest⟩

/-- The tokens of a window are those of its clauses. -/
theorem Window.tokens_eq (window : Window) :
    window.tokens context =
      listClause [.partition, .by] (window.partitions.map (Expr.tokens context)) ++
        listClause [.order, .by] (window.sortKeys.map (SortKey.tokens context)) ++
          frameTokens window.frame := by
  obtain ⟨partitions, sortKeys, frame⟩ := window
  rw [Window.tokens, Expr.tokensEach_eq_map, SortKey.tokensEach_eq_map]

/-- A window between parentheses is read off what follows it if its parts are
readable. -/
theorem Window.cancel {window other : Window}
    (partitions : ∀ expr ∈ window.partitions, expr.Elementary ∧ expr.IsReadable context)
    (sortKeys : ∀ key ∈ window.sortKeys, key.expr.Elementary ∧ key.expr.IsReadable context)
    (otherPartitions : ∀ expr ∈ other.partitions, expr.Elementary)
    (otherSortKeys : ∀ key ∈ other.sortKeys, key.expr.Elementary)
    (same : parenthesized (window.tokens context) ++ rest =
      parenthesized (other.tokens context) ++ otherRest) :
    window.asShown context.qualify = other.asShown context.qualify ∧ rest = otherRest := by
  simp only [parenthesized, Window.tokens_eq, List.cons_append, List.append_assoc,
    List.nil_append, List.cons.injEq, true_and] at same
  have beginsKey : ∀ key : SortKey, key.expr.Elementary →
      ∃ first tail, key.tokens context = first :: tail ∧ first.startsValue = true := by
    intro key _
    obtain ⟨expr, direction, nulls⟩ := key
    obtain ⟨first, tail, shape, starts⟩ := expr.begins context
    exact ⟨first, _, by rw [SortKey.tokens, shape, List.cons_append], starts⟩
  have frameStops : ∀ (frame : Option Frame) rest,
      Stops (fun token => token = .keyword .order ||
        (token.startsValue || (token.continuesSortKey || token = .comma)))
        (frameTokens frame ++ .closing :: rest) := fun frame rest =>
    stops_frameTokens (by decide) (by decide) (Token.stops_cons (by decide) rest) frame
  have orderStops : ∀ (parts : List (List Token)) (frame : Option Frame) rest,
      Stops (fun token => token = .keyword .partition ||
        (token.startsValue || (token.continuesValue || token = .comma)))
        (listClause [.order, .by] parts ++ (frameTokens frame ++ .closing :: rest)) :=
    fun parts frame rest => stops_listClause (by decide)
      (stops_frameTokens (by decide) (by decide) (Token.stops_cons (by decide) rest) frame) parts
  obtain ⟨samePartitions, following⟩ := Readable.listClause
    (fun expr member => (partitions expr member).2) (fun expr member => (partitions expr member).1)
    otherPartitions (fun expr _ => expr.begins context) (by decide) (orderStops _ _ _)
    (orderStops _ _ _) same
  obtain ⟨sameSortKeys, following⟩ := Readable.listClause
    (fun key member => SortKey.readable (sortKeys key member).2)
    (fun key member => (sortKeys key member).1) otherSortKeys beginsKey (by decide)
    (frameStops _ _) (frameStops _ _) following
  have endStops : ∀ rest, Stops Token.startsFrame (.closing :: rest) :=
    fun rest => Token.stops_cons (by decide) rest
  obtain ⟨sameFrame, following⟩ := frameTokens_cancel (endStops _) (endStops _) following
  simp only [List.cons.injEq, true_and] at following
  exact ⟨by rw [asShown, asShown, samePartitions, sameSortKeys, sameFrame], following⟩

namespace Expr

/-- What a call shows is what its arguments and its window show. -/
theorem asShown_call (shown : Bool) (name : Identifier) (arguments : List Expr)
    (window : Option Window) :
    (call ⟨name, arguments, window⟩).asShown shown =
      call ⟨name, arguments.map (asShown shown), window.map (Window.asShown shown)⟩ := by
  cases window with
  | none => simp [asShown, rewrite, Call.rewrite]
  | some window =>
    obtain ⟨partitions, sortKeys, frame⟩ := window
    simp [asShown, rewrite, Call.rewrite, Window.rewrite, Window.asShown, SortKey.asShown]

/-- A call is readable if its arguments and the parts of its window are. -/
theorem readable_call {invocation : Call}
    (arguments : ∀ argument ∈ invocation.arguments,
      argument.Elementary ∧ argument.IsReadable context)
    (partitions : ∀ window ∈ invocation.window, ∀ expr ∈ window.partitions,
      expr.Elementary ∧ expr.IsReadable context)
    (sortKeys : ∀ window ∈ invocation.window, ∀ key ∈ window.sortKeys,
      key.expr.Elementary ∧ key.expr.IsReadable context) :
    (call invocation).IsReadable context := by
  intro other rest otherRest elementary stops otherStops same
  have lead := lead_eq same
  cases elementary with
  | @call otherInvocation otherArguments otherPartitions otherSortKeys =>
    obtain ⟨name, given, window⟩ := invocation
    obtain ⟨otherName, otherGiven, otherWindow⟩ := otherInvocation
    simp only [tokens, Call.tokens, parenthesized, tokensEach_eq_map,
      Window.tokensOption_eq_map, Option.map_map, List.cons_append, List.append_assoc,
      List.nil_append, List.cons.injEq, Token.callee, Token.mk.injEq, true_and] at same
    obtain ⟨sameName, following⟩ := same
    have closingStops : ∀ tail, Stops (fun token =>
        token.startsValue || (token.continuesValue || token = .comma)) (Token.closing :: tail) :=
      fun tail => Token.stops_cons (by decide) tail
    obtain ⟨sameArguments, following⟩ := Readable.commaSeparated
      (fun argument member => (arguments argument member).2)
      (fun argument member => (arguments argument member).1) otherArguments
      (fun argument _ => argument.begins context) (by decide) (closingStops _) (closingStops _)
      following
    simp only [List.cons.injEq, true_and] at following
    have windows : ∀ body ∈ window, ∀ otherBody ∈ otherWindow,
        parenthesized (body.tokens context) ++ rest =
          parenthesized (otherBody.tokens context) ++ otherRest →
        body.asShown context.qualify = otherBody.asShown context.qualify ∧ rest = otherRest :=
      fun body isBody otherBody isOther sameTokens =>
        Window.cancel (partitions body isBody) (sortKeys body isBody)
          (otherPartitions otherBody isOther) (otherSortKeys otherBody isOther) sameTokens
    obtain ⟨sameWindow, sameRest⟩ :=
      optionTokens_cancel (by decide) stops otherStops windows following
    exact ⟨by rw [asShown_call, asShown_call, Identifier.sql_injective sameName, sameArguments,
      sameWindow], sameRest⟩
  | _ => simp [Expr.lead] at lead

/-- What a choice shows is what its parts show. -/
theorem asShown_matchCase (shown : Bool) (subject : Expr) (branches : List MatchBranch)
    (otherwise : Option Expr) :
    (matchCase ⟨subject, branches, otherwise⟩).asShown shown =
      matchCase ⟨subject.asShown shown, branches.map (MatchBranch.asShown shown),
        otherwise.map (asShown shown)⟩ := by
  simp only [asShown, rewrite, MatchBranch.rewriteEach_eq_map, rewriteOption_eq_map]
  rfl

/-- A choice is readable if its parts are. -/
theorem readable_matchCase {choice : MatchCase} (subject : choice.subject.IsReadable context)
    (values : ∀ branch ∈ choice.branches, branch.value.IsReadable context)
    (results : ∀ branch ∈ choice.branches, branch.result.IsReadable context)
    (otherwise : ∀ expr ∈ choice.otherwise, expr.IsReadable context) :
    (matchCase choice).IsReadable context := by
  intro other rest otherRest elementary stops otherStops same
  have lead := lead_eq same
  cases elementary with
  | @matchCase otherChoice otherSubject otherValues otherResults otherOtherwise =>
    obtain ⟨chosen, branches, remaining⟩ := choice
    obtain ⟨otherChosen, otherBranches, otherRemaining⟩ := otherChoice
    simp only [tokens, caseTokens, MatchBranch.tokensEach_eq_map, tokensOption_eq_map,
      branchTokens, List.cons_append, List.append_assoc, List.nil_append, List.cons.injEq,
      true_and, ← List.flatMap_def] at same
    have endStops : ∀ rest, Stops (fun token : Token => token.continuesValue ||
        token = .keyword .else) (.keyword .end :: rest) :=
      fun rest => Token.stops_cons (by decide) rest
    have elseStops : ∀ (tail : Option (List Token)) rest,
        Stops (fun token : Token => token.continuesValue || token = .keyword .when)
          (optionTokens .else tail ++ .keyword .end :: rest) := by
      intro tail rest
      cases tail <;> exact Token.stops_cons (by decide) _
    obtain ⟨sameSubject, following⟩ := subject otherSubject
      (stops_flatMap (by decide) (elseStops _ _).left branches)
      (stops_flatMap (by decide) (elseStops _ _).left otherBranches) same
    obtain ⟨sameBranches, following⟩ := Readable.tagged
      (fun branch member => MatchBranch.readable (values branch member) (results branch member))
      (fun branch member => ⟨otherValues branch member, otherResults branch member⟩)
      (by decide) (elseStops _ _) (elseStops _ _) following
    obtain ⟨sameOtherwise, following⟩ := optionTokens_cancel
      (decide_eq_true rfl) (endStops _).right (endStops _).right
      (fun expr isExpr otherExpr isOther => otherwise expr isExpr
        (otherOtherwise otherExpr isOther) (endStops _).left (endStops _).left) following
    simp only [List.cons.injEq, true_and] at following
    exact ⟨by rw [asShown_matchCase, asShown_matchCase, sameSubject, sameBranches,
      sameOtherwise], following⟩
  | _ => simp [Expr.lead] at lead

/-- Values that hold no query and no condition are readable, and so is the left
operand where they are arithmetic. -/
theorem Elementary.readable {expr : Expr} (elementary : expr.Elementary) :
    expr.IsReadable context ∧
      ∀ operator left right, expr = .arithmetic operator left right →
        left.IsReadable context := by
  induction elementary with
  | number numeral => exact ⟨readable_number numeral, nofun⟩
  | text value => exact ⟨readable_text value, nofun⟩
  | null => exact ⟨readable_null, nofun⟩
  | placeholder parameter => exact ⟨readable_placeholder parameter, nofun⟩
  | column reference => exact ⟨readable_column reference, nofun⟩
  | allColumns qualifier => exact ⟨readable_allColumns qualifier, nofun⟩
  | call arguments partitions sortKeys argumentsReadable partitionsReadable keysReadable =>
    refine ⟨readable_call ?_ ?_ ?_, nofun⟩
    · exact fun argument member =>
        ⟨arguments argument member, (argumentsReadable argument member).1⟩
    · exact fun window isWindow expr member =>
        ⟨partitions window isWindow expr member, (partitionsReadable window isWindow expr member).1⟩
    · exact fun window isWindow key member =>
        ⟨sortKeys window isWindow key member, (keysReadable window isWindow key member).1⟩
  | arithmetic operator first second firstReadable secondReadable =>
    refine ⟨readable_arithmetic operator firstReadable.1 secondReadable.1, ?_⟩
    rintro _ _ _ ⟨⟩
    exact firstReadable.1
  | negation inside insideReadable =>
    exact ⟨readable_negation inside insideReadable.1 insideReadable.2, nofun⟩
  | matchCase subject values results otherwise subjectReadable valuesReadable resultsReadable
      otherwiseReadable =>
    refine ⟨readable_matchCase subjectReadable.1 ?_ ?_ ?_, nofun⟩
    · exact fun branch member => (valuesReadable branch member).1
    · exact fun branch member => (resultsReadable branch member).1
    · exact fun expr isExpr => (otherwiseReadable expr isExpr).1

end Expr

/-- Leaving out of columns what they do not show does not show. -/
theorem Rewriting.faithful_asShown (context : Context) :
    (Rewriting.ofColumn Column.asShown).Faithful (fun _ _ => True) context.dialect
      context.dialect where
  wording := Dialect.SameWording.refl context.dialect
  select := trivial
  column := by
    intro shown after _ column
    simp [Rewriting.ofColumn, Column.asShown, Column.tokens]
  conditions := fun _ _ _ => rfl
  on := fun _ _ => rfl
  nested := fun _ _ => rfl

/-- A value has the tokens of what it shows. -/
theorem Expr.tokens_asShown (context : Context) (expr : Expr) :
    (expr.asShown context.qualify).tokens context = expr.tokens context :=
  Expr.tokens_rewrite (Rewriting.faithful_asShown context) trivial expr

/-- Values that hold no query and no condition have the same tokens exactly if they
show the same: if they have the same form, and their parts have, down to columns
of the same name that show the same qualifier or none. -/
theorem Expr.tokens_eq_iff_asShown_eq (firstElementary : first.Elementary)
    (secondElementary : second.Elementary) :
    first.tokens context = second.tokens context ↔
      first.asShown context.qualify = second.asShown context.qualify := by
  constructor
  · intro same
    have stops : Stops Token.continuesValue ([] : List Token) := nofun
    exact (firstElementary.readable.1 secondElementary stops stops (by rw [same])).1
  · intro same
    rw [← first.tokens_asShown, ← second.tokens_asShown, same]

/-- A difference of three columns, the first or the second of which hides its
qualifier, has the same tokens either way, and others if it is grouped otherwise. -/
theorem Expr.tokens_difference :
    let table : Identifier := ⟨[.plain "t"], by simp, by decide⟩
    let name : Identifier := ⟨[.plain "c"], by simp, by decide⟩
    let masked : Expr := .column ⟨some table, name, some false⟩
    let bare : Expr := .column ⟨none, name, none⟩
    let first : Expr := .arithmetic .subtract masked (.negation (.arithmetic .subtract bare bare))
    let second : Expr := .arithmetic .subtract bare (.negation (.arithmetic .subtract masked bare))
    let third : Expr := .arithmetic .subtract (.arithmetic .subtract bare (.negation masked)) bare
    let context : Context := ⟨.standard, true⟩
    first.Elementary ∧ second.Elementary ∧ third.Elementary ∧ first ≠ second ∧
      first.tokens context = second.tokens context ∧
      first.tokens context ≠ third.tokens context := by
  intro table name masked bare first second third context
  have isMasked : masked.Elementary := .column _
  have isBare : bare.Elementary := .column _
  have isFirst : first.Elementary :=
    .arithmetic .subtract isMasked (.negation (.arithmetic .subtract isBare isBare))
  have isSecond : second.Elementary :=
    .arithmetic .subtract isBare (.negation (.arithmetic .subtract isMasked isBare))
  have isThird : third.Elementary :=
    .arithmetic .subtract (.arithmetic .subtract isBare (.negation isMasked)) isBare
  refine ⟨isFirst, isSecond, isThird, by decide, ?_, ?_⟩
  · exact (Expr.tokens_eq_iff_asShown_eq isFirst isSecond).2 (by decide)
  · intro same
    exact absurd ((Expr.tokens_eq_iff_asShown_eq isFirst isThird).1 same) (by decide)

end SqlTree
