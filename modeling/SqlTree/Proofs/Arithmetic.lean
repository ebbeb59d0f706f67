import SqlTree.Proofs.Phrase.Rendering
import SqlTree.Proofs.Spelling

/-!
# Reading arithmetic back

The text of an expression of numbers, operators and minus signs is read by an ordinary reader of
arithmetic as an expression of the same value (`Expr.arithmetic_read_back`), whatever strengths
and associativities the reader gives to the operators, and whatever the operators mean.

The reader goes through the lexemes of the text from left to right. It knows no negative numbers:
a minus sign is a lexeme of its own, and it is a sign or an operator by what stands before it. An
operand that a sign has been put to is complete, and only then the operators around it are
grouped, so a sign binds tighter than every operator.

What makes the conventions on operators irrelevant is that an operator is always the only one
between its parentheses. The invariant of the reader is that the lexemes of an expression put the
expression's tree into its hand, under the signs that were waiting, and leave what is pending
alone (`Expr.IsArithmetic.reads`).
-/

namespace SqlTree

universe u

/-- The tree of an arithmetic text. There are no negative numbers in it. -/
inductive Arithmetic where
  | number (text : String)
  | negation (operand : Arithmetic)
  | operation (operator : ArithmeticOperator) (left right : Arithmetic)
deriving DecidableEq

namespace Arithmetic

/-- A meaning of numbers without a sign, of the minus sign, and of operators. -/
structure Meaning (Value : Type u) where
  number : String → Value
  negate : Value → Value
  apply : ArithmeticOperator → Value → Value → Value

/-- The value of a tree. -/
def value {Value : Type u} (meaning : Meaning Value) : Arithmetic → Value
  | number text => meaning.number text
  | negation operand => meaning.negate (operand.value meaning)
  | operation operator left right =>
    meaning.apply operator (left.value meaning) (right.value meaning)

/-- What to do with an operand between two operators: it goes to the left one, it goes to the
right one, or the two operators may not stand side by side. -/
inductive Associativity where
  | left
  | right
  | neither
deriving DecidableEq

/-- How tightly operators bind, and how operators that bind equally tightly are grouped. -/
structure Conventions where
  strength : ArithmeticOperator → Nat
  associativity : ArithmeticOperator → Associativity

/-- How an operand between two operators is grouped. -/
def Conventions.grouping (conventions : Conventions) (first second : ArithmeticOperator) :
    Associativity :=
  if conventions.strength second < conventions.strength first then .left
  else if conventions.strength first < conventions.strength second then .right
  else conventions.associativity first

/-- What a reader has read and cannot complete yet. -/
inductive Pending where
  /-- An opening parenthesis, with the signs that stand before it. -/
  | opening (signs : Nat)
  /-- An operator that waits for its right operand. -/
  | operation (left : Arithmetic) (operator : ArithmeticOperator)
deriving DecidableEq

/-- The state of a reader. What is pending is listed from the innermost outwards. -/
inductive Reader where
  /-- An operand has to come, and signs wait for it. -/
  | expecting (pending : List Pending) (signs : Nat)
  /-- An operand has been read. -/
  | holding (pending : List Pending) (operand : Arithmetic)
deriving DecidableEq

/-- An operand under signs. -/
def signed : Nat → Arithmetic → Arithmetic
  | 0, operand => operand
  | signs + 1, operand => signed signs (.negation operand)

/-- The operator with the given spelling. -/
def operator? (text : String) : Option ArithmeticOperator :=
  [.add, .subtract, .multiply, .divide, .modulus].find? fun operator => operator.text = text

/-- An operator is found by its spelling. -/
theorem operator?_text (operator : ArithmeticOperator) :
    operator? operator.text = some operator := by
  cases operator <;> decide

/-- An operator is not spelled as a closing parenthesis. -/
theorem text_ne_closing (operator : ArithmeticOperator) : operator.text ≠ ")" := by
  cases operator <;> decide

namespace Reader

/-- Completes the operations of a parenthesis that is closed, and puts the signs before it to
the result. -/
def close : List Pending → Arithmetic → Option Reader
  | .opening signs :: pending, operand => some (.holding pending (signed signs operand))
  | .operation left operator :: pending, right =>
    close pending (.operation operator left right)
  | [], _ => none

/-- Takes an operator after an operand. Operations that the operand goes to are completed
first. -/
def group (conventions : Conventions) (next : ArithmeticOperator) :
    List Pending → Arithmetic → Option Reader
  | .operation left operator :: pending, right =>
    match conventions.grouping operator next with
    | .left => group conventions next pending (.operation operator left right)
    | .right => some (.expecting (.operation right next :: .operation left operator :: pending) 0)
    | .neither => none
  | pending, operand => some (.expecting (.operation operand next :: pending) 0)

/-- Reads a lexeme, if it can stand where it does. -/
def step (conventions : Conventions) : Reader → Lexeme → Option Reader
  | .expecting pending signs, .number text =>
    some (.holding pending (signed signs (.number text)))
  | .expecting pending signs, .symbol text =>
    if text = "-" then some (.expecting pending (signs + 1))
    else if text = "(" then some (.expecting (.opening signs :: pending) 0)
    else none
  | .holding pending operand, .symbol text =>
    if text = ")" then close pending operand
    else (operator? text).bind fun operator => group conventions operator pending operand
  | _, _ => none

/-- Reads lexemes one after the other. -/
def run (conventions : Conventions) (reader : Reader) (found : List Lexeme) : Option Reader :=
  found.foldlM (step conventions) reader

/-- Completes the operations at the end of a text. No parenthesis may be open. -/
def finish : List Pending → Arithmetic → Option Arithmetic
  | [], operand => some operand
  | .operation left operator :: pending, right => finish pending (.operation operator left right)
  | .opening _ :: _, _ => none

/-- What a reader has read when the text ends. -/
def result : Reader → Option Arithmetic
  | .holding pending operand => finish pending operand
  | .expecting _ _ => none

end Reader

/-- Reads the characters of an arithmetic text. All of them have to be read: a text with a
comment in it is refused. -/
def read? (conventions : Conventions) (text : List Char) : Option Arithmetic :=
  (Reader.run conventions (.expecting [] 0) (lexemes text)).bind Reader.result

/-- The usual conventions. -/
def Conventions.usual : Conventions where
  strength
    | .add | .subtract => 1
    | .multiply | .divide | .modulus => 2
  associativity _ := .left

example : read? .usual "1 - 2 * -3 - 4".toList =
    some (.operation .subtract
      (.operation .subtract (.number "1")
        (.operation .multiply (.number "2") (.negation (.number "3"))))
      (.number "4")) := by decide +kernel

example : read? .usual "1 --3".toList = none := by decide +kernel

end Arithmetic

open Arithmetic

/-- An expression of numbers, operators and minus signs. -/
inductive Expr.IsArithmetic : Expr → Prop where
  | number (numeral : Numeral) : IsArithmetic (.number numeral)
  | operation (operator : ArithmeticOperator) {left right : Expr} (first : left.IsArithmetic)
      (second : right.IsArithmetic) : IsArithmetic (.arithmetic operator left right)
  | negation {operand : Expr} (inside : operand.IsArithmetic) : IsArithmetic (.negation operand)

/-- The value of a numeral. That of a negative one is the value of the number without its sign,
under a minus sign. -/
def Numeral.value {Value : Type u} (meaning : Meaning Value) (numeral : Numeral) : Value :=
  let unsigned := meaning.number (Numeral.text ⟨false, numeral.whole, numeral.fraction⟩)
  if numeral.negative then meaning.negate unsigned else unsigned

/-- The value of an expression of numbers, operators and minus signs. -/
def Expr.value? {Value : Type u} (meaning : Meaning Value) : Expr → Option Value
  | .number numeral => some (numeral.value meaning)
  | .arithmetic operator left right =>
    (left.value? meaning).bind fun left =>
      (right.value? meaning).map fun right => meaning.apply operator left right
  | .negation operand => (operand.value? meaning).map meaning.negate
  | _ => none

/-- The lexemes of tokens, token by token. -/
def Token.lexemesOf (tokens : List Token) : List Lexeme :=
  tokens.flatMap fun token => lexemes token.text.toList

section Reading

variable {conventions : Conventions} {tokens : List Token} {token : Token} {found : List Lexeme}

@[simp] theorem Token.lexemesOf_nil : Token.lexemesOf [] = [] :=
  rfl

@[simp] theorem Token.lexemesOf_append (first second : List Token) :
    Token.lexemesOf (first ++ second) = Token.lexemesOf first ++ Token.lexemesOf second :=
  List.flatMap_append

/-- The first token is read as what it stands for. -/
theorem Spells.lexemesOf_cons (spelled : Spells token found) (rest : List Token) :
    Token.lexemesOf (token :: rest) = found ++ Token.lexemesOf rest := by
  rw [Token.lexemesOf, List.flatMap_cons, spelled.lexemes_text]
  rfl

/-- Parentheses are read as symbols. -/
theorem lexemesOf_parenthesized (tokens : List Token) :
    Token.lexemesOf (parenthesized tokens) =
      .symbol "(" :: (Token.lexemesOf tokens ++ [.symbol ")"]) := by
  rw [parenthesized, List.cons_append, Spells.opening.lexemesOf_cons, Token.lexemesOf_append,
    Spells.closing.lexemesOf_cons]
  rfl

namespace Arithmetic

/-- Lexemes are read as an operand: whatever is pending and whatever signs wait, they put the
tree into the reader's hand, under the signs. -/
def ReadsAs (conventions : Conventions) (found : List Lexeme) (tree : Arithmetic) : Prop :=
  ∀ pending signs, Reader.run conventions (.expecting pending signs) found =
    some (.holding pending (signed signs tree))

/-- Lexemes are read one part after the other. -/
theorem Reader.run_append (reader : Reader) (first second : List Lexeme) :
    run conventions reader (first ++ second) =
      (run conventions reader first).bind fun reader => run conventions reader second :=
  List.foldlM_append

/-- A lexeme is read, and then those after it. -/
theorem Reader.run_cons (reader : Reader) (lexeme : Lexeme) (rest : List Lexeme) :
    run conventions reader (lexeme :: rest) =
      (step conventions reader lexeme).bind fun reader => run conventions reader rest :=
  List.foldlM_cons

namespace ReadsAs

variable {inner first second : List Lexeme} {tree left right : Arithmetic}

/-- A number is read as itself. -/
theorem number (text : String) : ReadsAs conventions [.number text] (.number text) :=
  fun _ _ => rfl

/-- A minus sign is put to the operand after it. -/
theorem negation (operand : ReadsAs conventions inner tree) :
    ReadsAs conventions (.symbol "-" :: inner) (.negation tree) := by
  intro pending signs
  exact operand pending (signs + 1)

/-- Parentheses do not change what is read. -/
theorem parenthesized (inside : ReadsAs conventions inner tree) :
    ReadsAs conventions (.symbol "(" :: (inner ++ [.symbol ")"])) tree := by
  intro pending signs
  have opened := inside (.opening signs :: pending) 0
  rw [Reader.run_cons]
  change Reader.run conventions (.expecting (.opening signs :: pending) 0) (inner ++ _) = _
  rw [Reader.run_append, opened]
  rfl

/-- An operator between parentheses is read with its two operands, for there is no other operator
that one of them could go to. -/
theorem operation (operator : ArithmeticOperator) (isLeft : ReadsAs conventions first left)
    (isRight : ReadsAs conventions second right) :
    ReadsAs conventions
      (.symbol "(" :: ((first ++ .symbol operator.text :: second) ++ [.symbol ")"]))
      (.operation operator left right) := by
  intro pending signs
  -- The left operand is at hand right behind the parenthesis, so no operator waits for it.
  have taken : Reader.step conventions (.holding (.opening signs :: pending) left)
      (.symbol operator.text) =
        some (.expecting (.operation left operator :: .opening signs :: pending) 0) := by
    simp [Reader.step, text_ne_closing, operator?_text, Reader.group]
  rw [Reader.run_cons]
  change Reader.run conventions (.expecting (.opening signs :: pending) 0) _ = _
  rw [List.append_assoc, Reader.run_append, isLeft]
  change Reader.run conventions (.holding (.opening signs :: pending) left) _ = _
  rw [List.cons_append, Reader.run_cons, taken]
  change Reader.run conventions (.expecting (.operation left operator :: _) 0) _ = _
  rw [Reader.run_append, isRight]
  rfl

end ReadsAs

end Arithmetic

/-- A numeral is read as a number of the same value. -/
theorem Numeral.reads (conventions : Conventions) (numeral : Numeral) :
    ∃ tree, ReadsAs conventions numeral.lexemes tree ∧
      ∀ (Value : Type u) (meaning : Meaning Value), tree.value meaning = numeral.value meaning := by
  obtain ⟨negative, whole, fraction⟩ := numeral
  have unsigned : ReadsAs conventions [.number (Numeral.text ⟨false, whole, fraction⟩)] _ :=
    .number _
  cases negative with
  | false => exact ⟨_, unsigned, fun _ _ => rfl⟩
  | true => exact ⟨_, unsigned.negation, fun _ _ => rfl⟩

/-- The tokens of an expression of numbers, operators and minus signs are read as an expression
of the same value. -/
theorem Expr.IsArithmetic.reads (conventions : Conventions) (context : Context) {expr : Expr}
    (arithmetic : expr.IsArithmetic) :
    ∃ tree, ReadsAs conventions (Token.lexemesOf (expr.tokens context)) tree ∧
      ∀ (Value : Type u) (meaning : Meaning Value),
        expr.value? meaning = some (tree.value meaning) := by
  induction arithmetic with
  | number numeral =>
    obtain ⟨tree, reads, same⟩ := numeral.reads conventions
    refine ⟨tree, ?_, fun Value meaning => by rw [value?, same]⟩
    simpa [Expr.tokens, (Spells.number numeral).lexemesOf_cons] using reads
  | @operation operator left right _ _ first second =>
    obtain ⟨leftTree, leftReads, leftSame⟩ := first
    obtain ⟨rightTree, rightReads, rightSame⟩ := second
    refine ⟨.operation operator leftTree rightTree, ?_, fun Value meaning => ?_⟩
    · have isOperator : IsOperator operator.text := .inl ⟨operator, rfl⟩
      rw [Expr.tokens, lexemesOf_parenthesized, Token.lexemesOf_append,
        (Spells.operator isOperator).lexemesOf_cons]
      exact .operation operator leftReads rightReads
    · rw [value?, leftSame, rightSame]
      rfl
  | @negation operand _ inside =>
    obtain ⟨tree, reads, same⟩ := inside
    refine ⟨.negation tree, ?_, fun Value meaning => ?_⟩
    · rw [Expr.tokens, negatedTokens, Spells.minus.lexemesOf_cons]
      refine ReadsAs.negation ?_
      -- Parentheses that keep two signs apart are read like none.
      rw [parenthesizedIf]
      split
      · rw [lexemesOf_parenthesized]
        exact reads.parenthesized
      · exact reads
    · rw [value?, same]
      rfl

/-- The text of an expression of numbers, operators and minus signs keeps its value. A reader of
its characters accepts the whole text, whatever strengths and associativities it gives to the
operators, and the tree that it reads has the value of the expression, whatever the numbers,
the minus sign and the operators mean. -/
theorem Expr.arithmetic_read_back (conventions : Conventions) (context : Context) {expr : Expr}
    (arithmetic : expr.IsArithmetic) :
    ∃ tree, read? conventions (Token.textOf (expr.tokens context)).toList = some tree ∧
      ∀ (Value : Type u) (meaning : Meaning Value),
        expr.value? meaning = some (tree.value meaning) := by
  obtain ⟨tree, reads, same⟩ := arithmetic.reads conventions context
  have found : lexemes (Token.textOf (expr.tokens context)).toList =
      Token.lexemesOf (expr.tokens context) :=
    (expr.phrase context).lexemes_textOf
  refine ⟨tree, ?_, same⟩
  rw [read?, found, reads]
  rfl

/-- An operator, a sign and a negative number stand side by side, and each minus is read as what it
was. -/
theorem Expr.arithmetic_read_back_signs :
    let expr : Expr :=
      .arithmetic .subtract (.number (.ofInt 1)) (.negation (.number (.ofInt (-5))))
    let text := "(1 - -(-5))"
    expr.IsArithmetic ∧ Token.textOf (expr.tokens ⟨.standard, true⟩) = text ∧
      ∃ tree, read? .usual text.toList = some tree ∧
        ∀ (Value : Type) (meaning : Meaning Value),
          expr.value? meaning = some (tree.value meaning) := by
  intro expr text
  have arithmetic : expr.IsArithmetic := .operation _ (.number _) (.negation (.number _))
  have written : Token.textOf (expr.tokens ⟨.standard, true⟩) = text := by decide +kernel
  exact ⟨arithmetic, written, written ▸ arithmetic_read_back .usual _ arithmetic⟩

end Reading

end SqlTree
