import Mathlib.Logic.Function.Basic
import SqlTree.Call
import SqlTree.Case
import SqlTree.Change
import SqlTree.Condition
import SqlTree.Select
import SqlTree.Window

/-!
# Lists of parts lose the oldest first

The parts of a statement are collected in lists that grow at their end and from which parts are
taken back by value (`Collected` names all of them). A list is a queue for each value: what is
taken back is always the oldest part of the value, and all other parts stay as they stand.

So the calls on a list need not be followed one by one (`Collected.oldest_removed`). What they
leave are the parts that were added, without the oldest ones of each value, as many as removals
of the value have found one (`withoutOldest`). The step lemma is that taking out the first
part of a value takes out the oldest one that is left (`eraseP_withoutOldest`).
-/

namespace SqlTree

section WithoutOldest

variable {Element Value : Type} [DecidableEq Value] {valueOf : Element → Value}
  {gone : Value → Nat} {elements : List Element}

/-- The elements without the oldest ones of each value, as many of them as is given for it. -/
def withoutOldest (valueOf : Element → Value) : (Value → Nat) → List Element → List Element
  | _, [] => []
  | gone, element :: rest =>
    if gone (valueOf element) = 0 then element :: withoutOldest valueOf gone rest
    else
      withoutOldest valueOf
        (Function.update gone (valueOf element) (gone (valueOf element) - 1)) rest

/-- How many elements have a value. -/
def countOf (valueOf : Element → Value) (elements : List Element) (value : Value) : Nat :=
  elements.countP fun element => valueOf element == value

/-- Nothing goes if nothing is to go. -/
theorem withoutOldest_zero (valueOf : Element → Value) (elements : List Element) :
    withoutOldest valueOf (fun _ => 0) elements = elements := by
  induction elements with
  | nil => rfl
  | cons element rest inductionHypothesis =>
    rw [withoutOldest, if_pos rfl, inductionHypothesis]

/-- An element is left at the end if all that go of its value are older. -/
theorem withoutOldest_concat (element : Element)
    (older : gone (valueOf element) ≤ countOf valueOf elements (valueOf element)) :
    withoutOldest valueOf gone (elements ++ [element]) =
      withoutOldest valueOf gone elements ++ [element] := by
  induction elements generalizing gone with
  | nil =>
    have none : gone (valueOf element) = 0 := Nat.le_zero.1 older
    simp [withoutOldest, none]
  | cons first rest inductionHypothesis =>
    rw [countOf, List.countP_cons] at older
    rw [List.cons_append, withoutOldest, withoutOldest]
    by_cases stays : gone (valueOf first) = 0
    · rw [if_pos stays, if_pos stays, List.cons_append, inductionHypothesis]
      by_cases same : valueOf first = valueOf element
      · rw [← same, stays]
        exact Nat.zero_le _
      · simpa [countOf, same] using older
    · rw [if_neg stays, if_neg stays]
      refine inductionHypothesis ?_
      by_cases same : valueOf first = valueOf element
      · rw [same, Function.update_self, countOf]
        simp only [same, beq_self_eq_true, if_true] at older
        omega
      · rw [Function.update_of_ne (Ne.symm same)]
        simpa [countOf, same] using older

/-- Taking out the first element of a value takes out the oldest one that is left. -/
theorem eraseP_withoutOldest (value : Value) :
    (withoutOldest valueOf gone elements).eraseP (fun element => valueOf element == value) =
      withoutOldest valueOf (Function.update gone value (gone value + 1)) elements := by
  induction elements generalizing gone with
  | nil => rfl
  | cons first rest inductionHypothesis =>
    rw [withoutOldest, withoutOldest]
    by_cases same : valueOf first = value
    · subst same
      rw [Function.update_self, if_neg (Nat.succ_ne_zero _), Function.update_idem,
        Nat.add_sub_cancel]
      by_cases stays : gone (valueOf first) = 0
      · rw [if_pos stays, List.eraseP_cons_of_pos (by simp), Function.update_eq_self]
      · rw [if_neg stays, inductionHypothesis, Function.update_self, Function.update_idem,
          Nat.sub_add_cancel (Nat.pos_of_ne_zero stays)]
    · rw [Function.update_of_ne same]
      by_cases stays : gone (valueOf first) = 0
      · rw [if_pos stays, if_pos stays, List.eraseP_cons_of_neg (by simpa using same),
          inductionHypothesis]
      · rw [if_neg stays, if_neg stays, inductionHypothesis,
          Function.update_of_ne (Ne.symm same), Function.update_comm same]

/-- The elements of a value are a queue: those that are left are the later ones. -/
theorem filter_withoutOldest (value : Value) :
    (withoutOldest valueOf gone elements).filter (fun element => valueOf element == value) =
      (elements.filter fun element => valueOf element == value).drop (gone value) := by
  induction elements generalizing gone with
  | nil => simp [withoutOldest]
  | cons first rest inductionHypothesis =>
    rw [withoutOldest]
    by_cases same : valueOf first = value
    · subst same
      by_cases stays : gone (valueOf first) = 0
      · rw [if_pos stays, List.filter_cons_of_pos (by simp), inductionHypothesis,
          List.filter_cons_of_pos (by simp), stays]
        rfl
      · rw [if_neg stays, inductionHypothesis, Function.update_self,
          List.filter_cons_of_pos (by simp)]
        obtain ⟨more, isMore⟩ := Nat.exists_eq_succ_of_ne_zero stays
        rw [isMore]
        rfl
    · rw [List.filter_cons_of_neg (by simpa using same)]
      by_cases stays : gone (valueOf first) = 0
      · rw [if_pos stays, List.filter_cons_of_neg (by simpa using same), inductionHypothesis]
      · rw [if_neg stays, inductionHypothesis, Function.update_of_ne (Ne.symm same)]

example : withoutOldest id (fun value => if value = 1 then 2 else 0) [1, 2, 1, 3, 1] =
    [2, 3, 1] := by decide

/-- One more of a value is to go. -/
theorem update_eq_add_count (gone : Value → Nat) (value : Value) :
    Function.update gone value (gone value + 1) =
      fun other => gone other + [value].count other := by
  funext other
  by_cases same : other = value
  · simp [same]
  · simp [same, Ne.symm same]

end WithoutOldest

/-- A list of parts inside an owner, and the calls that add parts to it and take them back. Parts
are taken back by their value; the value of most parts is the part itself. -/
structure Collection where
  Owner : Type
  Element : Type
  Value : Type
  /-- What a call is given to add an element. -/
  Addition : Type
  decEqValue : DecidableEq Value
  elements : Owner → List Element
  valueOf : Element → Value
  /-- The element that is added, unless the call is refused. -/
  added? : Addition → Option Element
  add : Owner → Addition → Owner
  /-- Whether an element was found, and what is left. -/
  remove : Owner → Value → Bool × Owner
  elements_add : ∀ owner addition,
    elements (add owner addition) =
      (added? addition).elim (elements owner) (addLast (elements owner))
  elements_remove : ∀ owner value, Prod.map id elements (remove owner value) =
    removeFirst (fun element => valueOf element == value) (elements owner)

namespace Collection

instance (collection : Collection) : DecidableEq collection.Value :=
  collection.decEqValue

/-- A list whose parts are taken back by themselves. -/
def ofValues {Owner Element : Type} [decEqElement : DecidableEq Element]
    (elements : Owner → List Element) (add : Owner → Element → Owner)
    (remove : Owner → Element → Bool × Owner)
    (elements_add : ∀ owner element,
      elements (add owner element) = addLast (elements owner) element)
    (elements_remove : ∀ owner element,
      Prod.map id elements (remove owner element) = removeValue (elements owner) element) :
    Collection where
  Owner := Owner
  Element := Element
  Value := Element
  Addition := Element
  decEqValue := decEqElement
  elements := elements
  valueOf := id
  added? := some
  add := add
  remove := remove
  elements_add := elements_add
  elements_remove := elements_remove

end Collection

/-- What is collected in a list. -/
inductive Collected where
  /-- The arguments of a call. -/
  | argument
  /-- The branches of a choice by the value of a subject. -/
  | matchBranch
  /-- The branches of a choice by condition. -/
  | conditionalBranch
  /-- The values of a list to compare with or to insert. -/
  | value
  /-- The conditions of a group. -/
  | groupedCondition
  /-- The partitions of a window. -/
  | partition
  /-- The sort keys of a window. -/
  | windowSortKey
  /-- The columns of an `INSERT`. -/
  | column
  /-- The setters of an `UPDATE`. -/
  | setter
  /-- The conditions of an `UPDATE`. -/
  | updateCondition
  /-- The conditions of a `DELETE`. -/
  | deleteCondition
  /-- The conditions on rows of a `SELECT`. -/
  | condition
  /-- The values that a `SELECT` groups by. -/
  | groupKey
  /-- The conditions on groups of a `SELECT`. -/
  | groupCondition
  /-- The sort keys of a `SELECT`. -/
  | sortKey
  /-- The entries of the list of a `SELECT`. -/
  | projection

/-- The entry that adding an expression under an optional alias adds, unless the alias is no
identifier. -/
def Projection.ofSpelling? (expr : Expr) (aliasName : Option Spelling) : Option Projection :=
  match (Spelling.buildOption aliasName).outcome.1 with
  | .ok aliasName => some ⟨expr, aliasName⟩
  | .error _ => none

/-- The `SELECT` after a call that may have failed. -/
def Select.withProjection (select : Select) (expr : Expr) (aliasName : Option Spelling) : Select :=
  (((addProjection expr aliasName).apply select).run []).1.2

/-- The list of a `SELECT` after an addition to it. -/
theorem Select.projections_withProjection (select : Select) (expr : Expr)
    (aliasName : Option Spelling) :
    (select.withProjection expr aliasName).projections =
      (Projection.ofSpelling? expr aliasName).elim select.projections
        (addLast select.projections) := by
  rw [withProjection, addProjection, Edit.run_bind, Edit.run_build, Projection.ofSpelling?,
    Build.outcome]
  rcases (Spelling.buildOption aliasName).run [] with ⟨_ | _, _⟩ <;> rfl

/-- The list of what is collected. The entries of the list of a `SELECT` are taken back by their
expression, whatever their alias. -/
def Collected.collection : Collected → Collection
  | argument =>
    .ofValues Call.arguments Call.addArgument Call.removeArgument (fun _ _ => rfl) fun _ _ => rfl
  | matchBranch =>
    .ofValues MatchCase.branches
      (fun choice branch => choice.addBranch branch.value branch.result)
      (fun choice branch => choice.removeBranch branch.value branch.result)
      (fun _ ⟨_, _⟩ => rfl) fun _ ⟨_, _⟩ => rfl
  | conditionalBranch =>
    .ofValues ConditionalCase.branches
      (fun choice branch => choice.addBranch branch.condition branch.result)
      (fun choice branch => choice.removeBranch branch.condition branch.result)
      (fun _ ⟨_, _⟩ => rfl) fun _ ⟨_, _⟩ => rfl
  | value => .ofValues id addLast (removeValue (α := Expr)) (fun _ _ => rfl) fun _ _ => rfl
  | groupedCondition =>
    .ofValues ConditionGroup.conditions ConditionGroup.addCondition ConditionGroup.removeCondition
      (fun _ _ => rfl) fun _ _ => rfl
  | partition =>
    .ofValues Window.partitions Window.addPartition Window.removePartition
      (fun _ _ => rfl) fun _ _ => rfl
  | windowSortKey =>
    .ofValues Window.sortKeys Window.addSortKey Window.removeSortKey
      (fun _ _ => rfl) fun _ _ => rfl
  | column =>
    .ofValues Insert.columns Insert.addColumn Insert.removeColumn (fun _ _ => rfl) fun _ _ => rfl
  | setter =>
    .ofValues Update.setters (fun update setter => update.addSetter setter.column setter.value)
      (fun update setter => update.removeSetter setter.column setter.value)
      (fun _ _ => rfl) fun _ _ => rfl
  | updateCondition =>
    .ofValues Update.conditions Update.addWhere Update.removeWhere
      (fun _ _ => rfl) fun _ _ => rfl
  | deleteCondition =>
    .ofValues Delete.conditions Delete.addWhere Delete.removeWhere
      (fun _ _ => rfl) fun _ _ => rfl
  | condition =>
    .ofValues Select.conditions Select.addWhere Select.removeWhere
      (fun _ _ => rfl) fun _ _ => rfl
  | groupKey =>
    .ofValues Select.groupKeys Select.addGroupKey Select.removeGroupKey
      (fun _ _ => rfl) fun _ _ => rfl
  | groupCondition =>
    .ofValues Select.groupConditions Select.addHaving Select.removeHaving
      (fun _ _ => rfl) fun _ _ => rfl
  | sortKey =>
    .ofValues Select.sortKeys Select.addSortKey Select.removeSortKey
      (fun _ _ => rfl) fun _ _ => rfl
  | projection => {
      Owner := Select
      Element := Projection
      Value := Expr
      Addition := Expr × Option Spelling
      decEqValue := inferInstance
      elements := Select.projections
      valueOf := Projection.expr
      added? := fun (expr, aliasName) => Projection.ofSpelling? expr aliasName
      add := fun select (expr, aliasName) => select.withProjection expr aliasName
      remove := Select.removeProjection
      elements_add := fun select (expr, aliasName) =>
        select.projections_withProjection expr aliasName
      elements_remove := fun _ _ => rfl }

namespace Collection

/-- A call on a list. -/
inductive Action (collection : Collection) where
  | add (addition : collection.Addition)
  | remove (value : collection.Value)

variable {collection : Collection} {owner : collection.Owner}
  {added : List collection.Element} {gone : collection.Value → Nat}

/-- The owner after a call. -/
def Action.step (action : collection.Action) (owner : collection.Owner) : collection.Owner :=
  match action with
  | add addition => collection.add owner addition
  | remove value => (collection.remove owner value).2

/-- The element that a call adds, if it is an addition that is not refused. -/
def Action.added? : collection.Action → Option collection.Element
  | add addition => collection.added? addition
  | remove _ => none

/-- The value that a call takes back, if it is a removal that finds an element. -/
def Action.taken? (action : collection.Action) (owner : collection.Owner) :
    Option collection.Value :=
  match action with
  | add _ => none
  | remove value => if (collection.remove owner value).1 then some value else none

/-- The owner after calls, one after the other. -/
def run (actions : List collection.Action) (owner : collection.Owner) : collection.Owner :=
  actions.foldl (fun owner action => action.step owner) owner

/-- The elements that calls add, oldest first. -/
def addedBy (actions : List collection.Action) : List collection.Element :=
  actions.filterMap Action.added?

/-- The values that calls take back, one for each removal that finds an element. -/
def takenBy : List collection.Action → collection.Owner → List collection.Value
  | [], _ => []
  | action :: rest, owner => (action.taken? owner).toList ++ takenBy rest (action.step owner)

/-- A removal answers whether the value is there. -/
theorem remove_eq_true_iff {value : collection.Value} :
    (collection.remove owner value).1 = true ↔
      ∃ element ∈ collection.elements owner, collection.valueOf element = value := by
  have answer := congrArg Prod.fst (collection.elements_remove owner value)
  simp only [Prod.map_fst, id, removeFirst] at answer
  rw [answer, List.any_eq_true]
  exact exists_congr fun element => and_congr_right fun _ => beq_iff_eq

/-- A removal takes the first element of the value out. -/
theorem elements_remove_eq (owner : collection.Owner) (value : collection.Value) :
    collection.elements (collection.remove owner value).2 =
      (collection.elements owner).eraseP fun element => collection.valueOf element == value :=
  congrArg Prod.snd (collection.elements_remove owner value)

/-- A removal that finds nothing leaves the list as it is. -/
theorem elements_remove_of_missing {value : collection.Value}
    (missing : (collection.remove owner value).1 = false) :
    collection.elements (collection.remove owner value).2 = collection.elements owner := by
  rw [elements_remove_eq]
  refine List.eraseP_of_forall_not fun element member isValue => ?_
  have present := remove_eq_true_iff.2 ⟨element, member, beq_iff_eq.1 isValue⟩
  rw [missing] at present
  cases present

/-- The elements of an owner are what is left of those that were added, and no more of a value are
gone than were added of it. -/
structure IsLeft (owner : collection.Owner) (added : List collection.Element)
    (gone : collection.Value → Nat) : Prop where
  elements_eq : collection.elements owner = withoutOldest collection.valueOf gone added
  gone_le : ∀ value, gone value ≤ countOf collection.valueOf added value

namespace IsLeft

/-- At the start all elements are left. -/
theorem start (owner : collection.Owner) :
    IsLeft owner (collection.elements owner) fun _ => 0 where
  elements_eq := (withoutOldest_zero _ _).symm
  gone_le _ := Nat.zero_le _

/-- An element that is added is left. -/
theorem add (left : IsLeft owner added gone) (addition : collection.Addition) :
    IsLeft (collection.add owner addition) (added ++ (collection.added? addition).toList) gone := by
  have elements := collection.elements_add owner addition
  cases isElement : collection.added? addition with
  | none =>
    rw [isElement] at elements
    rw [Option.toList_none, List.append_nil]
    exact ⟨elements.trans left.elements_eq, left.gone_le⟩
  | some element =>
    rw [isElement, Option.elim_some, left.elements_eq] at elements
    refine ⟨elements.trans (withoutOldest_concat element (left.gone_le _)).symm, fun value => ?_⟩
    rw [Option.toList_some, countOf, List.countP_append]
    exact Nat.le_add_right_of_le (left.gone_le value)

/-- An element that is found is gone. -/
theorem remove (left : IsLeft owner added gone) {value : collection.Value}
    (found : (collection.remove owner value).1 = true) :
    IsLeft (collection.remove owner value).2 added
      (Function.update gone value (gone value + 1)) where
  elements_eq := by rw [elements_remove_eq, left.elements_eq, eraseP_withoutOldest]
  gone_le other := by
    by_cases same : other = value
    · subst same
      obtain ⟨element, member, isValue⟩ := remove_eq_true_iff.1 found
      -- An element of the value is left, so fewer of the value are gone than were added.
      have isLeft : element ∈ (added.filter fun element =>
          collection.valueOf element == other).drop (gone other) := by
        rw [← filter_withoutOldest, ← left.elements_eq, List.mem_filter]
        exact ⟨member, beq_iff_eq.2 isValue⟩
      have some := List.length_pos_of_mem isLeft
      rw [Function.update_self, countOf, List.countP_eq_length_filter]
      rw [List.length_drop] at some
      omega
    · rw [Function.update_of_ne same]
      exact left.gone_le other

/-- A call adds the element that it adds, and what it takes back is gone. -/
theorem step (left : IsLeft owner added gone) (action : collection.Action) :
    IsLeft (action.step owner) (added ++ action.added?.toList)
      fun value => gone value + (action.taken? owner).toList.count value := by
  cases action with
  | add addition => exact left.add addition
  | remove value =>
    cases found : (collection.remove owner value).1 with
    | true =>
      have gone := left.remove found
      rw [update_eq_add_count] at gone
      simpa [Action.step, Action.added?, Action.taken?, found] using gone
    | false =>
      have unchanged := elements_remove_of_missing found
      refine ⟨?_, ?_⟩
      · simpa [Action.step, Action.added?, Action.taken?, found, unchanged] using left.elements_eq
      · simpa [Action.added?, Action.taken?, found] using left.gone_le

/-- After calls, what is left are the elements that were there and those that were added, without
those that were taken back. -/
theorem run (left : IsLeft owner added gone) (actions : List collection.Action) :
    IsLeft (run actions owner) (added ++ addedBy actions)
      fun value => gone value + (takenBy actions owner).count value := by
  induction actions generalizing owner added gone with
  | nil => simpa [Collection.run, addedBy, takenBy] using left
  | cons action rest inductionHypothesis =>
    have further := inductionHypothesis (left.step action)
    have added : added ++ action.added?.toList ++ addedBy rest =
        added ++ addedBy (action :: rest) := by
      cases isElement : action.added? <;> simp [addedBy, isElement]
    rw [added] at further
    simpa [Collection.run, takenBy, Nat.add_assoc] using further

end IsLeft

end Collection

/-- The lists of parts lose the oldest part of a value first.

After any calls, a removal answers whether a part of the value is there. The list holds, in the
order in which they were added, the parts that it held at the start and those that calls have
added, but for the oldest ones of each value, as many as removals of the value have found one. So
the parts of one value are a queue, whatever happens to the parts of other values. The value of
an entry of the list of a `SELECT` is its expression: of entries for one expression under several
aliases, the one that was added first goes first. -/
theorem Collected.oldest_removed (collected : Collected) :
    let collection := collected.collection
    ∀ (owner : collection.Owner) (actions : List collection.Action),
      let result := Collection.run actions owner
      let added := collection.elements owner ++ Collection.addedBy actions
      let gone := fun value => (Collection.takenBy actions owner).count value
      (∀ value, (collection.remove result value).1 = true ↔
        ∃ element ∈ collection.elements result, collection.valueOf element = value) ∧
        collection.elements result = withoutOldest collection.valueOf gone added ∧
        ∀ value,
          (collection.elements result).filter (fun part => collection.valueOf part == value) =
            (added.filter fun part => collection.valueOf part == value).drop (gone value) := by
  intro collection owner actions result added gone
  have left := (Collection.IsLeft.start owner).run actions
  simp only [Nat.zero_add] at left
  refine ⟨fun value => Collection.remove_eq_true_iff, left.elements_eq, fun value => ?_⟩
  rw [left.elements_eq, filter_withoutOldest]

end SqlTree
