import SqlTree.Proofs.Naming
import SqlTree.Proofs.Scope

/-!
# The history of a scope

A scope is a map from keys to sources that keeps the order of insertion. What it holds after
any calls is said here by their answers alone: a key is live with a source if the last insertion
that succeeded for the key was one of that source, and no removal of the key has succeeded since
(`Scope.IsLive`).

The sources of a scope are the live ones, in the order of the insertions that made them so
(`Scope.sources_run`), and every answer that a scope can give next is read off the history
(`Scope.history_decides`).
-/

namespace SqlTree.Scope

/-- A call on a scope. -/
inductive Action where
  | insert (source : Source)
  | remove (key : String)
deriving DecidableEq

/-- What a call does, and the source that it takes out, if it takes one out. -/
def Action.edit : Action → Edit Scope (Option Source)
  | insert source => do
    let scope ← get
    set (← Edit.build (scope.insert source))
    return none
  | remove key => modifyGet fun scope => scope.remove key

/-- The answer of a call. -/
def Action.answer (action : Action) (state : Scope × Log) : Except BuildError (Option Source) :=
  ((action.edit.apply state.1).run state.2).1.1

/-- The scope and the log after a call that may have failed. -/
def Action.step (action : Action) (state : Scope × Log) : Scope × Log :=
  let ((_, scope), log) := (action.edit.apply state.1).run state.2
  (scope, log)

/-- The scope and the log after calls, one after the other. -/
def run (actions : List Action) (state : Scope × Log) : Scope × Log :=
  actions.foldl (fun state action => action.step state) state

/-- A call with its answer. -/
abbrev Entry := Action × Except BuildError (Option Source)

/-- Calls with their answers, oldest first. -/
def history : List Action → Scope × Log → List Entry
  | [], _ => []
  | action :: rest, state => (action, action.answer state) :: history rest (action.step state)

/-- The key that a call has decided about: that of a source that was inserted, or the one that a
source was removed by. A call that was refused or found nothing has decided nothing. -/
def decided? : Entry → Option String
  | (.insert source, .ok _) => source.key?
  | (.remove key, .ok (some _)) => some key
  | _ => none

/-- The source that a call has inserted, if it has a key. -/
def inserted : Entry → List Source
  | (.insert source, .ok _) => [source].filter Source.isKeyed
  | _ => []

/-- Sources but those that go by the key that is given, if one is. -/
def withoutKey : Option String → List Source → List Source
  | none, sources => sources
  | some key, sources => sources.filter fun source => !isKeyOf key source

/-- A key is live with a source: the source was inserted, it goes by the key, and no later call
has decided about the key. -/
def IsLive (past : List Entry) (key : String) (source : Source) : Prop :=
  ∃ before answer after, past = before ++ (.insert source, .ok answer) :: after ∧
    source.key? = some key ∧ ∀ entry ∈ after, decided? entry ≠ some key

/-- The sources that are live, in the order of the insertions that made them so. -/
def live : List Entry → List Source
  | [] => []
  | entry :: later =>
    (inserted entry).filter (fun source => source.key? ∉ later.map decided?) ++ live later

section History

variable {past : List Entry} {key : String} {source : Source}

/-- A source is among those that a call has inserted if the call inserted it and it has a key. -/
theorem mem_inserted {entry : Entry} :
    source ∈ inserted entry ↔
      source.isKeyed = true ∧ ∃ answer, entry = (.insert source, .ok answer) := by
  obtain ⟨_ | _, _ | answer⟩ := entry
  · simp [inserted]
  · rename_i other
    simp only [inserted, List.mem_filter, List.mem_singleton]
    constructor
    · rintro ⟨rfl, keyed⟩
      exact ⟨keyed, answer, rfl⟩
    · rintro ⟨keyed, _, same⟩
      cases same
      exact ⟨rfl, keyed⟩
  · simp [inserted]
  · simp [inserted]

/-- A source is live exactly if a call has inserted it and no later one has decided about its
key. -/
theorem mem_live :
    source ∈ live past ↔ ∃ before entry after, past = before ++ entry :: after ∧
      source ∈ inserted entry ∧ source.key? ∉ after.map decided? := by
  induction past with
  | nil => simp [live]
  | cons entry later inductionHypothesis =>
    rw [live, List.mem_append, List.mem_filter, inductionHypothesis]
    constructor
    · rintro (⟨isInserted, undecided⟩ | ⟨before, other, after, rfl, isInserted, undecided⟩)
      · exact ⟨[], entry, later, rfl, isInserted, by simpa using undecided⟩
      · exact ⟨entry :: before, other, after, rfl, isInserted, undecided⟩
    · rintro ⟨before, other, after, split, isInserted, undecided⟩
      cases before with
      | nil =>
        cases split
        exact .inl ⟨isInserted, by simpa using undecided⟩
      | cons first rest =>
        cases split
        exact .inr ⟨rest, other, after, rfl, isInserted, undecided⟩

/-- A key is live with a source exactly if the source is among the live ones and goes by the
key. -/
theorem isLive_iff : IsLive past key source ↔ source ∈ live past ∧ source.key? = some key := by
  rw [mem_live]
  constructor
  · rintro ⟨before, answer, after, split, isKey, undecided⟩
    have keyed : source.isKeyed = true := by simp [Source.isKeyed, isKey]
    refine ⟨⟨before, _, after, split, mem_inserted.2 ⟨keyed, answer, rfl⟩, ?_⟩, isKey⟩
    simpa [isKey] using undecided
  · rintro ⟨⟨before, entry, after, split, isInserted, undecided⟩, isKey⟩
    obtain ⟨-, answer, rfl⟩ := mem_inserted.1 isInserted
    exact ⟨before, answer, after, split, isKey, by simpa [isKey] using undecided⟩

/-- A further call takes out the source that went by the key which the call decides about, and
adds the one that it inserts. -/
theorem live_concat (past : List Entry) (entry : Entry) :
    live (past ++ [entry]) = withoutKey (decided? entry) (live past) ++ inserted entry := by
  induction past with
  | nil => cases decided? entry <;> simp [live, withoutKey]
  | cons first later inductionHypothesis =>
    have keyed : ∀ source ∈ inserted first, source.key? ≠ none := fun source member =>
      Option.isSome_iff_ne_none.1 (mem_inserted.1 member).1
    rw [List.cons_append, live, inductionHypothesis, live]
    cases decided : decided? entry with
    | none =>
      rw [withoutKey, withoutKey, List.append_assoc]
      congr 1
      refine List.filter_congr fun source member => ?_
      simp [decided, keyed source member]
    | some key =>
      rw [withoutKey, withoutKey, List.filter_append, List.filter_filter, List.append_assoc]
      congr 1
      refine List.filter_congr fun source _ => ?_
      rw [Bool.eq_iff_iff]
      simp [decided, isKeyOf, and_comm]

end History

section Run

variable {scope : Scope} {source : Source} {key : String} {log : Log}

/-- An insertion answers, changes the scope and logs as inserting into the scope does. -/
theorem run_edit_insert (source : Source) (scope : Scope) (log : Log) :
    ((Action.insert source).edit.apply scope).run log =
      match (scope.insert source).run log with
      | (.ok scope, log) => ((.ok none, scope), log)
      | (.error error, log) => ((.error error, scope), log) := by
  change ((Edit.build (scope.insert source) >>= _).apply scope).run log = _
  rw [Edit.run_bind, Edit.run_build]
  rcases (scope.insert source).run log with ⟨_ | _, _⟩ <;> rfl

/-- A removal answers with the source that it takes out. -/
theorem run_edit_remove (key : String) (scope : Scope) (log : Log) :
    ((Action.remove key).edit.apply scope).run log =
      ((.ok (scope.get? key), (scope.remove key).2), log) :=
  rfl

/-- A source without a key is accepted, and nothing changes. -/
theorem run_edit_insert_keyless (keyless : source.key? = none) :
    ((Action.insert source).edit.apply scope).run log = ((.ok none, scope), log) := by
  rw [run_edit_insert, run_insert, keyless]

/-- A source whose key is known is refused, and nothing changes but that it is logged. -/
theorem run_edit_insert_taken (isKey : source.key? = some key) (known : key ∈ scope.keys) :
    ((Action.insert source).edit.apply scope).run log =
      ((.error (.duplicateSource key), scope), log ++ [.duplicateKey key]) := by
  simp [run_edit_insert, run_insert, isKey, contains_iff.2 known]

/-- A source whose key is not known is added at the end. -/
theorem run_edit_insert_free (isKey : source.key? = some key) (unknown : key ∉ scope.keys) :
    ((Action.insert source).edit.apply scope).run log =
      ((.ok none, ⟨scope.sources ++ [source]⟩), log) := by
  have free : scope.contains key = false := by
    simpa [← contains_iff] using unknown
  simp [run_edit_insert, run_insert, isKey, free]

/-- A call keeps keys distinct. -/
theorem Action.nodup_step (action : Action) {state : Scope × Log} (nodup : state.1.keys.Nodup) :
    (action.step state).1.keys.Nodup := by
  obtain ⟨scope, log⟩ := state
  cases action with
  | insert source =>
    rw [step, run_edit_insert]
    cases ran : (scope.insert source).run log with
    | mk outcome after =>
      cases outcome with
      | error _ => exact nodup
      | ok result => exact nodup_of_run_insert nodup ran
  | remove key =>
    rw [step, run_edit_remove]
    exact keys_remove scope key ▸ nodup.erase key

/-- A call takes out the source that goes by the key which the call decides about, and adds the
one that it inserts. -/
theorem Action.sources_step (action : Action) {state : Scope × Log}
    (nodup : state.1.keys.Nodup) :
    (action.step state).1.sources =
      withoutKey (decided? (action, action.answer state)) state.1.sources ++
        inserted (action, action.answer state) := by
  obtain ⟨scope, log⟩ := state
  cases action with
  | insert source =>
    rw [step, answer]
    cases isKey : source.key? with
    | none =>
      rw [run_edit_insert_keyless isKey]
      simp [decided?, inserted, withoutKey, Source.isKeyed, isKey]
    | some key =>
      by_cases known : key ∈ scope.keys
      · rw [run_edit_insert_taken isKey known]
        simp [decided?, inserted, withoutKey]
      · rw [run_edit_insert_free isKey known]
        simp [decided?, inserted, withoutKey, Source.isKeyed, isKey, filter_unknown known]
  | remove key =>
    rw [step, answer, run_edit_remove, sources_remove nodup]
    cases found : scope.get? key with
    | some source => simp [decided?, inserted, withoutKey]
    | none => simp [decided?, inserted, withoutKey, filter_unknown (get?_eq_none_iff.1 found)]

/-- The history of calls and a further one. -/
theorem history_concat (actions : List Action) (action : Action) (state : Scope × Log) :
    history (actions ++ [action]) state =
      history actions state ++ [(action, action.answer (run actions state))] := by
  induction actions generalizing state with
  | nil => rfl
  | cons first rest inductionHypothesis =>
    exact congrArg (_ :: ·) (inductionHypothesis (first.step state))

/-- The sources that calls leave in a scope are the live ones, in the order of the insertions that
made them so, and no two of them go by one key. -/
theorem sources_run (actions : List Action) :
    (run actions (.empty, [])).1.sources = live (history actions (.empty, [])) ∧
      (run actions (.empty, [])).1.keys.Nodup := by
  induction actions using List.reverseRecOn with
  | nil => exact ⟨rfl, List.nodup_nil⟩
  | append_singleton rest action inductionHypothesis =>
    obtain ⟨sources, nodup⟩ := inductionHypothesis
    have last : run (rest ++ [action]) (.empty, []) = action.step (run rest (.empty, [])) := by
      rw [run, List.foldl_concat]
      rfl
    rw [last, history_concat, live_concat, ← sources]
    exact ⟨action.sources_step nodup, action.nodup_step nodup⟩

/-- An insertion fails exactly if the source has a key that is known. -/
theorem Action.answer_insert_eq_error_iff {state : Scope × Log} {error : BuildError} :
    (insert source).answer state = .error error ↔
      ∃ key, error = .duplicateSource key ∧ source.key? = some key ∧ key ∈ state.1.keys := by
  obtain ⟨scope, log⟩ := state
  rw [answer]
  cases isKey : source.key? with
  | none => simp [run_edit_insert_keyless isKey]
  | some key =>
    by_cases known : key ∈ scope.keys
    · simp [run_edit_insert_taken isKey known, known, eq_comm]
    · simp only [run_edit_insert_free isKey known]
      constructor
      · rintro ⟨⟩
      · rintro ⟨_, -, ⟨⟩, isKnown⟩
        exact absurd isKnown known

/-- An insertion that fails leaves the scope as it was. -/
theorem Action.step_insert_of_error {state : Scope × Log} {error : BuildError}
    (refused : (insert source).answer state = .error error) :
    ((insert source).step state).1 = state.1 := by
  obtain ⟨key, -, isKey, known⟩ := answer_insert_eq_error_iff.1 refused
  rw [step, run_edit_insert_taken isKey known]

/-- The empty scope knows the key of the first source that is inserted. -/
theorem Action.keys_step_insert (source : Source) :
    ((insert source).step (.empty, [])).1.keys = source.key?.toList := by
  rw [step]
  cases isKey : source.key? with
  | none => rw [run_edit_insert_keyless isKey]; rfl
  | some key =>
    rw [run_edit_insert_free isKey (by simp [keys, empty])]
    simp [keys, empty, isKey]

/-- Of two sources the second one is refused after the first one exactly if the two go by the same
name. -/
theorem Action.collide_iff (first second : Source) :
    (∃ error, (insert second).answer ((insert first).step (.empty, [])) = .error error) ↔
      ∃ name, first.naming? = some name ∧ second.naming? = some name := by
  simp only [answer_insert_eq_error_iff, keys_step_insert, Option.mem_toList]
  constructor
  · rintro ⟨_, key, -, isKey, isKeyOfFirst⟩
    obtain ⟨name, isName, -⟩ := Option.map_eq_some_iff.1 isKeyOfFirst
    have sameName : first.naming? = second.naming? :=
      Source.key?_eq_iff.1 (isKeyOfFirst.trans isKey.symm)
    exact ⟨name, isName, sameName ▸ isName⟩
  · rintro ⟨name, isName, isNameOfSecond⟩
    have isKey : second.key? = some name.sql := congrArg (Option.map _) isNameOfSecond
    have sameKey : first.key? = second.key? :=
      Source.key?_eq_iff.2 (isName.trans isNameOfSecond.symm)
    exact ⟨_, name.sql, rfl, isKey, sameKey.trans isKey⟩

/-- A scope maps keys to sources and keeps the order of insertion.

After any calls on the empty scope, refused ones included, a source is found by a key exactly if
the key is live with it, and a key is contained exactly if it is live. The scope lists the live
sources with their keys, in the order of the insertions that made them live, and each of them
once.

An insertion is refused exactly if the key of the source is live; the error names the key, and
the scope stays as it is. A source without a key is accepted, and nothing happens. A removal gives
the live source, or none if the key is not live. Two sources collide exactly if they go by the
same name. -/
theorem history_decides (actions : List Action) :
    let state := run actions (.empty, [])
    let past := history actions (.empty, [])
    (∀ key source, state.1.get? key = some source ↔ IsLive past key source) ∧
      (∀ key, state.1.contains key = true ↔ ∃ source, IsLive past key source) ∧
      (state.1.sources = live past ∧ state.1.keys = (live past).filterMap Source.key? ∧
        state.1.keys.Nodup ∧ ∀ source, source ∈ live past ↔ ∃ key, IsLive past key source) ∧
      (∀ source error, (Action.insert source).answer state = .error error ↔
        ∃ key, error = .duplicateSource key ∧ source.key? = some key ∧
          ∃ other, IsLive past key other) ∧
      (∀ source error, (Action.insert source).answer state = .error error →
        ((Action.insert source).step state).1 = state.1) ∧
      (∀ source, source.key? = none →
        (Action.insert source).answer state = .ok none ∧
          (Action.insert source).step state = state) ∧
      (∀ key, ∃ found?, (Action.remove key).answer state = .ok found? ∧
        ∀ source, found? = some source ↔ IsLive past key source) ∧
      ∀ first second : Source,
        (∃ error, (Action.insert second).answer ((Action.insert first).step (.empty, [])) =
            .error error) ↔
          ∃ name, first.naming? = some name ∧ second.naming? = some name := by
  intro state past
  obtain ⟨sources, nodup⟩ := sources_run actions
  have found_iff : ∀ key source, state.1.get? key = some source ↔ IsLive past key source := by
    intro key source
    rw [get?_eq_some_iff nodup, sources, isLive_iff]
  have known_iff : ∀ key, key ∈ state.1.keys ↔ ∃ source, IsLive past key source := by
    intro key
    rw [mem_keys, sources]
    exact exists_congr fun source => isLive_iff.symm
  refine ⟨found_iff, fun key => contains_iff.trans (known_iff key), ⟨sources, ?_, nodup, ?_⟩, ?_,
    ?_, ?_, ?_, Action.collide_iff⟩
  · rw [keys, sources]
  · intro source
    simp only [isLive_iff, exists_and_left, iff_self_and]
    intro member
    obtain ⟨-, entry, -, -, isInserted, -⟩ := mem_live.1 member
    exact Option.isSome_iff_exists.1 (mem_inserted.1 isInserted).1
  · intro source error
    simp only [← known_iff]
    exact Action.answer_insert_eq_error_iff
  · exact fun source error refused => Action.step_insert_of_error refused
  · intro source keyless
    rw [Action.answer, Action.step, run_edit_insert_keyless keyless]
    exact ⟨rfl, rfl⟩
  · exact fun key => ⟨state.1.get? key, rfl, found_iff key⟩

/-- With `a` and `b` inserted, `a` removed and inserted again, and `b` refused, the live sources are
`b` and `a` in this order. A source without a key is accepted, and `a` is refused. -/
theorem history_decides_reinsertion :
    let a : Source := ⟨.table ⟨[.plain "a"], by simp, by decide⟩, none⟩
    let b : Source := ⟨.table ⟨[.plain "b"], by simp, by decide⟩, none⟩
    let keyless : Source := ⟨.call ⟨⟨[.plain "f"], by simp, by decide⟩, [], none⟩, none⟩
    let actions := [Action.insert a, .insert b, .remove "a", .insert a, .insert b]
    let state := run actions (.empty, [])
    let past := history actions (.empty, [])
    live past = [b, a] ∧ state.1.sources = [b, a] ∧ IsLive past "a" a ∧
      keyless.key? = none ∧ (Action.insert keyless).answer state = .ok none ∧
      (Action.insert a).answer state = .error (.duplicateSource "a") ∧
      ((Action.insert a).step state).1 = state.1 := by
  intro a b keyless actions state past
  have order : live past = [b, a] := by decide
  obtain ⟨found, -, ⟨sources, -⟩, refused, unchanged, accepted, -⟩ := history_decides actions
  have isLive : IsLive past "a" a := (found "a" a).1 rfl
  have isRefused : (Action.insert a).answer state = .error (.duplicateSource "a") :=
    (refused a _).2 ⟨"a", rfl, rfl, a, isLive⟩
  exact ⟨order, sources.trans order, isLive, rfl, (accepted keyless rfl).1, isRefused,
    unchanged a _ isRefused⟩

end Run

end SqlTree.Scope
