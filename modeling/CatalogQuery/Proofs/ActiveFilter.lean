import CatalogQuery.ActiveFilter
import CatalogQuery.Proofs.Query.Literals
import CatalogQuery.Proofs.Text.Blank

/-! # Runs of the filter in force

A step puts a filter in force, clears it, or is refused and changes nothing (`take_cases`). So the
filter in force at the end of a run is the one that was put there last, unless it was cleared later
(`current_ending_iff`), and nothing else that happened on the way counts.
-/

namespace CatalogQuery.ActiveFilter

/-! ## Single steps -/

/-- The keys and the query of a step that has a query. -/
def Step.request? : Step → Option (KeySet × String)
  | .apply keys query | .applyOrClear keys query => some (keys, query)
  | .clear => none

/-- The query of the step is one over its keys and stands for the filter. -/
def Step.Puts (step : Step) (keys : KeySet) (query : String) (filter : Filter) : Prop :=
  step.request? = some (keys, query) ∧ Query.read? keys query = some filter

/-- The step takes the filter in force away. -/
def Step.Clears : Step → Prop
  | .apply _ _ => False
  | .applyOrClear _ query => ∀ c ∈ query.toList, Text.isBlank c = true
  | .clear => True

/-- The step leaves in force what was in force. -/
def Step.Keeps (step : Step) : Prop :=
  ¬ step.Clears ∧ ∀ keys query filter, ¬ step.Puts keys query filter

theorem isBlankQuery_iff {query : String} :
    isBlankQuery query = true ↔ ∀ c ∈ query.toList, Text.isBlank c = true := by
  rw [isBlankQuery, String.isEmpty_iff, Text.trim_eq_empty_iff]

/-- A query has a colon, so it does not consist of blanks. -/
theorem read?_of_blank {query : String} (blank : ∀ c ∈ query.toList, Text.isBlank c = true)
    (keys : KeySet) : Query.read? keys query = none := by
  cases read : Query.read? keys query with
  | none => rfl
  | some filter => exact absurd (blank _ (Query.read?_mem_colon read)) (by decide)

theorem Step.Clears.not_puts {step : Step} (clears : step.Clears) (keys : KeySet) (query : String)
    (filter : Filter) : ¬ step.Puts keys query filter := by
  rintro ⟨request, read⟩
  cases step with
  | apply _ _ => exact clears
  | applyOrClear own text =>
    obtain ⟨rfl, rfl⟩ := Prod.mk.inj (Option.some.inj request)
    rw [read?_of_blank clears] at read
    contradiction
  | clear => contradiction

section
variable {active : ActiveFilter} {keys : KeySet} {query : String} {filter : Filter}

theorem apply_of_read? (read : Query.read? keys query = some filter) :
    active.apply keys query = (.applied filter, { current := some ⟨query, filter⟩ }) := by
  simp only [apply, read]

theorem apply_of_refused (refused : Query.read? keys query = none) :
    active.apply keys query = (.refused, active) := by
  simp only [apply, refused]

theorem applyOrClear_of_blank (blank : ∀ c ∈ query.toList, Text.isBlank c = true) :
    active.applyOrClear keys query = (.cleared, {}) :=
  if_pos (isBlankQuery_iff.mpr blank)

theorem applyOrClear_of_not_blank (visible : ¬ ∀ c ∈ query.toList, Text.isBlank c = true) :
    active.applyOrClear keys query = active.apply keys query :=
  if_neg (mt isBlankQuery_iff.mp visible)

end

theorem apply_cases (active : ActiveFilter) (keys : KeySet) (query : String) :
    (∃ filter, Query.read? keys query = some filter ∧
      active.apply keys query = (.applied filter, { current := some ⟨query, filter⟩ })) ∨
    (Query.read? keys query = none ∧ active.apply keys query = (.refused, active)) := by
  cases read : Query.read? keys query with
  | none => exact .inr ⟨rfl, apply_of_refused read⟩
  | some filter => exact .inl ⟨filter, rfl, apply_of_read? read⟩

/-- All that a step can do. -/
theorem take_cases (active : ActiveFilter) (step : Step) :
    (step.Clears ∧ active.take step = (.cleared, {})) ∨
    (∃ keys query filter, step.Puts keys query filter ∧
      active.take step = (.applied filter, { current := some ⟨query, filter⟩ })) ∨
    (step.Keeps ∧ active.take step = (.refused, active)) := by
  have request : ∀ keys query, step.request? = some (keys, query) → ¬ step.Clears →
      active.take step = active.apply keys query →
      (∃ keys query filter, step.Puts keys query filter ∧
        active.take step = (.applied filter, { current := some ⟨query, filter⟩ })) ∨
      (step.Keeps ∧ active.take step = (.refused, active)) := by
    intro keys query request kept same
    rw [same]
    rcases active.apply_cases keys query with ⟨filter, read, applied⟩ | ⟨refused, unchanged⟩
    · exact .inl ⟨keys, query, filter, ⟨request, read⟩, applied⟩
    · refine .inr ⟨⟨kept, fun own text filter puts => ?_⟩, unchanged⟩
      obtain ⟨rfl, rfl⟩ := Prod.mk.inj (Option.some.inj (request.symm.trans puts.1))
      exact absurd (refused.symm.trans puts.2) nofun
  cases step with
  | apply keys query => exact .inr (request keys query rfl id rfl)
  | applyOrClear keys query =>
    by_cases blank : ∀ c ∈ query.toList, Text.isBlank c = true
    · exact .inl ⟨blank, applyOrClear_of_blank blank⟩
    · exact .inr (request keys query rfl blank (applyOrClear_of_not_blank blank))
  | clear => exact .inl ⟨trivial, rfl⟩

/-! ## Runs -/

/-- The filter in force at the end of a run. -/
def ending (active : ActiveFilter) (steps : List Step) : ActiveFilter :=
  match (active.run steps).getLast? with
  | some (_, last) => last
  | none => active

theorem ending_cons (active : ActiveFilter) (step : Step) (steps : List Step) :
    active.ending (step :: steps) = (active.take step).2.ending steps := by
  simp only [ending, run, List.getLast?_cons]
  cases ((active.take step).2.run steps).getLast? with
  | none => rfl
  | some last => rfl

theorem ending_append (active : ActiveFilter) (steps more : List Step) :
    active.ending (steps ++ more) = (active.ending steps).ending more := by
  induction steps generalizing active with
  | nil => rfl
  | cons step steps ih => rw [List.cons_append, ending_cons, ending_cons, ih]

/-- The outcomes of a run are those of its steps, each taken where the steps before it lead. -/
theorem run_append (active : ActiveFilter) (steps more : List Step) :
    active.run (steps ++ more) = active.run steps ++ (active.ending steps).run more := by
  induction steps generalizing active with
  | nil => rfl
  | cons step steps ih => rw [List.cons_append, run, run, ih, ending_cons, List.cons_append]

theorem ending_of_keeps {active : ActiveFilter} {steps : List Step}
    (keeps : ∀ step ∈ steps, step.Keeps) : active.ending steps = active := by
  induction steps with
  | nil => rfl
  | cons step steps ih =>
    obtain ⟨first, more⟩ := List.forall_mem_cons.mp keeps
    rcases active.take_cases step with ⟨clears, -⟩ | ⟨keys, query, filter, puts, -⟩ | ⟨-, taken⟩
    · exact absurd clears first.1
    · exact absurd puts (first.2 keys query filter)
    · rw [ending_cons, taken, ih more]

/-- The step that put the filter in force is the last one that changed anything. -/
def LastPut (steps : List Step) (keys : KeySet) (query : String) (filter : Filter) : Prop :=
  ∃ before step after, steps = before ++ step :: after ∧ step.Puts keys query filter ∧
    ∀ later ∈ after, later.Keeps

/-- The last step that changed anything cleared the filter in force. -/
def LastCleared (steps : List Step) : Prop :=
  ∃ before step after, steps = before ++ step :: after ∧ step.Clears ∧ ∀ later ∈ after, later.Keeps

section
variable {steps : List Step} {keys : KeySet} {query : String} {filter : Filter}

theorem LastPut.cons (lastPut : LastPut steps keys query filter) (step : Step) :
    LastPut (step :: steps) keys query filter := by
  obtain ⟨before, put, after, rfl, puts, keeps⟩ := lastPut
  exact ⟨step :: before, put, after, rfl, puts, keeps⟩

theorem LastCleared.cons (lastCleared : LastCleared steps) (step : Step) :
    LastCleared (step :: steps) := by
  obtain ⟨before, cleared, after, rfl, clears, keeps⟩ := lastCleared
  exact ⟨step :: before, cleared, after, rfl, clears, keeps⟩

/-- All that a run can do: what one of its steps did, behind which the others change nothing. -/
theorem ending_cases (active : ActiveFilter) (steps : List Step) :
    (∃ keys query filter, LastPut steps keys query filter ∧
      active.ending steps = { current := some ⟨query, filter⟩ }) ∨
    (LastCleared steps ∧ active.ending steps = {}) ∨
    ((∀ step ∈ steps, step.Keeps) ∧ active.ending steps = active) := by
  induction steps generalizing active with
  | nil => exact .inr (.inr ⟨nofun, rfl⟩)
  | cons step steps ih =>
    rw [ending_cons]
    rcases ih (active.take step).2 with ⟨keys, query, filter, lastPut, ends⟩ | ⟨cleared, ends⟩ |
      ⟨keeps, ends⟩
    · exact .inl ⟨keys, query, filter, lastPut.cons step, ends⟩
    · exact .inr (.inl ⟨cleared.cons step, ends⟩)
    · -- No later step changes anything, so this one decides.
      rw [ends]
      rcases active.take_cases step with ⟨clears, taken⟩ | ⟨keys, query, filter, puts, taken⟩ |
        ⟨kept, taken⟩
      · exact .inr (.inl ⟨⟨[], step, steps, rfl, clears, keeps⟩, by rw [taken]⟩)
      · exact .inl ⟨keys, query, filter, ⟨[], step, steps, rfl, puts, keeps⟩, by rw [taken]⟩
      · exact .inr (.inr ⟨List.forall_mem_cons.mpr ⟨kept, keeps⟩, by rw [taken]⟩)

theorem LastPut.ending_eq (lastPut : LastPut steps keys query filter) (active : ActiveFilter) :
    active.ending steps = { current := some ⟨query, filter⟩ } := by
  obtain ⟨before, step, after, rfl, puts, keeps⟩ := lastPut
  rw [ending_append, ending_cons, ending_of_keeps keeps]
  rcases (active.ending before).take_cases step with ⟨clears, -⟩ |
    ⟨own, text, found, also, taken⟩ | ⟨kept, -⟩
  · exact absurd puts (clears.not_puts keys query filter)
  · obtain ⟨rfl, rfl⟩ := Prod.mk.inj (Option.some.inj (also.1.symm.trans puts.1))
    rw [taken, Option.some.inj (also.2.symm.trans puts.2)]
  · exact absurd puts (kept.2 keys query filter)

theorem current_ending_iff :
    (ending {} steps).current = some ⟨query, filter⟩ ↔ ∃ keys, LastPut steps keys query filter := by
  constructor
  · intro current
    rcases ending_cases {} steps with ⟨keys, text, found, lastPut, ends⟩ | ⟨-, ends⟩ | ⟨-, ends⟩
    · rw [ends, Option.some.injEq, Applied.mk.injEq] at current
      obtain ⟨rfl, rfl⟩ := current
      exact ⟨keys, lastPut⟩
    · rw [ends] at current
      contradiction
    · rw [ends] at current
      contradiction
  · rintro ⟨keys, lastPut⟩
    rw [lastPut.ending_eq]

theorem ending_eq_empty_iff :
    ending {} steps = {} ↔ ∀ before step after keys query filter,
      steps = before ++ step :: after → step.Puts keys query filter →
      ∃ later ∈ after, later.Clears := by
  constructor
  · rintro empty before step after keys query filter rfl puts
    have put : LastPut (before ++ [step]) keys query filter := ⟨before, step, [], rfl, puts, nofun⟩
    rw [List.append_cons, ending_append, put.ending_eq] at empty
    -- A filter was in force behind the step, and only a step that clears can have taken it away.
    rcases ending_cases { current := some ⟨query, filter⟩ } after with
      ⟨_, _, _, -, ends⟩ | ⟨⟨front, later, behind, rfl, clears, -⟩, -⟩ | ⟨-, ends⟩
    · exact nomatch ends.symm.trans empty
    · exact ⟨later, List.mem_append_right _ List.mem_cons_self, clears⟩
    · exact nomatch ends.symm.trans empty
  · intro cleared
    rcases ending_cases {} steps with
      ⟨keys, query, filter, ⟨before, step, after, split, puts, keeps⟩, -⟩ | ⟨-, ends⟩ | ⟨-, ends⟩
    · obtain ⟨later, member, clears⟩ := cleared before step after keys query filter split puts
      exact absurd clears (keeps later member).1
    · exact ends
    · exact ends

end

/-! ## What is in force -/

theorem current_eq_some_iff {active : ActiveFilter} {query : String} {filter : Filter} :
    active.current = some ⟨query, filter⟩ ↔
      active.query? = some query ∧ active.filter? = some filter := by
  unfold query? filter?
  cases active.current with
  | none => simp
  | some applied =>
    obtain ⟨text, found⟩ := applied
    simp

theorem applyOrClear_eq_cleared_iff (active : ActiveFilter) (keys : KeySet) (query : String) :
    (active.applyOrClear keys query).1 = .cleared ↔ ∀ c ∈ query.toList, Text.isBlank c = true := by
  constructor
  · intro cleared
    apply Classical.byContradiction
    intro visible
    rw [applyOrClear_of_not_blank visible] at cleared
    rcases active.apply_cases keys query with ⟨filter, -, applied⟩ | ⟨-, refused⟩
    · exact nomatch (congrArg Prod.fst applied).symm.trans cleared
    · exact nomatch (congrArg Prod.fst refused).symm.trans cleared
  · intro blank
    rw [applyOrClear_of_blank blank]

/-- At the end of a run the filter in force is that of the last accepted query, with its text, and
there is none if it was cleared later. A refused query changes nothing on the way. Only blank
queries clear, and no keys make a query of them. -/
theorem run_ends_with_lastPut (steps : List Step) :
    (ending {} steps = {} ↔ ∀ before step after keys query filter,
      steps = before ++ step :: after → step.Puts keys query filter →
      ∃ later ∈ after, later.Clears) ∧
    (∀ query filter,
      ((ending {} steps).query? = some query ∧ (ending {} steps).filter? = some filter ↔
        ∃ keys, LastPut steps keys query filter)) ∧
    (∀ keys query filter, LastPut steps keys query filter →
      apply keys query {} = (.applied filter, ending {} steps)) ∧
    (∀ before step after, steps = before ++ step :: after →
      run {} steps = run {} before ++
        take (ending {} before) step :: run (ending {} (before ++ [step])) after ∧
      ((take (ending {} before) step).1 = .refused →
        ending {} (before ++ [step]) = ending {} before)) ∧
    (∀ active keys query,
      ((applyOrClear keys query active).1 = .cleared ↔
        ∀ c ∈ query.toList, Text.isBlank c = true) ∧
      ((∀ c ∈ query.toList, Text.isBlank c = true) → Query.read? keys query = none)) ∧
    (ending {} steps).query?.isSome = (ending {} steps).isActive ∧
    (ending {} steps).filter?.isSome = (ending {} steps).isActive ∧
    ∀ keys record,
      ((ending {} steps).isActive = false → (ending {} steps).passes keys record = true) ∧
      ∀ filter, (ending {} steps).filter? = some filter →
        (ending {} steps).passes keys record = filter.holds keys record := by
  refine ⟨ending_eq_empty_iff, fun query filter => ?_, fun keys query filter lastPut => ?_,
    fun before step after split => ⟨?_, fun refused => ?_⟩,
    fun active keys query => ⟨applyOrClear_eq_cleared_iff active keys query, fun blank => ?_⟩,
    Option.isSome_map, Option.isSome_map, fun keys record => ⟨fun inactive => ?_, ?_⟩⟩
  · rw [← current_eq_some_iff, current_ending_iff]
  · obtain ⟨before, step, after, -, ⟨-, read⟩, -⟩ := id lastPut
    rw [apply_of_read? read, lastPut.ending_eq]
  · rw [split, run_append, run, ending_append]
    rfl
  · rw [ending_append, ending_cons]
    rcases take_cases (ending {} before) step with ⟨-, taken⟩ | ⟨_, _, _, -, taken⟩ | ⟨-, taken⟩
    · exact nomatch (congrArg Prod.fst taken).symm.trans refused
    · exact nomatch (congrArg Prod.fst taken).symm.trans refused
    · rw [taken]
      rfl
  · exact read?_of_blank blank keys
  · rw [isActive, Option.isSome_eq_false_iff, Option.isNone_iff_eq_none] at inactive
    rw [passes, filter?, inactive]
    rfl
  · intro filter inForce
    rw [passes, inForce]

end CatalogQuery.ActiveFilter
