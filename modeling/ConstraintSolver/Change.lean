import ConstraintSolver.Scope

/-! # Elementary changes

Every mutation of the solver is a sequence of a few elementary changes: a write of a type
variable's record, the record of a new type variable, an extension of the side tables, a node
type, a higher score, a move of a constraint between the lists, a journaled flag, and a failure
(`Constraints.Mutation.changes`). There are two exceptions. `finalize` first lowers the best
score, then changes the system in the same elementary ways (`Constraints.finalize_eq_some`).
And `filterDisjunction` re-enables the terms it disabled with `setEnabled`, which bypasses the
flag journal; that write is a mutation of its own and no elementary change. The invariants of
runs are proved once for each elementary change and lifted to mutations from here.
-/

namespace Constraints

open Relation

namespace ConstraintSystem

variable (cs : ConstraintSystem)

/-- Replace the tables a scope truncates. -/
def withTables (tables : Tables) : ConstraintSystem :=
  { cs with
    typeVariables := tables.typeVariables
    resolvedOverloads := tables.resolvedOverloads
    constraintRestrictions := tables.constraintRestrictions
    fixes := tables.fixes
    fixedRequirements := tables.fixedRequirements
    disjunctionChoices := tables.disjunctionChoices
    trailingClosureMatchingChoices := tables.trailingClosureMatchingChoices
    openedTypes := tables.openedTypes
    openedExistentialTypes := tables.openedExistentialTypes
    defaultedConstraints := tables.defaultedConstraints
    checkedConformances := tables.checkedConformances
    functionBuilderTransformed := tables.functionBuilderTransformed
    closureTypes := tables.closureTypes
    contextualTypes := tables.contextualTypes
    solutionApplicationTargets := tables.solutionApplicationTargets
    caseLabelItems := tables.caseLabelItems }

end ConstraintSystem

/-- The elementary changes of the solver. -/
inductive Change : ConstraintSystem → ConstraintSystem → Prop
  | writeTypeVariable (cs : ConstraintSystem) (v : Nat) (record : TypeVariableImpl) :
      Change cs (cs.writeTypeVariable v record)
  | createRecord (cs : ConstraintSystem) (v : Nat) (options : TypeVariableOptions)
      (fresh : v ∉ cs.arena.allocated) :
      Change cs { cs with arena := cs.arena.write v ⟨.parent v, options⟩ }
  | extendTables {cs cs' : ConstraintSystem} (extends_ : cs.tables.Extends cs'.tables)
      (rest : cs' = cs.withTables cs'.tables) : Change cs cs'
  | setType (cs : ConstraintSystem) (node : Nat) (type : Ty) : Change cs (cs.setType node type)
  | raiseScore {cs cs' : ConstraintSystem} (raised : cs.currentScore ≤ cs'.currentScore)
      (rest : cs' = { cs with currentScore := cs'.currentScore }) : Change cs cs'
  | activateConstraint {cs cs' : ConstraintSystem} (constraint : Nat)
      (activated : cs.activateConstraint constraint = some cs') : Change cs cs'
  | deactivateConstraint {cs cs' : ConstraintSystem} (constraint : Nat)
      (deactivated : cs.deactivateConstraint constraint = some cs') : Change cs cs'
  | removeInactiveConstraint {cs cs' : ConstraintSystem} (constraint : Nat)
      (removed : cs.removeInactiveConstraint constraint = some cs') : Change cs cs'
  | addUnsolvedConstraint {cs cs' : ConstraintSystem} (constraint : Nat)
      (added : cs.addUnsolvedConstraint constraint = some cs') : Change cs cs'
  | favorConstraint (cs : ConstraintSystem) (constraint : Nat) :
      Change cs (cs.favorConstraint constraint)
  | disableConstraint (cs : ConstraintSystem) (constraint : Nat) :
      Change cs (cs.disableConstraint constraint)
  | recordFailure (cs : ConstraintSystem) (constraint : Nat) :
      Change cs { cs with failedConstraint := some constraint }

/-- A sequence of elementary changes. -/
abbrev Changes : ConstraintSystem → ConstraintSystem → Prop := ReflTransGen Change

section

variable {cs cs' : ConstraintSystem}

theorem activateAll_changes : ∀ {constraints : List Nat} {cs cs' : ConstraintSystem},
    cs.activateAll constraints = some cs' → Changes cs cs'
  | [], _, _, activated => by
    cases activated
    exact .refl
  | constraint :: rest, cs, cs', activated => by
    obtain ⟨middle, first, second⟩ := Option.bind_eq_some.mp activated
    refine ReflTransGen.trans ?_ (activateAll_changes second)
    split at first
    · cases first
      exact .refl
    · exact .single (.activateConstraint constraint first)

theorem retireConstraint_changes {constraint : Nat}
    (retired : cs.retireConstraint constraint = some cs') : Changes cs cs' := by
  obtain ⟨middle, first, second⟩ := Option.bind_eq_some.mp retired
  refine ReflTransGen.tail ?_ (.removeInactiveConstraint constraint second)
  split at first
  · exact .single (.deactivateConstraint constraint first)
  · cases first
    exact .refl

theorem assignFixedType_changes {typeVar : Nat} {type : Ty} {updateState : Bool}
    (assigned : cs.assignFixedType typeVar type updateState = some cs') : Changes cs cs' := by
  unfold ConstraintSystem.assignFixedType at assigned
  split at assigned
  · cases assigned
  obtain ⟨representative, -, bound⟩ := Option.bind_eq_some.mp assigned
  split at bound
  · cases bound
  have written := Change.writeTypeVariable cs representative
    { cs.arena.impl representative with parentOrFixed := .fixed type }
  cases updateState <;> simp only [Bool.not_false, Bool.not_true, Bool.false_eq_true,
    ↓reduceIte] at bound
  · cases bound
    exact .single written
  · refine ReflTransGen.head written (ReflTransGen.trans ?_ (activateAll_changes bound))
    split
    · exact .single (.raiseScore (Score.le_increase _ _ _) rfl)
    · exact .refl

theorem implMergeEquivalenceClasses_changes {typeVar1 typeVar2 : Nat}
    (merged : cs.implMergeEquivalenceClasses typeVar1 typeVar2 = some cs') : Changes cs cs' := by
  rcases cs.implMergeEquivalenceClasses_eq_some merged with ⟨-, rfl⟩ | ⟨type, -, -, rfl⟩
  · exact .single (.writeTypeVariable _ _ _)
  · exact .tail (.single (.writeTypeVariable _ _ _)) (.writeTypeVariable _ _ _)

theorem mergeEquivalenceClasses_changes {typeVar1 typeVar2 : Nat} {updateWorkList : Bool}
    (merged : cs.mergeEquivalenceClasses typeVar1 typeVar2 updateWorkList = some cs') :
    Changes cs cs' := by
  unfold ConstraintSystem.mergeEquivalenceClasses at merged
  split at merged
  · cases merged
  obtain ⟨middle, implMerged, rest⟩ := Option.bind_eq_some.mp merged
  refine (implMergeEquivalenceClasses_changes implMerged).trans ?_
  split at rest
  · exact activateAll_changes rest
  · cases rest
    exact .refl

theorem addTypeVariable_change (typeVar : Nat) : Change cs (cs.addTypeVariable typeVar) :=
  .extendTables (by simp [Tables.Extends, ConstraintSystem.tables,
    ConstraintSystem.addTypeVariable, prefix_insertNew]) rfl

theorem applyBindings_changes : ∀ {bindings : List (Nat × Ty)} {cs cs' : ConstraintSystem},
    ConstraintSystem.applyBindings bindings cs = some cs' → Changes cs cs'
  | [], _, _, applied => by
    cases applied
    exact .refl
  | (typeVar, type) :: rest, cs, cs', applied => by
    obtain ⟨middle, first, second⟩ := Option.bind_eq_some.mp applied
    obtain ⟨fixed, -, assigned⟩ := Option.bind_eq_some.mp first
    refine ReflTransGen.head (addTypeVariable_change typeVar)
      (ReflTransGen.trans ?_ (applyBindings_changes second))
    split at assigned
    · exact assignFixedType_changes assigned
    · cases assigned
      exact .refl

theorem setTypes_changes : ∀ (entries : List (Nat × Ty)) (cs : ConstraintSystem),
    Changes cs (entries.foldl (fun cs entry => cs.setType entry.1 entry.2) cs)
  | [], _ => .refl
  | entry :: rest, cs => .head (.setType cs entry.1 entry.2) (setTypes_changes rest _)

theorem applySolution_changes {solution : Solution}
    (applied : cs.applySolution solution = some cs') : Changes cs cs' := by
  obtain ⟨bound, boundOk, rfl⟩ := Option.map_eq_some'.mp applied
  refine .head (.raiseScore (Score.le_add _ _) rfl) (ReflTransGen.trans
    (applyBindings_changes boundOk) (.head ?_ (ReflTransGen.tail
      (setTypes_changes solution.nodeTypes (bound.applyRecords solution)) ?_)))
  · exact .extendTables (by simp [Tables.Extends, ConstraintSystem.tables,
      ConstraintSystem.applyRecords, List.prefix_append, prefix_foldl_insertEntry]) rfl
  · exact .extendTables (by simp [Tables.Extends, ConstraintSystem.tables,
      ConstraintSystem.applyTargets, List.prefix_append, prefix_foldl_insertEntry]) rfl

theorem bindFreeTypeVariables_changes {policy : FreeTypeVariableBinding} :
    ∀ {typeVars : List Nat} {cs cs' : ConstraintSystem},
      cs.bindFreeTypeVariables policy typeVars = some cs' → Changes cs cs'
  | [], _, _, bound => by
    cases bound
    exact .refl
  | typeVar :: rest, cs, cs', bound => by
    obtain ⟨middle, first, second⟩ := Option.bind_eq_some.mp bound
    obtain ⟨fixed, -, assigned⟩ := Option.bind_eq_some.mp first
    refine ReflTransGen.trans ?_ (bindFreeTypeVariables_changes second)
    split at assigned <;> first
      | (cases assigned; exact .refl)
      | exact assignFixedType_changes assigned
      | cases assigned

theorem nextBestScore_le (current : Score) :
    ∀ previous best, previous = some best → ConstraintSystem.nextBestScore current previous ≤ best
  | _, best, rfl => by
    show (if current ≤ best then current else best) ≤ best
    split
    · assumption
    · exact le_rfl

theorem takeSolution_fixedScore {score : Score} {firstFixIndex : Nat} {solution : Solution}
    (taken : cs.takeSolution score firstFixIndex = some solution) : solution.fixedScore = score := by
  unfold ConstraintSystem.takeSolution at taken
  obtain ⟨_, -, taken⟩ := Option.bind_eq_some.mp taken
  obtain ⟨_, -, taken⟩ := Option.bind_eq_some.mp taken
  split at taken
  · cases taken
  obtain ⟨_, -, taken⟩ := Option.bind_eq_some.mp taken
  obtain ⟨_, -, taken⟩ := Option.bind_eq_some.mp taken
  obtain ⟨_, -, rfl⟩ := Option.map_eq_some'.mp taken
  rfl

/-- **What `finalize` does to the system**: it lowers the best score to the current score
when that is no worse, then binds the free type variables by elementary changes; the solution
carries the score on entry. -/
theorem finalize_eq_some {solution : Solution} (finalized : cs.finalize = some (solution, cs')) :
    ∃ state, cs.solverState = some state ∧
      Changes { cs with solverState := some { state with
        bestScore := some (ConstraintSystem.nextBestScore cs.currentScore state.bestScore) } } cs' ∧
      solution.fixedScore = cs.currentScore := by
  unfold ConstraintSystem.finalize at finalized
  obtain ⟨state, isState, finalized⟩ := Option.bind_eq_some.mp finalized
  split at finalized
  · cases finalized
  obtain ⟨final, bound, taken⟩ := Option.bind_eq_some.mp finalized
  obtain ⟨_, isTaken, same⟩ := Option.map_eq_some'.mp taken
  cases same
  exact ⟨state, isState, bindFreeTypeVariables_changes bound, takeSolution_fixedScore isTaken⟩

/-- **Every mutation other than `finalize` and the unjournaled re-enabling is a sequence of
elementary changes.** -/
theorem Mutation.changes (mutation : Mutation) (applied : mutation.apply cs = some cs') :
    Changes cs cs' ∨ (∃ solution, mutation = .finalize ∧ cs.finalize = some (solution, cs')) ∨
      ∃ constraint, mutation = .enableConstraint constraint ∧ cs' = cs.enableConstraint constraint := by
  cases mutation <;> simp only [Mutation.apply] at applied
  case finalize =>
    obtain ⟨⟨solution, final⟩, finalized, rfl⟩ := Option.map_eq_some'.mp applied
    exact .inr (.inl ⟨solution, rfl, finalized⟩)
  case enableConstraint constraint =>
    cases applied
    exact .inr (.inr ⟨constraint, rfl, rfl⟩)
  all_goals refine .inl ?_
  case createTypeVariable =>
    unfold ConstraintSystem.createTypeVariable at applied
    split at applied
    · cases applied
    rename_i fresh
    cases applied
    exact .head (.createRecord cs _ _ fun member => fresh (.inr member)) (.single
      (addTypeVariable_change _))
  case assignFixedType => exact assignFixedType_changes applied
  case mergeEquivalenceClasses => exact mergeEquivalenceClasses_changes applied
  case setCanBindToLValue =>
    obtain ⟨representative, -, rfl⟩ := Option.map_eq_some'.mp applied
    exact .single (.writeTypeVariable _ _ _)
  case resolveOverload | setContextualType | setSolutionApplicationTarget | setCaseLabelItemInfo =>
    simp only [ConstraintSystem.resolveOverload, ConstraintSystem.setContextualType,
      ConstraintSystem.setSolutionApplicationTarget, ConstraintSystem.setCaseLabelItemInfo] at applied
    split at applied <;> cases applied
    exact .single (.extendTables (by simp [Tables.Extends, ConstraintSystem.tables,
      List.prefix_append]) rfl)
  case setType => cases applied; exact .single (.setType _ _ _)
  case favorConstraint => cases applied; exact .single (.favorConstraint _ _)
  case disableConstraint => cases applied; exact .single (.disableConstraint _ _)
  case increaseScore => cases applied; exact .single (.raiseScore (Score.le_increase _ _ _) rfl)
  case applySolution => exact applySolution_changes applied
  case activateConstraint constraint => exact .single (.activateConstraint constraint applied)
  case deactivateConstraint constraint => exact .single (.deactivateConstraint constraint applied)
  case retireConstraint => exact retireConstraint_changes applied
  case retireFailedConstraint constraint =>
    exact .head (.recordFailure cs constraint) (retireConstraint_changes applied)
  case addUnsolvedConstraint constraint => exact .single (.addUnsolvedConstraint constraint applied)
  all_goals
    cases applied
    exact .single (.extendTables (by simp [Tables.Extends, ConstraintSystem.tables,
      List.prefix_append, prefix_insertNew, ConstraintSystem.recordFix,
      ConstraintSystem.addConversionRestriction, ConstraintSystem.recordDisjunctionChoice,
      ConstraintSystem.recordTrailingClosureMatch, ConstraintSystem.recordOpenedTypes,
      ConstraintSystem.recordOpenedExistentialType, ConstraintSystem.recordFixedRequirement,
      ConstraintSystem.recordDefaultedConstraint, ConstraintSystem.recordCheckedConformance,
      ConstraintSystem.recordFunctionBuilderTransformed, ConstraintSystem.recordClosureType]) rfl)

end

end Constraints
