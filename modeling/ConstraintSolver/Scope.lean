import ConstraintSolver.Operations

/-! # Solver scopes and runs of the solver

`SolverScope` records, when it is constructed, the size of every list the solver journals and
the current score, and registers itself with the solver state next to the number of retired
and generated constraints (`registerScope`). Its destructor cuts every list back to its
recorded size, replays the binding journal and the node-type journal in reverse, moves the
active constraints to the inactive list, and has the solver state roll back the constraints
retired, generated, disabled and favored since (`rollback`); then it resets the score.
`registerScope` and `rollback` are declared in the solver's header and are modelled from the
spec: the journals of disabled and favored constraints hold each constraint with the flag it
had, and `rollback` gives the flags back, the most recent entry first (§5, §9).

A run of the solver is a list of events: the mutations of `Constraints.ConstraintSystem`
and the construction and destruction of scopes. `Balanced` runs close every scope they open,
in order; `Branch` runs may leave scopes open but never close one they did not open.
-/

namespace Constraints

open Relation

/-! ## The node-type journal -/

/-- Undo one `setType`: give the node back the type it had, or erase it if it had none. -/
def restoreNodeType (entry : Nat × Option Ty) (nodeTypes : List (Nat × Ty)) : List (Nat × Ty) :=
  match entry.2 with
  | some oldType => assignEntry nodeTypes entry.1 oldType
  | none => eraseEntry nodeTypes entry.1

/-- Undo the given `setType`s, the most recent first. -/
def restoreNodeTypes (journal : List (Nat × Option Ty)) (nodeTypes : List (Nat × Ty)) :
    List (Nat × Ty) :=
  journal.foldr restoreNodeType nodeTypes

/-! ## The flag journals -/

/-- Give one journaled constraint back the flag it had, written by `set`. -/
def restoreFlag (set : ConstraintFlags → Bool → ConstraintFlags) (entry : Nat × Bool)
    (constraints : Nat → ConstraintFlags) : Nat → ConstraintFlags :=
  Function.update constraints entry.1 (set (constraints entry.1) entry.2)

/-- Give one journaled constraint back the disabled flag it had. -/
def restoreDisabled : Nat × Bool → (Nat → ConstraintFlags) → Nat → ConstraintFlags :=
  restoreFlag fun flags old => { flags with isDisabled := old }

/-- Give one journaled constraint back the favored flag it had. -/
def restoreFavored : Nat × Bool → (Nat → ConstraintFlags) → Nat → ConstraintFlags :=
  restoreFlag fun flags old => { flags with isFavored := old }

section
variable {get : ConstraintFlags → Bool} {set : ConstraintFlags → Bool → ConstraintFlags}

/-- Replaying a flag journal leaves every flag that `set` does not write. -/
theorem foldr_restoreFlag_of_keeps (keeps : ∀ flags old, get (set flags old) = get flags)
    (journal : List (Nat × Bool)) (constraints : Nat → ConstraintFlags) (constraint : Nat) :
    get (journal.foldr (restoreFlag set) constraints constraint) = get (constraints constraint) := by
  induction journal with
  | nil => rfl
  | cons entry rest ih =>
    by_cases here : constraint = entry.1
    · subst here
      simpa [restoreFlag, keeps] using ih
    · simpa [restoreFlag, Function.update_noteq here] using ih

end

section
variable (journal : List (Nat × Bool)) (constraints : Nat → ConstraintFlags) (constraint : Nat)

@[simp] theorem foldr_restoreDisabled_isActive :
    (journal.foldr restoreDisabled constraints constraint).isActive =
      (constraints constraint).isActive :=
  @foldr_restoreFlag_of_keeps ConstraintFlags.isActive (fun flags old => { flags with isDisabled := old })
    (fun _ _ => rfl) journal constraints constraint

@[simp] theorem foldr_restoreDisabled_isFavored :
    (journal.foldr restoreDisabled constraints constraint).isFavored =
      (constraints constraint).isFavored :=
  @foldr_restoreFlag_of_keeps ConstraintFlags.isFavored (fun flags old => { flags with isDisabled := old })
    (fun _ _ => rfl) journal constraints constraint

@[simp] theorem foldr_restoreFavored_isActive :
    (journal.foldr restoreFavored constraints constraint).isActive =
      (constraints constraint).isActive :=
  @foldr_restoreFlag_of_keeps ConstraintFlags.isActive (fun flags old => { flags with isFavored := old })
    (fun _ _ => rfl) journal constraints constraint

@[simp] theorem foldr_restoreFavored_isDisabled :
    (journal.foldr restoreFavored constraints constraint).isDisabled =
      (constraints constraint).isDisabled :=
  @foldr_restoreFlag_of_keeps ConstraintFlags.isDisabled (fun flags old => { flags with isFavored := old })
    (fun _ _ => rfl) journal constraints constraint

end

/-! ## The side tables a scope truncates -/

/-- The lists that a scope cuts back to their sizes, as the system holds them. -/
structure Tables where
  typeVariables : List Nat
  resolvedOverloads : List (Nat × Nat)
  constraintRestrictions : List (Ty × Ty × Nat)
  fixes : List Nat
  fixedRequirements : List (Nat × Nat × Ty)
  disjunctionChoices : List (Nat × Nat)
  trailingClosureMatchingChoices : List (Nat × Nat)
  openedTypes : List (Nat × Nat)
  openedExistentialTypes : List (Nat × Nat)
  defaultedConstraints : List Nat
  checkedConformances : List (Nat × Nat)
  functionBuilderTransformed : List (Nat × Nat)
  closureTypes : List (Nat × Ty)
  contextualTypes : List (Nat × Nat)
  solutionApplicationTargets : List (Nat × Nat)
  caseLabelItems : List (Nat × Nat)

/-- Every table of `after` begins with the corresponding table of `before`. -/
def Tables.Extends (before after : Tables) : Prop :=
  before.typeVariables <+: after.typeVariables ∧
  before.resolvedOverloads <+: after.resolvedOverloads ∧
  before.constraintRestrictions <+: after.constraintRestrictions ∧
  before.fixes <+: after.fixes ∧
  before.fixedRequirements <+: after.fixedRequirements ∧
  before.disjunctionChoices <+: after.disjunctionChoices ∧
  before.trailingClosureMatchingChoices <+: after.trailingClosureMatchingChoices ∧
  before.openedTypes <+: after.openedTypes ∧
  before.openedExistentialTypes <+: after.openedExistentialTypes ∧
  before.defaultedConstraints <+: after.defaultedConstraints ∧
  before.checkedConformances <+: after.checkedConformances ∧
  before.functionBuilderTransformed <+: after.functionBuilderTransformed ∧
  before.closureTypes <+: after.closureTypes ∧
  before.contextualTypes <+: after.contextualTypes ∧
  before.solutionApplicationTargets <+: after.solutionApplicationTargets ∧
  before.caseLabelItems <+: after.caseLabelItems

@[simp] theorem Tables.extends_refl (tables : Tables) : tables.Extends tables := by
  simp [Tables.Extends]

theorem Tables.Extends.trans {a b c : Tables} (first : a.Extends b) (second : b.Extends c) :
    a.Extends c := by
  obtain ⟨h1, h2, h3, h4, h5, h6, h7, h8, h9, h10, h11, h12, h13, h14, h15, h16⟩ := first
  obtain ⟨k1, k2, k3, k4, k5, k6, k7, k8, k9, k10, k11, k12, k13, k14, k15, k16⟩ := second
  exact ⟨h1.trans k1, h2.trans k2, h3.trans k3, h4.trans k4, h5.trans k5, h6.trans k6,
    h7.trans k7, h8.trans k8, h9.trans k9, h10.trans k10, h11.trans k11, h12.trans k12,
    h13.trans k13, h14.trans k14, h15.trans k15, h16.trans k16⟩

namespace ConstraintSystem

variable (cs : ConstraintSystem)

/-- The system's truncated tables. -/
def tables : Tables :=
  ⟨cs.typeVariables, cs.resolvedOverloads, cs.constraintRestrictions, cs.fixes,
    cs.fixedRequirements, cs.disjunctionChoices, cs.trailingClosureMatchingChoices,
    cs.openedTypes, cs.openedExistentialTypes, cs.defaultedConstraints, cs.checkedConformances,
    cs.functionBuilderTransformed, cs.closureTypes, cs.contextualTypes,
    cs.solutionApplicationTargets, cs.caseLabelItems⟩

/-- The open scopes of the solver state, innermost first. -/
def scopes : Option (List SolverScope) := cs.solverState.map (·.scopes)

/-- The solver state's best score. -/
def bestScore : Option Score := cs.solverState.bind (·.bestScore)

/-- The solver state's retired constraints, most recent first. -/
def retiredConstraints : List Nat := (cs.solverState.map (·.retiredConstraints)).getD []

/-- The solver state's generated constraints. -/
def generatedConstraints : List Nat := (cs.solverState.map (·.generatedConstraints)).getD []

/-! ## Construction and destruction of a scope -/

/-- `SolverScope::SolverScope` reads the sizes of the journaled lists and the score;
`registerScope` adds the number of retired and generated constraints. -/
def snapshot (state : SolverState) : SolverScope where
  numTypeVariables := cs.typeVariables.length
  numSavedBindings := state.savedBindings.length
  numConstraintRestrictions := cs.constraintRestrictions.length
  numFixes := cs.fixes.length
  numFixedRequirements := cs.fixedRequirements.length
  numDisjunctionChoices := cs.disjunctionChoices.length
  numTrailingClosureMatchingChoices := cs.trailingClosureMatchingChoices.length
  numOpenedTypes := cs.openedTypes.length
  numOpenedExistentialTypes := cs.openedExistentialTypes.length
  numDefaultedConstraints := cs.defaultedConstraints.length
  numAddedNodeTypes := cs.addedNodeTypes.length
  numCheckedConformances := cs.checkedConformances.length
  numDisabledConstraints := state.disabledConstraints.length
  numFavoredConstraints := state.favoredConstraints.length
  numFunctionBuilderTransformed := cs.functionBuilderTransformed.length
  numResolvedOverloads := cs.resolvedOverloads.length
  numInferredClosureTypes := cs.closureTypes.length
  numContextualTypes := cs.contextualTypes.length
  numSolutionApplicationTargets := cs.solutionApplicationTargets.length
  numCaseLabelItems := cs.caseLabelItems.length
  previousScore := cs.currentScore
  numRetiredConstraints := state.retiredConstraints.length
  numGeneratedConstraints := state.generatedConstraints.length

/-- `SolverScope::SolverScope`: it needs a solver state and asserts that no constraint has
failed. -/
def openScope : Option ConstraintSystem :=
  cs.solverState.bind fun state =>
  if cs.failedConstraint.isSome then none
  else some { cs with solverState := some { state with scopes := cs.snapshot state :: state.scopes } }

/-- Modelled from the spec: `SolverState::rollback` (declared in the solver's header), called by
the destructor of `scope` with the scopes outside it. It puts the constraints retired since the
scope back into the inactive list and drops those generated since; it gives every constraint
disabled or favored since the flag it had, the most recent entry first (§5: every journaled
mutation is undone, in reverse order); and it cuts its four journals back to the scope's sizes
and unregisters the scope. -/
def rollback (state : SolverState) (scope : SolverScope) (outer : List SolverScope) :
    ConstraintSystem :=
  let retiredSince :=
    state.retiredConstraints.take (state.retiredConstraints.length - scope.numRetiredConstraints)
  let generatedSince := state.generatedConstraints.drop scope.numGeneratedConstraints
  { cs with
    inactiveConstraints := (cs.inactiveConstraints ++ retiredSince).diff generatedSince
    constraints := (state.favoredConstraints.drop scope.numFavoredConstraints).foldr
      restoreFavored
      ((state.disabledConstraints.drop scope.numDisabledConstraints).foldr restoreDisabled
        cs.constraints)
    solverState := some { state with
      retiredConstraints :=
        state.retiredConstraints.drop (state.retiredConstraints.length - scope.numRetiredConstraints)
      generatedConstraints := truncate state.generatedConstraints scope.numGeneratedConstraints
      disabledConstraints := truncate state.disabledConstraints scope.numDisabledConstraints
      favoredConstraints := truncate state.favoredConstraints scope.numFavoredConstraints
      scopes := outer } }

/-- `SolverScope::~SolverScope` of the innermost scope `scope`: cut the type variables and the
resolved overloads back, replay the binding journal (`restoreTypeVariableBindings`), move the
active constraints to the inactive list, `rollback`, cut the other lists back, replay the
node-type journal, and reset the score and the failure. -/
def unwindScope (state : SolverState) (scope : SolverScope) (outer : List SolverScope) :
    ConstraintSystem :=
  let deactivated : ConstraintSystem := { cs with
    typeVariables := truncate cs.typeVariables scope.numTypeVariables
    resolvedOverloads := truncate cs.resolvedOverloads scope.numResolvedOverloads
    arena := Arena.restoreAll (state.savedBindings.drop scope.numSavedBindings) cs.arena
    activeConstraints := []
    inactiveConstraints := cs.inactiveConstraints ++ cs.activeConstraints
    constraints := fun constraint => { cs.constraints constraint with
      isActive := (cs.constraints constraint).isActive && constraint ∉ cs.activeConstraints } }
  let rolledBack := deactivated.rollback
    { state with savedBindings := truncate state.savedBindings scope.numSavedBindings } scope outer
  { rolledBack with
    constraintRestrictions := truncate cs.constraintRestrictions scope.numConstraintRestrictions
    fixes := truncate cs.fixes scope.numFixes
    disjunctionChoices := truncate cs.disjunctionChoices scope.numDisjunctionChoices
    trailingClosureMatchingChoices :=
      truncate cs.trailingClosureMatchingChoices scope.numTrailingClosureMatchingChoices
    openedTypes := truncate cs.openedTypes scope.numOpenedTypes
    fixedRequirements := truncate cs.fixedRequirements scope.numFixedRequirements
    openedExistentialTypes := truncate cs.openedExistentialTypes scope.numOpenedExistentialTypes
    defaultedConstraints := truncate cs.defaultedConstraints scope.numDefaultedConstraints
    nodeTypes := restoreNodeTypes (cs.addedNodeTypes.drop scope.numAddedNodeTypes) cs.nodeTypes
    addedNodeTypes := truncate cs.addedNodeTypes scope.numAddedNodeTypes
    checkedConformances := truncate cs.checkedConformances scope.numCheckedConformances
    functionBuilderTransformed :=
      truncate cs.functionBuilderTransformed scope.numFunctionBuilderTransformed
    closureTypes := truncate cs.closureTypes scope.numInferredClosureTypes
    contextualTypes := truncate cs.contextualTypes scope.numContextualTypes
    solutionApplicationTargets :=
      truncate cs.solutionApplicationTargets scope.numSolutionApplicationTargets
    caseLabelItems := truncate cs.caseLabelItems scope.numCaseLabelItems
    currentScore := scope.previousScore
    failedConstraint := none }

/-- `SolverScope::~SolverScope` of the innermost open scope. -/
def closeScope : Option ConstraintSystem :=
  cs.solverState.bind fun state =>
  match state.scopes with
  | [] => none
  | scope :: outer => some (cs.unwindScope state scope outer)

/-- `worseThanBestSolution`, modelled from the spec: the running score is already worse than
the best score of a solution found so far. -/
def worseThanBestSolution : Prop :=
  ∃ best, cs.bestScore = some best ∧ best < cs.currentScore

instance : Decidable cs.worseThanBestSolution :=
  match h : cs.bestScore with
  | some best => decidable_of_iff (best < cs.currentScore) (by simp [worseThanBestSolution, h])
  | none => isFalse (by simp [worseThanBestSolution, h])

/-- A constraint the solver re-enables without journaling, as `filterDisjunction` does on
failure. -/
def enableConstraint (constraint : Nat) : ConstraintSystem :=
  cs.setFlags constraint { cs.constraints constraint with isDisabled := false }

end ConstraintSystem

section

variable {cs cs' : ConstraintSystem}

theorem openScope_eq_some (opened : cs.openScope = some cs') :
    ∃ state, cs.solverState = some state ∧ cs.failedConstraint = none ∧
      cs' = { cs with solverState := some { state with scopes := cs.snapshot state :: state.scopes } } := by
  unfold ConstraintSystem.openScope at opened
  obtain ⟨state, isState, opened⟩ := Option.bind_eq_some.mp opened
  split at opened
  · cases opened
  next notFailed =>
    cases opened
    exact ⟨state, isState, Option.not_isSome_iff_eq_none.mp notFailed, rfl⟩

theorem openScope_active (opened : cs.openScope = some cs') : cs'.solverState.isSome := by
  obtain ⟨_, _, _, rfl⟩ := openScope_eq_some opened
  rfl

theorem closeScope_eq_some (closed : cs.closeScope = some cs') :
    ∃ state scope outer, cs.solverState = some state ∧ state.scopes = scope :: outer ∧
      cs' = cs.unwindScope state scope outer := by
  unfold ConstraintSystem.closeScope at closed
  obtain ⟨state, isState, closed⟩ := Option.bind_eq_some.mp closed
  split at closed
  · cases closed
  · cases closed
    exact ⟨state, _, _, isState, ‹_›, rfl⟩

end

/-! ## Runs -/

/-- The mutations a solver step performs between scopes. -/
inductive Mutation where
  | createTypeVariable (typeVar : Nat) (options : TypeVariableOptions)
  | assignFixedType (typeVar : Nat) (type : Ty) (updateState : Bool)
  | mergeEquivalenceClasses (typeVar1 typeVar2 : Nat) (updateWorkList : Bool)
  | setCanBindToLValue (typeVar : Nat) (enabled : Bool)
  | resolveOverload (locator overload : Nat)
  | recordFix (fix : Nat)
  | addConversionRestriction (first second : Ty) (kind : Nat)
  | recordDisjunctionChoice (locator index : Nat)
  | recordTrailingClosureMatch (locator matching : Nat)
  | recordOpenedTypes (locator openedTypes : Nat)
  | recordOpenedExistentialType (locator archetype : Nat)
  | recordFixedRequirement (genericParam kind : Nat) (requirementTy : Ty)
  | recordDefaultedConstraint (locator : Nat)
  | recordCheckedConformance (locator conformance : Nat)
  | recordFunctionBuilderTransformed (closure transformed : Nat)
  | recordClosureType (closure : Nat) (type : Ty)
  | setContextualType (node info : Nat)
  | setSolutionApplicationTarget (key target : Nat)
  | setCaseLabelItemInfo (item info : Nat)
  | setType (node : Nat) (type : Ty)
  | favorConstraint (constraint : Nat)
  | disableConstraint (constraint : Nat)
  | enableConstraint (constraint : Nat)
  | increaseScore (kind : ScoreKind) (value : Nat)
  | applySolution (solution : Solution)
  | activateConstraint (constraint : Nat)
  | deactivateConstraint (constraint : Nat)
  | retireConstraint (constraint : Nat)
  | retireFailedConstraint (constraint : Nat)
  | addUnsolvedConstraint (constraint : Nat)
  | finalize

namespace Mutation

/-- Perform a mutation. -/
def apply : Mutation → ConstraintSystem → Option ConstraintSystem
  | createTypeVariable typeVar options, cs => cs.createTypeVariable typeVar options
  | assignFixedType typeVar type updateState, cs => cs.assignFixedType typeVar type updateState
  | mergeEquivalenceClasses typeVar1 typeVar2 updateWorkList, cs =>
    cs.mergeEquivalenceClasses typeVar1 typeVar2 updateWorkList
  | setCanBindToLValue typeVar enabled, cs => cs.setCanBindToLValue typeVar enabled
  | resolveOverload locator overload, cs => cs.resolveOverload locator overload
  | recordFix fix, cs => some (cs.recordFix fix)
  | addConversionRestriction first second kind, cs =>
    some (cs.addConversionRestriction first second kind)
  | recordDisjunctionChoice locator index, cs => some (cs.recordDisjunctionChoice locator index)
  | recordTrailingClosureMatch locator matching, cs =>
    some (cs.recordTrailingClosureMatch locator matching)
  | recordOpenedTypes locator openedTypes, cs => some (cs.recordOpenedTypes locator openedTypes)
  | recordOpenedExistentialType locator archetype, cs =>
    some (cs.recordOpenedExistentialType locator archetype)
  | recordFixedRequirement genericParam kind requirementTy, cs =>
    some (cs.recordFixedRequirement genericParam kind requirementTy)
  | recordDefaultedConstraint locator, cs => some (cs.recordDefaultedConstraint locator)
  | recordCheckedConformance locator conformance, cs =>
    some (cs.recordCheckedConformance locator conformance)
  | recordFunctionBuilderTransformed closure transformed, cs =>
    some (cs.recordFunctionBuilderTransformed closure transformed)
  | recordClosureType closure type, cs => some (cs.recordClosureType closure type)
  | setContextualType node info, cs => cs.setContextualType node info
  | setSolutionApplicationTarget key target, cs => cs.setSolutionApplicationTarget key target
  | setCaseLabelItemInfo item info, cs => cs.setCaseLabelItemInfo item info
  | setType node type, cs => some (cs.setType node type)
  | favorConstraint constraint, cs => some (cs.favorConstraint constraint)
  | disableConstraint constraint, cs => some (cs.disableConstraint constraint)
  | enableConstraint constraint, cs => some (cs.enableConstraint constraint)
  | increaseScore kind value, cs => some (cs.increaseScore kind value)
  | applySolution solution, cs => cs.applySolution solution
  | activateConstraint constraint, cs => cs.activateConstraint constraint
  | deactivateConstraint constraint, cs => cs.deactivateConstraint constraint
  | retireConstraint constraint, cs => cs.retireConstraint constraint
  | retireFailedConstraint constraint, cs => cs.retireFailedConstraint constraint
  | addUnsolvedConstraint constraint, cs => cs.addUnsolvedConstraint constraint
  | finalize, cs => cs.finalize.map Prod.snd

end Mutation

/-- One event of a run: a mutation, or the construction or destruction of a scope. -/
inductive SolverEvent where
  | mutate (mutation : Mutation)
  | openScope
  | closeScope

/-- Perform one event. -/
def SolverEvent.apply : SolverEvent → ConstraintSystem → Option ConstraintSystem
  | mutate mutation, cs => mutation.apply cs
  | openScope, cs => cs.openScope
  | closeScope, cs => cs.closeScope

/-- Perform the events in order; `none` as soon as one fails. -/
def run : List SolverEvent → ConstraintSystem → Option ConstraintSystem
  | [], cs => some cs
  | event :: rest, cs => (event.apply cs).bind (run rest)

@[simp] theorem run_nil (cs : ConstraintSystem) : run [] cs = some cs := rfl

@[simp] theorem run_cons (event : SolverEvent) (rest : List SolverEvent) (cs : ConstraintSystem) :
    run (event :: rest) cs = (event.apply cs).bind (run rest) := rfl

theorem run_append (first second : List SolverEvent) (cs : ConstraintSystem) :
    run (first ++ second) cs = (run first cs).bind (run second) := by
  induction first generalizing cs with
  | nil => rfl
  | cons event rest ih =>
    simp only [List.cons_append, run_cons, ih]
    cases event.apply cs <;> rfl

/-- Runs that close every scope they open, innermost first. -/
inductive Balanced : List SolverEvent → Prop
  | nil : Balanced []
  | mutate (mutation : Mutation) {rest : List SolverEvent} :
      Balanced rest → Balanced (.mutate mutation :: rest)
  | scope {inner rest : List SolverEvent} :
      Balanced inner → Balanced rest → Balanced (.openScope :: inner ++ .closeScope :: rest)

/-- Runs that never close a scope they did not open: a balanced run, or a balanced run that
opens a scope and continues inside it. -/
inductive Branch : List SolverEvent → Prop
  | balanced {events : List SolverEvent} : Balanced events → Branch events
  | enter {events rest : List SolverEvent} :
      Balanced events → Branch rest → Branch (events ++ .openScope :: rest)

/-- Split a run of a balanced block and what follows it. -/
theorem run_scope_block {inner rest : List SolverEvent} {cs cs' : ConstraintSystem}
    (ran : run (.openScope :: inner ++ .closeScope :: rest) cs = some cs') :
    ∃ opened inside closed, cs.openScope = some opened ∧ run inner opened = some inside ∧
      inside.closeScope = some closed ∧ run rest closed = some cs' := by
  simp only [List.cons_append, run_cons, SolverEvent.apply, run_append, Option.bind_eq_some] at ran
  obtain ⟨opened, isOpened, inside, ranInner, closed, isClosed, ranRest⟩ := ran
  exact ⟨opened, inside, closed, isOpened, ranInner, isClosed, ranRest⟩

end Constraints
