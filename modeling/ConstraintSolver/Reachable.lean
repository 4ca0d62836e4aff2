import ConstraintSolver.Attempt

/-! # The states a constraint system passes through

A constraint system is constructed empty, gains type variables and constraints, and is solved:
`SolverState::SolverState` attaches a solver state, the solver's steps mutate the system inside
scopes, and `SolverState::~SolverState` detaches the state again. `Constraints.Reachable`
collects every state this can lead to, from any environment, through any order of the
mutations, of the construction and destruction of scopes and solver states, and of changes of
phase. `Constraints.Invariant` packages the induction once: a
property of the empty system that each of these steps keeps holds in every reachable state.

Two invariants of the solver's bookkeeping are proved here.

* The constraint lists stay well formed (`Constraints.reachable_lists_wellFormed`): no constraint
  is in two of the active, inactive and retired lists or twice in one, and a constraint is
  flagged active exactly when it is in the active list.
* Every open scope recorded sizes no larger than the current ones, and no smaller than those of
  the scopes outside it (`Constraints.reachable_scopes_within`). So each `truncate` in
  `SolverScope::~SolverScope` is a truncation, as its assertion requires, the count that
  `restoreTypeVariableBindings` receives does not wrap, and destroying the innermost scope
  leaves every journaled list at exactly the size it recorded, with the score it recorded.
-/

namespace Constraints

open Relation
open scoped List

/-- The states a constraint system reaches from its construction. -/
inductive Reachable : ConstraintSystem → Prop
  | empty (env : Environment) : Reachable (.empty env)
  | event {cs cs' : ConstraintSystem} (event : SolverEvent) :
      Reachable cs → event.apply cs = some cs' → Reachable cs'
  | attachSolverState {cs cs' : ConstraintSystem} (allowFreeTypeVariables : FreeTypeVariableBinding) :
      Reachable cs → cs.attachSolverState allowFreeTypeVariables = some cs' → Reachable cs'
  | detachSolverState {cs cs' : ConstraintSystem} :
      Reachable cs → cs.detachSolverState = some cs' → Reachable cs'
  | setPhase {cs : ConstraintSystem} (phase : ConstraintSystemPhase) :
      Reachable cs → Reachable { cs with phase := phase }

namespace Reachable

variable {cs cs' : ConstraintSystem}

theorem run (reachable : Reachable cs) {events : List SolverEvent}
    (ran : Constraints.run events cs = some cs') : Reachable cs' := by
  induction events generalizing cs with
  | nil => cases ran; exact reachable
  | cons event rest ih =>
    obtain ⟨middle, first, second⟩ := Option.bind_eq_some.mp ran
    exact ih (reachable.event event first) second

end Reachable

/-- The obligations of an invariant of the reachable states: it holds of every empty system, and
every way of moving on keeps it. -/
structure Invariant (P : ConstraintSystem → Prop) : Prop where
  empty : ∀ env, P (.empty env)
  mutate : ∀ {cs cs' : ConstraintSystem} (mutation : Mutation), P cs →
    mutation.apply cs = some cs' → P cs'
  openScope : ∀ {cs cs' : ConstraintSystem}, P cs → cs.openScope = some cs' → P cs'
  closeScope : ∀ {cs cs' : ConstraintSystem}, P cs → cs.closeScope = some cs' → P cs'
  attachSolverState : ∀ {cs cs' : ConstraintSystem} (allowFreeTypeVariables : FreeTypeVariableBinding),
    P cs → cs.attachSolverState allowFreeTypeVariables = some cs' → P cs'
  detachSolverState : ∀ {cs cs' : ConstraintSystem}, P cs → cs.detachSolverState = some cs' → P cs'
  setPhase : ∀ {cs : ConstraintSystem} (phase : ConstraintSystemPhase), P cs →
    P { cs with phase := phase }

/-- An invariant holds in every reachable state. -/
theorem Invariant.reachable {P : ConstraintSystem → Prop} (invariant : Invariant P)
    {cs : ConstraintSystem} (reachable : Reachable cs) : P cs := by
  induction reachable with
  | empty env => exact invariant.empty env
  | event event _ applied ih =>
    cases event with
    | mutate mutation => exact invariant.mutate mutation ih applied
    | openScope => exact invariant.openScope ih applied
    | closeScope => exact invariant.closeScope ih applied
  | attachSolverState allowFreeTypeVariables _ attached ih =>
    exact invariant.attachSolverState allowFreeTypeVariables ih attached
  | detachSolverState _ detached ih => exact invariant.detachSolverState ih detached
  | setPhase phase _ ih => exact invariant.setPhase phase ih

/-! ## The constraint lists stay well formed -/

section Lists

variable {cs cs' : ConstraintSystem}

/-- Without a solver state, a removed constraint leaves every list. -/
theorem removeInactiveConstraint_wellFormed {constraint : Nat} (wellFormed : ListsWellFormed cs)
    (removed : cs.removeInactiveConstraint constraint = some cs') : ListsWellFormed cs' := by
  cases isState : cs.solverState with
  | some state => exact (removeInactiveConstraint_lists (by simp [isState]) wellFormed removed).1
  | none =>
    obtain ⟨-, rfl⟩ := ConstraintSystem.removeInactiveConstraint_eq_some _ removed
    have kept : cs.activeConstraints ++ cs.inactiveConstraints.erase constraint <+
        cs.activeConstraints ++ cs.inactiveConstraints :=
      (List.erase_sublist _ _).append_left _
    refine ⟨?_, wellFormed.isActive_iff⟩
    simpa [ConstraintSystem.retiredConstraints, isState] using
      kept.nodup (by simpa [ConstraintSystem.retiredConstraints, isState] using wellFormed.nodup)

/-- Without a solver state, a new constraint only joins the inactive list. -/
theorem addUnsolvedConstraint_wellFormed {constraint : Nat} (wellFormed : ListsWellFormed cs)
    (added : cs.addUnsolvedConstraint constraint = some cs') : ListsWellFormed cs' := by
  cases isState : cs.solverState with
  | some state => exact (addUnsolvedConstraint_lists (by simp [isState]) wellFormed added).1
  | none =>
    obtain ⟨notActive, notInactive, -, rfl⟩ := ConstraintSystem.addUnsolvedConstraint_eq_some _ added
    have moved : (cs.activeConstraints ++ (cs.inactiveConstraints ++ [constraint])).Perm
        (constraint :: (cs.activeConstraints ++ cs.inactiveConstraints)) := by
      simpa only [← List.append_assoc] using List.perm_append_singleton _ _
    have nodup : (cs.activeConstraints ++ cs.inactiveConstraints).Nodup := by
      simpa [ConstraintSystem.retiredConstraints, isState] using wellFormed.nodup
    refine ⟨?_, wellFormed.isActive_iff⟩
    simpa [ConstraintSystem.retiredConstraints, isState] using
      moved.nodup_iff.mpr (List.nodup_cons.mpr ⟨by simp [notActive, notInactive], nodup⟩)

theorem wellFormed_of_same (after : ConstraintSystem) (wellFormed : ListsWellFormed cs)
    (active : after.activeConstraints = cs.activeConstraints)
    (inactive : after.inactiveConstraints = cs.inactiveConstraints)
    (state : after.solverState.map SolverState.constraintLists =
      cs.solverState.map SolverState.constraintLists)
    (flags : ∀ constraint,
      (after.constraints constraint).isActive = (cs.constraints constraint).isActive) :
    ListsWellFormed after :=
  (lists_of_same after wellFormed active inactive state flags).1

/-- Every elementary change keeps the lists well formed, with or without a solver state. -/
theorem Change.listsWellFormed (wellFormed : ListsWellFormed cs) : Change cs cs' → ListsWellFormed cs'
  | .writeTypeVariable _ v record => wellFormed_of_same _ wellFormed rfl rfl
      (state_map_constraintLists _ fun _ => rfl) fun _ => rfl
  | .createRecord .. | .setType .. | .recordFailure .. =>
    wellFormed_of_same _ wellFormed rfl rfl rfl fun _ => rfl
  | .extendTables _ rest | .raiseScore _ rest => by
    rw [rest]
    exact wellFormed_of_same _ wellFormed rfl rfl rfl fun _ => rfl
  | .favorConstraint _ constraint | .disableConstraint _ constraint => wellFormed_of_same _
      wellFormed rfl rfl (state_map_constraintLists _ fun _ => rfl) (isActive_setFlags rfl)
  | .activateConstraint _ activated => (activateConstraint_lists wellFormed activated).1
  | .deactivateConstraint _ deactivated => (deactivateConstraint_lists wellFormed deactivated).1
  | .removeInactiveConstraint _ removed => removeInactiveConstraint_wellFormed wellFormed removed
  | .addUnsolvedConstraint _ added => addUnsolvedConstraint_wellFormed wellFormed added

theorem Changes.listsWellFormed (wellFormed : ListsWellFormed cs) (changes : Changes cs cs') :
    ListsWellFormed cs' := by
  induction changes with
  | refl => exact wellFormed
  | tail _ last ih => exact last.listsWellFormed ih

theorem Mutation.listsWellFormed (mutation : Mutation) (wellFormed : ListsWellFormed cs)
    (applied : mutation.apply cs = some cs') : ListsWellFormed cs' := by
  rcases mutation.changes applied with changes | ⟨solution, -, finalized⟩ | ⟨_, -, rfl⟩
  · exact changes.listsWellFormed wellFormed
  rotate_left
  · exact wellFormed_of_same _ wellFormed rfl rfl rfl (isActive_setFlags rfl)
  obtain ⟨state, isState, changes, -⟩ := finalize_eq_some finalized
  refine changes.listsWellFormed ?_
  exact wellFormed_of_same _ wellFormed rfl rfl (by simp [isState, SolverState.constraintLists])
    fun _ => rfl

/-- Destroying a scope keeps the lists well formed: the active constraints and those retired
since join the inactive list, and those generated since leave it. -/
theorem unwindScope_wellFormed {state : SolverState} (wellFormed : ListsWellFormed cs)
    (isState : cs.solverState = some state) (scope : SolverScope) (outer : List SolverScope) :
    ListsWellFormed (cs.unwindScope state scope outer) := by
  have retired : cs.retiredConstraints = state.retiredConstraints := by
    simp [ConstraintSystem.retiredConstraints, isState]
  set since := state.retiredConstraints.length - scope.numRetiredConstraints
  have split : (cs.inactiveConstraints ++ cs.activeConstraints ++
      state.retiredConstraints.take since ++ state.retiredConstraints.drop since).Perm
      (cs.activeConstraints ++ cs.inactiveConstraints ++ cs.retiredConstraints) := by
    rw [List.append_assoc _ (List.take _ _), List.take_append_drop, retired]
    exact List.perm_append_comm.append_right _
  refine ⟨?_, fun constraint => ?_⟩
  · simpa [ConstraintSystem.unwindScope, ConstraintSystem.rollback,
      ConstraintSystem.retiredConstraints] using
      ((List.diff_sublist _ _).append_right _).nodup (split.nodup_iff.mpr wellFormed.nodup)
  · have flag := wellFormed.isActive_iff constraint
    cases h : (cs.constraints constraint).isActive <;>
      simp_all [ConstraintSystem.unwindScope, ConstraintSystem.rollback]

theorem reactivate_solverState : ∀ {todo : List Nat} {cs cs' : ConstraintSystem},
    reactivate todo cs = some cs' → cs'.solverState = cs.solverState
  | [], _, _, reactivated => by cases reactivated; rfl
  | constraint :: rest, cs, cs', reactivated => by
    obtain ⟨middle, first, second⟩ := Option.bind_eq_some.mp reactivated
    refine (reactivate_solverState second).trans ?_
    split at first
    · cases first
      rfl
    · obtain ⟨-, -, rfl⟩ := ConstraintSystem.activateConstraint_eq_some _ first
      rfl

theorem reactivate_wellFormed : ∀ {todo : List Nat} {cs cs' : ConstraintSystem},
    ListsWellFormed cs → reactivate todo cs = some cs' → ListsWellFormed cs'
  | [], _, _, wellFormed, reactivated => by cases reactivated; exact wellFormed
  | constraint :: rest, cs, cs', wellFormed, reactivated => by
    obtain ⟨middle, first, second⟩ := Option.bind_eq_some.mp reactivated
    refine reactivate_wellFormed ?_ second
    split at first
    · cases first
      exact wellFormed
    · exact (activateConstraint_lists wellFormed first).1

/-- `SolverState::~SolverState` asserts that the retired and generated lists are empty, and
leaves no solver state. -/
theorem detachSolverState_eq_some (detached : cs.detachSolverState = some cs') :
    ∃ state, cs.solverState = some state ∧ state.retiredConstraints = [] ∧
      reactivate state.activeConstraints { cs with solverState := none } = some cs' := by
  obtain ⟨state, isState, detached⟩ := Option.bind_eq_some.mp detached
  split at detached
  · rename_i empty
    exact ⟨state, isState, List.isEmpty_iff.mp (Bool.and_eq_true _ _ ▸ empty).1, detached⟩
  · cases detached

theorem detachSolverState_solverState (detached : cs.detachSolverState = some cs') :
    cs'.solverState = none := by
  obtain ⟨_, -, -, reactivated⟩ := detachSolverState_eq_some detached
  exact reactivate_solverState reactivated

theorem detachSolverState_wellFormed (wellFormed : ListsWellFormed cs)
    (detached : cs.detachSolverState = some cs') : ListsWellFormed cs' := by
  obtain ⟨state, isState, retired, reactivated⟩ := detachSolverState_eq_some detached
  have dropped : ListsWellFormed { cs with solverState := none } :=
    ⟨by simpa [ConstraintSystem.retiredConstraints, isState, retired] using wellFormed.nodup,
      wellFormed.isActive_iff⟩
  exact reactivate_wellFormed dropped reactivated

/-- The lists are well formed in the empty system and every step keeps them so. -/
theorem listsWellFormed_invariant : Invariant ListsWellFormed where
  empty _ := ⟨by simp [ConstraintSystem.empty, ConstraintSystem.retiredConstraints], by
    simp [ConstraintSystem.empty]⟩
  mutate mutation wellFormed applied := mutation.listsWellFormed wellFormed applied
  openScope wellFormed opened := (openScope_lists opened wellFormed).2.1
  closeScope wellFormed closed := by
    obtain ⟨state, scope, outer, isState, -, rfl⟩ := closeScope_eq_some closed
    exact unwindScope_wellFormed wellFormed isState scope outer
  attachSolverState _ wellFormed attached := by
    obtain ⟨noState, rfl⟩ := attachSolverState_eq_some attached
    exact ⟨by simpa [ConstraintSystem.retiredConstraints, noState, SolverState.initial] using
      wellFormed.nodup, wellFormed.isActive_iff⟩
  detachSolverState wellFormed detached := detachSolverState_wellFormed wellFormed detached
  setPhase _ wellFormed := ⟨wellFormed.nodup, wellFormed.isActive_iff⟩

/-- **The constraint lists are well formed in every reachable state.** No constraint is in two
of the active, inactive and retired lists or twice in one, and a constraint is flagged active
exactly when it is in the active list. -/
theorem reachable_lists_wellFormed {cs : ConstraintSystem} (reachable : Reachable cs) :
    ListsWellFormed cs :=
  listsWellFormed_invariant.reachable reachable

/-- The solver state of a fresh attempt on the empty system, with one scope open. -/
def openedAttempt : SolverState :=
  { SolverState.initial .allow [] with
    scopes := [(ConstraintSystem.empty .trivial).snapshot (.initial .allow [])] }

/-- That attempt after a fix was recorded inside the scope. -/
def fixedInScope : ConstraintSystem :=
  { ConstraintSystem.empty .trivial with fixes := [7], solverState := some openedAttempt }

theorem reachable_lists_wellFormed_fixedInScope : ListsWellFormed fixedInScope :=
  reachable_lists_wellFormed ((((Reachable.empty .trivial).attachSolverState .allow rfl).event
    .openScope rfl).event (.mutate (.recordFix 7)) rfl)

end Lists

/-! ## Open scopes record sizes no larger than the current ones -/

/-- Each size `mark` records is at most the one `current` records, the score apart. For the
sizes of a scope and the snapshot of the current system, this is what the assertions of
`truncate` in `SolverScope::~SolverScope` require, and what keeps the counts of bindings to
restore and of constraints to roll back from wrapping. -/
def SolverScope.Within (mark current : SolverScope) : Prop :=
  mark.numTypeVariables ≤ current.numTypeVariables ∧
  mark.numSavedBindings ≤ current.numSavedBindings ∧
  mark.numConstraintRestrictions ≤ current.numConstraintRestrictions ∧
  mark.numFixes ≤ current.numFixes ∧
  mark.numFixedRequirements ≤ current.numFixedRequirements ∧
  mark.numDisjunctionChoices ≤ current.numDisjunctionChoices ∧
  mark.numTrailingClosureMatchingChoices ≤ current.numTrailingClosureMatchingChoices ∧
  mark.numOpenedTypes ≤ current.numOpenedTypes ∧
  mark.numOpenedExistentialTypes ≤ current.numOpenedExistentialTypes ∧
  mark.numDefaultedConstraints ≤ current.numDefaultedConstraints ∧
  mark.numAddedNodeTypes ≤ current.numAddedNodeTypes ∧
  mark.numCheckedConformances ≤ current.numCheckedConformances ∧
  mark.numDisabledConstraints ≤ current.numDisabledConstraints ∧
  mark.numFavoredConstraints ≤ current.numFavoredConstraints ∧
  mark.numFunctionBuilderTransformed ≤ current.numFunctionBuilderTransformed ∧
  mark.numResolvedOverloads ≤ current.numResolvedOverloads ∧
  mark.numInferredClosureTypes ≤ current.numInferredClosureTypes ∧
  mark.numContextualTypes ≤ current.numContextualTypes ∧
  mark.numSolutionApplicationTargets ≤ current.numSolutionApplicationTargets ∧
  mark.numCaseLabelItems ≤ current.numCaseLabelItems ∧
  mark.numRetiredConstraints ≤ current.numRetiredConstraints ∧
  mark.numGeneratedConstraints ≤ current.numGeneratedConstraints

namespace SolverScope.Within

theorem refl (scope : SolverScope) : scope.Within scope := by
  simp [Within]

theorem trans {a b c : SolverScope} (first : a.Within b) (second : b.Within c) : a.Within c := by
  unfold Within at *
  -- chain the two bounds of each size
  casesm* _ ∧ _
  repeat' apply And.intro
  all_goals exact Nat.le_trans ‹_› ‹_›

end SolverScope.Within

section Sizes

variable {cs cs' : ConstraintSystem}

/-- What the system after a change shows of its solver state: it had one before, with the same
scopes, and the sizes only grew. -/
def Grows (cs cs' : ConstraintSystem) : Prop :=
  ∀ state', cs'.solverState = some state' → ∃ state, cs.solverState = some state ∧
    state'.scopes = state.scopes ∧ (cs.snapshot state).Within (cs'.snapshot state')

theorem Grows.refl (cs : ConstraintSystem) : Grows cs cs :=
  fun state' isState' => ⟨state', isState', rfl, .refl _⟩

theorem Grows.trans {a b c : ConstraintSystem} (first : Grows a b) (second : Grows b c) :
    Grows a c := fun state'' isState'' => by
  obtain ⟨state', isState', scopes', grown'⟩ := second state'' isState''
  obtain ⟨state, isState, scopes, grown⟩ := first state' isState'
  exact ⟨state, isState, scopes'.trans scopes, grown.trans grown'⟩

/-- A change that keeps the solver state and the sizes. -/
theorem Grows.of_same (state : cs'.solverState = cs.solverState)
    (sizes : ∀ state, (cs.snapshot state).Within (cs'.snapshot state)) : Grows cs cs' :=
  fun state' isState' => ⟨state', state ▸ isState', rfl, sizes state'⟩

/-- A change of the solver state's journals by `update`, which keeps the scopes and grows the
sizes. -/
theorem Grows.of_update (update : SolverState → SolverState)
    (state : cs'.solverState = cs.solverState.map update)
    (scopes : ∀ state, (update state).scopes = state.scopes)
    (sizes : ∀ state, (cs.snapshot state).Within (cs'.snapshot (update state))) : Grows cs cs' :=
  fun state' isState' => by
    obtain ⟨state, isState, rfl⟩ := Option.map_eq_some'.mp (state ▸ isState')
    exact ⟨state, isState, scopes state, sizes state⟩

/-- **Every elementary change only grows the sizes**, and keeps the scopes. -/
theorem Change.grows : Change cs cs' → Grows cs cs'
  | .writeTypeVariable _ v record => .of_update _ rfl (fun _ => rfl) fun _ => by
      simp [SolverScope.Within, ConstraintSystem.snapshot, ConstraintSystem.writeTypeVariable]
  | .createRecord .. | .setType .. | .recordFailure .. =>
    .of_same rfl fun _ => by
      simp [SolverScope.Within, ConstraintSystem.snapshot, ConstraintSystem.setType]
  | .extendTables extends_ rest => by
    rw [rest]
    obtain ⟨h1, h2, h3, h4, h5, h6, h7, h8, h9, h10, h11, h12, h13, h14, h15, h16⟩ := extends_
    exact .of_same rfl fun _ => ⟨h1.length_le, le_rfl, h3.length_le, h4.length_le, h5.length_le,
      h6.length_le, h7.length_le, h8.length_le, h9.length_le, h10.length_le, le_rfl,
      h11.length_le, le_rfl, le_rfl, h12.length_le, h2.length_le, h13.length_le, h14.length_le,
      h15.length_le, h16.length_le, le_rfl, le_rfl⟩
  | .raiseScore _ rest => by
    rw [rest]
    exact .of_same rfl fun _ => .refl _
  | .activateConstraint _ activated => by
    obtain ⟨-, -, rfl⟩ := ConstraintSystem.activateConstraint_eq_some _ activated
    exact .of_same rfl fun _ => .refl _
  | .deactivateConstraint _ deactivated => by
    obtain ⟨-, -, rfl⟩ := ConstraintSystem.deactivateConstraint_eq_some _ deactivated
    exact .of_same rfl fun _ => .refl _
  | .removeInactiveConstraint _ removed => by
    obtain ⟨-, rfl⟩ := ConstraintSystem.removeInactiveConstraint_eq_some _ removed
    exact .of_update _ rfl (fun _ => rfl) fun _ => by
      simp [SolverScope.Within, ConstraintSystem.snapshot]
  | .addUnsolvedConstraint _ added => by
    obtain ⟨-, -, -, rfl⟩ := ConstraintSystem.addUnsolvedConstraint_eq_some _ added
    exact .of_update _ rfl (fun _ => rfl) fun _ => by
      simp [SolverScope.Within, ConstraintSystem.snapshot]
  | .favorConstraint .. | .disableConstraint .. => .of_update _ rfl (fun _ => rfl) fun _ => by
      simp [SolverScope.Within, ConstraintSystem.snapshot, ConstraintSystem.favorConstraint,
        ConstraintSystem.disableConstraint, ConstraintSystem.setFlags]

theorem Changes.grows (changes : Changes cs cs') : Grows cs cs' := by
  induction changes with
  | refl => exact .refl _
  | tail _ last ih => exact ih.trans last.grows

theorem Mutation.grows (mutation : Mutation) (applied : mutation.apply cs = some cs') :
    Grows cs cs' := by
  rcases mutation.changes applied with changes | ⟨solution, -, finalized⟩ | ⟨_, -, rfl⟩
  · exact changes.grows
  rotate_left
  · exact .of_same rfl fun _ => .refl _
  obtain ⟨state, isState, changes, -⟩ := finalize_eq_some finalized
  have lowered : Grows cs { cs with solverState := some { state with
      bestScore := some (ConstraintSystem.nextBestScore cs.currentScore state.bestScore) } } :=
    .of_update (fun state => { state with
      bestScore := some (ConstraintSystem.nextBestScore cs.currentScore state.bestScore) })
      (by rw [isState]; rfl) (fun _ => rfl) fun _ => .refl _
  exact lowered.trans changes.grows

/-- Every open scope recorded sizes no larger than the current ones, and no smaller than those
the scopes outside it recorded. -/
def ScopesWithin (cs : ConstraintSystem) : Prop :=
  ∀ state, cs.solverState = some state →
    (∀ scope ∈ state.scopes, scope.Within (cs.snapshot state)) ∧
      state.scopes.Pairwise fun inner outer => outer.Within inner

/-- Destroying a scope whose sizes are within the current ones leaves every journaled list at
exactly the size the scope recorded, and the score it recorded. -/
theorem unwindScope_snapshot {state : SolverState} {scope : SolverScope} (outer : List SolverScope)
    (within : scope.Within (cs.snapshot state)) :
    ∃ closedState, (cs.unwindScope state scope outer).solverState = some closedState ∧
      closedState.scopes = outer ∧ (cs.unwindScope state scope outer).snapshot closedState = scope := by
  refine ⟨_, rfl, rfl, ?_⟩
  cases scope
  simp only [SolverScope.Within, ConstraintSystem.snapshot] at within
  simp (disch := omega) only [ConstraintSystem.unwindScope, ConstraintSystem.rollback,
    ConstraintSystem.snapshot, truncate,
    List.length_take_of_le, List.length_drop, SolverScope.mk.injEq, true_and, and_true]
  omega

/-- Open scopes stay within the current sizes in every reachable state. -/
theorem scopesWithin_invariant : Invariant ScopesWithin where
  empty _ _ isState := by cases isState
  mutate mutation within applied state' isState' := by
    obtain ⟨state, isState, scopes, grown⟩ := mutation.grows applied state' isState'
    obtain ⟨inside, nested⟩ := within state isState
    rw [scopes]
    exact ⟨fun scope member => (inside scope member).trans grown, nested⟩
  openScope within opened state' isState' := by
    obtain ⟨state, isState, -, rfl⟩ := openScope_eq_some opened
    cases isState'
    obtain ⟨inside, nested⟩ := within state isState
    exact ⟨List.forall_mem_cons.mpr ⟨.refl _, inside⟩, List.pairwise_cons.mpr ⟨inside, nested⟩⟩
  closeScope within closed state' isState' := by
    obtain ⟨state, scope, outer, isState, top, rfl⟩ := closeScope_eq_some closed
    obtain ⟨inside, nested⟩ := within state isState
    rw [top] at inside nested
    obtain ⟨closedState, isClosed, scopes, restored⟩ :=
      unwindScope_snapshot outer (inside scope (List.mem_cons_self _ _))
    cases isClosed.symm.trans isState'
    rw [restored, scopes]
    exact List.pairwise_cons.mp nested
  attachSolverState _ _ attached state' isState' := by
    obtain ⟨-, rfl⟩ := attachSolverState_eq_some attached
    cases isState'
    simp [SolverState.initial]
  detachSolverState _ detached state' isState' := by
    rw [detachSolverState_solverState detached] at isState'
    cases isState'
  setPhase _ within := within

/-- **Open scopes stay within the current sizes.** In every reachable state with a solver state,
every open scope recorded sizes no larger than the current ones, so each `truncate` of its
destructor is a truncation and the counts of bindings to restore and constraints to roll back do
not wrap. Destroying the innermost scope succeeds and leaves every journaled list at exactly the
size that scope recorded, with the score it recorded, and the scopes outside it open. -/
theorem reachable_scopes_within {cs : ConstraintSystem} (reachable : Reachable cs)
    {state : SolverState} (isState : cs.solverState = some state) :
    (∀ scope ∈ state.scopes, scope.Within (cs.snapshot state)) ∧
      ∀ scope outer, state.scopes = scope :: outer →
        ∃ closed closedState, cs.closeScope = some closed ∧
          closed.solverState = some closedState ∧ closedState.scopes = outer ∧
          closed.snapshot closedState = scope := by
  obtain ⟨inside, -⟩ := scopesWithin_invariant.reachable reachable state isState
  refine ⟨inside, fun scope outer top => ?_⟩
  obtain ⟨closedState, isClosed, scopes, restored⟩ :=
    unwindScope_snapshot outer (inside scope (top ▸ List.mem_cons_self _ _))
  exact ⟨_, closedState, by simp [ConstraintSystem.closeScope, isState, top], isClosed, scopes,
    restored⟩

theorem reachable_scopes_within_fixedInScope :
    (∀ scope ∈ openedAttempt.scopes, scope.Within (fixedInScope.snapshot openedAttempt)) ∧
      ∀ scope outer, openedAttempt.scopes = scope :: outer →
        ∃ closed closedState, fixedInScope.closeScope = some closed ∧
          closed.solverState = some closedState ∧ closedState.scopes = outer ∧
          closed.snapshot closedState = scope :=
  reachable_scopes_within ((((Reachable.empty .trivial).attachSolverState .allow rfl).event
    .openScope rfl).event (.mutate (.recordFix 7)) rfl) rfl

end Sizes

end Constraints
