import ConstraintSolver.Undo
import ConstraintSolver.Pruning

/-! # A solving attempt gives its constraints back

`SolverState::SolverState` records the active constraints, `solveImpl` runs the solver's steps
inside one `SolverScope`, and `SolverState::~SolverState` asserts that no retired or generated
constraint is left over and activates again each recorded constraint that is no longer active.

Inside a scope every elementary change moves a constraint between the active, inactive and
retired lists, or adds a generated constraint, so that these lists hold the constraints of
before together with the generated ones (`Constraints.ListsMoved`); destroying the scope gives
the retired constraints back and drops the generated ones. After the attempt the active list is
the recorded one, the inactive list holds the other constraints of before, and the activity
flags agree with the lists (`Constraints.attempt_restores_lists`).
-/

namespace Constraints

open Relation
open scoped List

/-! ## Attaching and detaching the solver state -/

namespace ConstraintSystem

variable (cs : ConstraintSystem)

/-- The constraints the solver state recorded as active when it was constructed. -/
def recordedActive : List Nat := (cs.solverState.map (·.activeConstraints)).getD []

/-- `SolverState::SolverState`: attach a solver state that records the active constraints; the
system must not have one already. -/
def attachSolverState (allowFreeTypeVariables : FreeTypeVariableBinding) :
    Option ConstraintSystem :=
  if cs.solverState.isSome then none
  else some { cs with solverState := some (.initial allowFreeTypeVariables cs.activeConstraints) }

end ConstraintSystem

/-- The loop of `SolverState::~SolverState`: activate again, in order, each recorded
constraint that is not active. -/
def reactivate : List Nat → ConstraintSystem → Option ConstraintSystem
  | [], cs => some cs
  | constraint :: rest, cs =>
    (if (cs.constraints constraint).isActive then some cs
      else cs.activateConstraint constraint).bind (reactivate rest)

namespace ConstraintSystem

variable (cs : ConstraintSystem)

/-- `SolverState::~SolverState`: detach the solver state, asserting that every retired
constraint was given back and every generated one dropped, then activate the recorded
constraints again. -/
def detachSolverState : Option ConstraintSystem :=
  cs.solverState.bind fun state =>
    if state.retiredConstraints.isEmpty && state.generatedConstraints.isEmpty then
      reactivate state.activeConstraints { cs with solverState := none }
    else none

/-- `ConstraintSystem::solveImpl`: enter the solving phase and, unless constraint generation
already failed, run the solver's steps inside one scope; the phase is finalization on the way
out. The steps (the `SplitterStep` and the steps it spawns) are given as the events they
perform. -/
def solveImpl (steps : List SolverEvent) : Option ConstraintSystem :=
  if cs.solverState.isNone then none
  else if cs.failedConstraint.isSome then some { cs with phase := .finalization }
  else do
    let opened ← { cs with phase := .solving }.openScope
    let ran ← run steps opened
    let closed ← ran.closeScope
    pure { closed with phase := .finalization }

end ConstraintSystem

/-! ## The invariants of the lists -/

/-- The constraint lists are well formed: no constraint is in two of them or twice in one, and a
constraint is flagged active exactly when it is in the active list. -/
structure ListsWellFormed (cs : ConstraintSystem) : Prop where
  nodup : (cs.activeConstraints ++ cs.inactiveConstraints ++ cs.retiredConstraints).Nodup
  isActive_iff : ∀ constraint,
    (cs.constraints constraint).isActive = true ↔ constraint ∈ cs.activeConstraints

/-- The lists of `after` come from those of `before` by moves and additions: `retiredSince` were
retired on top of the retired constraints of `before`, `generatedSince` were generated after
its generated ones, and the active, inactive and newly retired constraints are those of
`before` with the generated ones. The recorded active constraints stay. -/
structure ListsMoved (before after : ConstraintSystem) (retiredSince generatedSince : List Nat) :
    Prop where
  retired : after.retiredConstraints = retiredSince ++ before.retiredConstraints
  generated : after.generatedConstraints = before.generatedConstraints ++ generatedSince
  perm : (after.activeConstraints ++ after.inactiveConstraints ++ retiredSince).Perm
    (before.activeConstraints ++ before.inactiveConstraints ++ generatedSince)
  recorded : after.recordedActive = before.recordedActive

/-- The lists the solver state keeps. -/
def SolverState.constraintLists (state : SolverState) : List Nat × List Nat × List Nat :=
  (state.retiredConstraints, state.generatedConstraints, state.activeConstraints)

namespace ListsMoved

theorem refl (cs : ConstraintSystem) : ListsMoved cs cs [] [] where
  retired := rfl
  generated := (List.append_nil _).symm
  perm := .refl _
  recorded := rfl

theorem trans {a b c : ConstraintSystem} {retired₁ generated₁ retired₂ generated₂ : List Nat}
    (first : ListsMoved a b retired₁ generated₁) (second : ListsMoved b c retired₂ generated₂) :
    ListsMoved a c (retired₂ ++ retired₁) (generated₁ ++ generated₂) where
  retired := by rw [second.retired, first.retired, List.append_assoc]
  generated := by rw [second.generated, first.generated, List.append_assoc]
  perm := by
    have swapped : ∀ x y z : List Nat, (x ++ y ++ z).Perm (x ++ z ++ y) := fun x _ _ => by
      simpa only [List.append_assoc] using List.perm_append_comm.append_left x
    simp only [← List.append_assoc]
    exact ((second.perm.append_right _).trans (swapped _ _ _)).trans (first.perm.append_right _)
  recorded := second.recorded.trans first.recorded

end ListsMoved

section

variable {cs cs' : ConstraintSystem}

/-- A change that leaves the lists, the lists of the solver state and the activity flags alone
keeps the invariants and moves nothing. -/
theorem lists_of_same (after : ConstraintSystem) (wellFormed : ListsWellFormed cs)
    (active : after.activeConstraints = cs.activeConstraints)
    (inactive : after.inactiveConstraints = cs.inactiveConstraints)
    (state : after.solverState.map SolverState.constraintLists =
      cs.solverState.map SolverState.constraintLists)
    (flags : ∀ constraint,
      (after.constraints constraint).isActive = (cs.constraints constraint).isActive) :
    ListsWellFormed after ∧ ListsMoved cs after [] [] := by
  have kept : after.retiredConstraints = cs.retiredConstraints ∧
      after.generatedConstraints = cs.generatedConstraints ∧
      after.recordedActive = cs.recordedActive := by
    cases h' : after.solverState <;> cases h : cs.solverState <;>
      simp_all [ConstraintSystem.retiredConstraints, ConstraintSystem.generatedConstraints,
        ConstraintSystem.recordedActive, SolverState.constraintLists]
  refine ⟨⟨?_, fun constraint => ?_⟩, ⟨?_, ?_, ?_, kept.2.2⟩⟩
  · rw [active, inactive, kept.1]
    exact wellFormed.nodup
  · rw [flags, active]
    exact wellFormed.isActive_iff constraint
  · rw [kept.1, List.nil_append]
  · rw [kept.2.1, List.append_nil]
  · rw [active, inactive]

theorem state_map_constraintLists (update : SolverState → SolverState)
    (keeps : ∀ state, (update state).constraintLists = state.constraintLists) :
    (cs.solverState.map update).map SolverState.constraintLists =
      cs.solverState.map SolverState.constraintLists := by
  cases cs.solverState <;> simp [keeps]

theorem isActive_setFlags {constraint : Nat} {flags : ConstraintFlags}
    (same : flags.isActive = (cs.constraints constraint).isActive) (other : Nat) :
    ((cs.setFlags constraint flags).constraints other).isActive = (cs.constraints other).isActive := by
  by_cases here : other = constraint
  · subst here
    simpa [ConstraintSystem.setFlags] using same
  · simp [ConstraintSystem.setFlags, Function.update_noteq here]

theorem nodup_active_append (wellFormed : ListsWellFormed cs) :
    (cs.activeConstraints ++ cs.inactiveConstraints).Nodup :=
  wellFormed.nodup.sublist (List.sublist_append_left _ _)

/-- The lists after `activateConstraint` are a permutation of those before. -/
theorem perm_activate {active inactive : List Nat} {constraint : Nat}
    (member : constraint ∈ inactive) :
    (active ++ [constraint] ++ inactive.erase constraint).Perm (active ++ inactive) := by
  simpa only [List.append_assoc, List.singleton_append] using
    (List.perm_cons_erase member).symm.append_left active

/-- The lists after `deactivateConstraint` are a permutation of those before. -/
theorem perm_deactivate {active inactive : List Nat} {constraint : Nat}
    (member : constraint ∈ active) :
    (active.erase constraint ++ (inactive ++ [constraint])).Perm (active ++ inactive) := by
  rw [← List.append_assoc]
  exact (List.perm_append_singleton _ _).trans ((List.perm_cons_erase member).symm.append_right _)

/-- The lists after `removeInactiveConstraint` are a permutation of those before. -/
theorem perm_remove {active inactive : List Nat} {constraint : Nat}
    (member : constraint ∈ inactive) :
    (active ++ inactive.erase constraint ++ [constraint]).Perm (active ++ inactive) := by
  simpa only [List.append_assoc] using
    ((List.perm_append_singleton _ _).trans (List.perm_cons_erase member).symm).append_left active

theorem activateConstraint_lists {constraint : Nat} (wellFormed : ListsWellFormed cs)
    (activated : cs.activateConstraint constraint = some cs') :
    ListsWellFormed cs' ∧ ListsMoved cs cs' [] [] := by
  obtain ⟨-, member, rfl⟩ := ConstraintSystem.activateConstraint_eq_some _ activated
  have perm := @perm_activate cs.activeConstraints _ _ member
  refine ⟨⟨?_, fun other => ?_⟩, ⟨rfl, (List.append_nil _).symm, by simpa using perm, rfl⟩⟩
  · exact (perm.append_right _).nodup_iff.mpr wellFormed.nodup
  · by_cases here : other = constraint
    · subst here
      simp [ConstraintSystem.setFlags]
    · simpa [ConstraintSystem.setFlags, Function.update_noteq here, here] using
        wellFormed.isActive_iff other

theorem deactivateConstraint_lists {constraint : Nat} (wellFormed : ListsWellFormed cs)
    (deactivated : cs.deactivateConstraint constraint = some cs') :
    ListsWellFormed cs' ∧ ListsMoved cs cs' [] [] := by
  obtain ⟨-, member, rfl⟩ := ConstraintSystem.deactivateConstraint_eq_some _ deactivated
  have perm := @perm_deactivate _ cs.inactiveConstraints _ member
  have distinct : cs.activeConstraints.Nodup :=
    (nodup_active_append wellFormed).sublist (List.sublist_append_left _ _)
  refine ⟨⟨?_, fun other => ?_⟩, ⟨rfl, (List.append_nil _).symm, by simpa using perm, rfl⟩⟩
  · simpa only [List.append_assoc] using
      (perm.append_right _).nodup_iff.mpr (by simpa only [List.append_assoc] using wellFormed.nodup)
  · by_cases here : other = constraint
    · subst here
      simp [ConstraintSystem.setFlags, distinct.not_mem_erase]
    · simpa [ConstraintSystem.setFlags, Function.update_noteq here, List.mem_erase_of_ne here] using
        wellFormed.isActive_iff other

theorem removeInactiveConstraint_lists {constraint : Nat} (active : cs.solverState.isSome)
    (wellFormed : ListsWellFormed cs) (removed : cs.removeInactiveConstraint constraint = some cs') :
    ListsWellFormed cs' ∧ ListsMoved cs cs' [constraint] [] := by
  obtain ⟨member, rfl⟩ := ConstraintSystem.removeInactiveConstraint_eq_some _ removed
  obtain ⟨state, isState⟩ := Option.isSome_iff_exists.mp active
  have perm := @perm_remove cs.activeConstraints _ _ member
  have retired : ConstraintSystem.retiredConstraints { cs with
      inactiveConstraints := cs.inactiveConstraints.erase constraint
      solverState := cs.solverState.map fun state =>
        { state with retiredConstraints := constraint :: state.retiredConstraints } } =
      [constraint] ++ cs.retiredConstraints := by
    simp [ConstraintSystem.retiredConstraints, isState]
  refine ⟨⟨?_, wellFormed.isActive_iff⟩, ⟨retired, ?_, by simpa using perm, ?_⟩⟩
  · rw [retired, ← List.append_assoc]
    exact (perm.append_right _).nodup_iff.mpr wellFormed.nodup
  · simp [ConstraintSystem.generatedConstraints, isState]
  · simp [ConstraintSystem.recordedActive, isState]

theorem addUnsolvedConstraint_lists {constraint : Nat} (active : cs.solverState.isSome)
    (wellFormed : ListsWellFormed cs) (added : cs.addUnsolvedConstraint constraint = some cs') :
    ListsWellFormed cs' ∧ ListsMoved cs cs' [] [constraint] := by
  obtain ⟨notActive, notInactive, notRetired, rfl⟩ :=
    ConstraintSystem.addUnsolvedConstraint_eq_some _ added
  obtain ⟨state, isState⟩ := Option.isSome_iff_exists.mp active
  have fresh : constraint ∉ cs.activeConstraints ++ cs.inactiveConstraints ++ cs.retiredConstraints := by
    simpa [ConstraintSystem.retiredConstraints, notActive, notInactive] using notRetired
  refine ⟨⟨?_, fun other => ?_⟩, ⟨?_, ?_, by simp, ?_⟩⟩
  · have moved : (cs.activeConstraints ++ cs.inactiveConstraints ++ [constraint] ++
        cs.retiredConstraints).Perm
        (constraint :: (cs.activeConstraints ++ cs.inactiveConstraints ++ cs.retiredConstraints)) :=
      (List.perm_append_singleton _ _).append_right _
    have nodup := moved.nodup_iff.mpr (List.nodup_cons.mpr ⟨fresh, wellFormed.nodup⟩)
    simpa only [ConstraintSystem.retiredConstraints, isState,
      Option.map_some', Option.getD_some, List.append_assoc] using nodup
  · exact wellFormed.isActive_iff other
  · simp [ConstraintSystem.retiredConstraints, isState]
  · simp [ConstraintSystem.generatedConstraints, isState]
  · simp [ConstraintSystem.recordedActive, isState]

/-- **Every elementary change keeps the lists well formed and only moves or adds
constraints.** -/
theorem lists_of_same_exists (after : ConstraintSystem) (wellFormed : ListsWellFormed cs)
    (active : after.activeConstraints = cs.activeConstraints)
    (inactive : after.inactiveConstraints = cs.inactiveConstraints)
    (state : after.solverState.map SolverState.constraintLists =
      cs.solverState.map SolverState.constraintLists)
    (flags : ∀ constraint,
      (after.constraints constraint).isActive = (cs.constraints constraint).isActive) :
    ListsWellFormed after ∧
      ∃ retiredSince generatedSince, ListsMoved cs after retiredSince generatedSince :=
  (lists_of_same after wellFormed active inactive state flags).imp_right fun moved => ⟨_, _, moved⟩

/-- **Every elementary change keeps the lists well formed and only moves or adds
constraints.** -/
theorem Change.lists (active : cs.solverState.isSome) (wellFormed : ListsWellFormed cs) :
    Change cs cs' → ListsWellFormed cs' ∧
      ∃ retiredSince generatedSince, ListsMoved cs cs' retiredSince generatedSince
  | .writeTypeVariable _ v record => lists_of_same_exists (cs.writeTypeVariable v record) wellFormed
      rfl rfl (state_map_constraintLists _ fun _ => rfl) fun _ => rfl
  | .createRecord .. | .setType .. | .recordFailure .. =>
    lists_of_same_exists _ wellFormed rfl rfl rfl fun _ => rfl
  | .extendTables _ rest | .raiseScore _ rest => by
    rw [rest]
    exact lists_of_same_exists _ wellFormed rfl rfl rfl fun _ => rfl
  | .favorConstraint _ constraint => lists_of_same_exists (cs.favorConstraint constraint) wellFormed
      rfl rfl (state_map_constraintLists _ fun _ => rfl) (isActive_setFlags rfl)
  | .disableConstraint _ constraint => lists_of_same_exists (cs.disableConstraint constraint)
      wellFormed rfl rfl (state_map_constraintLists _ fun _ => rfl) (isActive_setFlags rfl)
  | .activateConstraint _ activated =>
    (activateConstraint_lists wellFormed activated).imp_right fun moved => ⟨_, _, moved⟩
  | .deactivateConstraint _ deactivated =>
    (deactivateConstraint_lists wellFormed deactivated).imp_right fun moved => ⟨_, _, moved⟩
  | .removeInactiveConstraint _ removed =>
    (removeInactiveConstraint_lists active wellFormed removed).imp_right fun moved => ⟨_, _, moved⟩
  | .addUnsolvedConstraint _ added =>
    (addUnsolvedConstraint_lists active wellFormed added).imp_right fun moved => ⟨_, _, moved⟩

theorem Changes.lists (active : cs.solverState.isSome) (wellFormed : ListsWellFormed cs)
    (changes : Changes cs cs') : ListsWellFormed cs' ∧
      ∃ retiredSince generatedSince, ListsMoved cs cs' retiredSince generatedSince := by
  induction changes with
  | refl => exact ⟨wellFormed, [], [], .refl _⟩
  | tail earlier last ih =>
    obtain ⟨middleWellFormed, retired, generated, moved⟩ := ih
    obtain ⟨lastWellFormed, retired', generated', moved'⟩ :=
      last.lists (((Changes.undoable active earlier).active).trans active) middleWellFormed
    exact ⟨lastWellFormed, _, _, moved.trans moved'⟩

theorem Mutation.lists (mutation : Mutation) (active : cs.solverState.isSome)
    (wellFormed : ListsWellFormed cs) (applied : mutation.apply cs = some cs') :
    ListsWellFormed cs' ∧
      ∃ retiredSince generatedSince, ListsMoved cs cs' retiredSince generatedSince := by
  rcases mutation.changes applied with changes | ⟨solution, -, finalized⟩ | ⟨_, -, rfl⟩
  · exact changes.lists active wellFormed
  rotate_left
  · exact lists_of_same_exists _ wellFormed rfl rfl rfl (isActive_setFlags rfl)
  obtain ⟨state, isState, changes, -⟩ := finalize_eq_some finalized
  obtain ⟨loweredWellFormed, lowered⟩ :=
    lists_of_same { cs with solverState := some { state with
      bestScore := some (ConstraintSystem.nextBestScore cs.currentScore state.bestScore) } }
      wellFormed rfl rfl (by simp [isState, SolverState.constraintLists]) fun _ => rfl
  obtain ⟨finalWellFormed, retired', generated', moved⟩ := changes.lists (by rfl) loweredWellFormed
  exact ⟨finalWellFormed, _, _, lowered.trans moved⟩

end

/-! ## Destroying a scope gives the constraints back -/

section

variable {cs opened inside closed : ConstraintSystem}

theorem diff_append_perm : ∀ kept dropped : List Nat, ((kept ++ dropped).diff dropped).Perm kept
  | kept, [] => by simp
  | kept, dropped :: rest => by
    have moved : ((kept ++ dropped :: rest).erase dropped).Perm (kept ++ rest) := by
      simpa using (List.perm_middle : (kept ++ dropped :: rest).Perm (dropped :: (kept ++ rest))).erase
        dropped
    rw [List.diff_cons]
    exact (moved.diff_right rest).trans (diff_append_perm kept rest)

theorem openScope_lists (isOpened : cs.openScope = some opened) (wellFormed : ListsWellFormed cs) :
    opened.solverState.isSome ∧ ListsWellFormed opened ∧ ListsMoved cs opened [] [] := by
  obtain ⟨state, isState, -, rfl⟩ := openScope_eq_some isOpened
  exact ⟨rfl, lists_of_same { cs with solverState := some { state with
    scopes := cs.snapshot state :: state.scopes } }
    wellFormed rfl rfl (by simp [isState, SolverState.constraintLists]) fun _ => rfl⟩

/-- **Destroying a scope gives the constraints back.** If the system inside the scope came from
the one the scope was opened on by moves and additions, destroying the scope leaves no active
constraint, puts every constraint of before in the inactive list, and takes the retired and
generated lists back to what they were. -/
theorem closeScope_lists {retiredSince generatedSince : List Nat} (wellFormed : ListsWellFormed cs)
    (isOpened : cs.openScope = some opened) (insideWellFormed : ListsWellFormed inside)
    (moved : ListsMoved opened inside retiredSince generatedSince)
    (scopes : inside.scopes = opened.scopes) (isClosed : inside.closeScope = some closed) :
    ListsWellFormed closed ∧ ListsMoved cs closed [] [] ∧ closed.activeConstraints = [] := by
  obtain ⟨-, -, opening⟩ := openScope_lists isOpened wellFormed
  obtain ⟨state, isState, -, rfl⟩ := openScope_eq_some isOpened
  obtain ⟨insideState, scope, outer, isInside, isTop, rfl⟩ := closeScope_eq_some isClosed
  have stack : scope = cs.snapshot state ∧ outer = state.scopes := by
    simpa [ConstraintSystem.scopes, isInside, isTop] using scopes
  obtain ⟨rfl, rfl⟩ := stack
  have retired : insideState.retiredConstraints = retiredSince ++ state.retiredConstraints := by
    simpa [ConstraintSystem.retiredConstraints, isInside, isState] using moved.retired
  have generated : insideState.generatedConstraints = state.generatedConstraints ++ generatedSince := by
    simpa [ConstraintSystem.generatedConstraints, isInside, isState] using moved.generated
  have recorded : insideState.activeConstraints = state.activeConstraints := by
    simpa [ConstraintSystem.recordedActive, isInside, isState] using moved.recorded
  have given : ((inside.inactiveConstraints ++ inside.activeConstraints ++ retiredSince).diff
      generatedSince).Perm (cs.activeConstraints ++ cs.inactiveConstraints) :=
    ((List.perm_append_comm.append_right _).diff_right _).trans
      ((moved.perm.diff_right _).trans (diff_append_perm _ _))
  have keptRetired : ConstraintSystem.retiredConstraints (inside.unwindScope insideState
      (cs.snapshot state) state.scopes) = cs.retiredConstraints := by
    simp [ConstraintSystem.retiredConstraints, ConstraintSystem.unwindScope, ConstraintSystem.rollback,
      ConstraintSystem.snapshot, isState, retired]
  refine ⟨⟨?_, fun constraint => ?_⟩, ⟨?_, ?_, ?_, ?_⟩, rfl⟩
  · rw [keptRetired]
    simpa [ConstraintSystem.unwindScope, ConstraintSystem.rollback, ConstraintSystem.snapshot, retired, generated] using
      (given.append_right _).nodup_iff.mpr wellFormed.nodup
  · have flag := insideWellFormed.isActive_iff constraint
    cases h : (inside.constraints constraint).isActive <;>
      simp_all [ConstraintSystem.unwindScope, ConstraintSystem.rollback]
  · rw [keptRetired, List.nil_append]
  · simp [ConstraintSystem.generatedConstraints, ConstraintSystem.unwindScope, ConstraintSystem.rollback,
      ConstraintSystem.snapshot, isState, generated]
  · simpa [ConstraintSystem.unwindScope, ConstraintSystem.rollback, ConstraintSystem.snapshot, retired, generated] using given
  · simp [ConstraintSystem.recordedActive, ConstraintSystem.unwindScope, ConstraintSystem.rollback, isState, recorded]

/-- **A balanced run only moves and adds constraints**, and keeps the lists well formed. -/
theorem Balanced.lists {events : List SolverEvent} (balanced : Balanced events) :
    ∀ {cs cs' : ConstraintSystem}, cs.solverState.isSome → ListsWellFormed cs →
      run events cs = some cs' → ListsWellFormed cs' ∧
        ∃ retiredSince generatedSince, ListsMoved cs cs' retiredSince generatedSince := by
  induction balanced with
  | nil =>
    intro cs cs' _ wellFormed ran
    cases ran
    exact ⟨wellFormed, [], [], .refl _⟩
  | mutate mutation _ ih =>
    intro cs cs' active wellFormed ran
    obtain ⟨middle, first, second⟩ := Option.bind_eq_some.mp ran
    obtain ⟨middleWellFormed, retired, generated, moved⟩ := mutation.lists active wellFormed first
    obtain ⟨lastWellFormed, retired', generated', moved'⟩ :=
      ih ((mutation.undoable active first).active.trans active) middleWellFormed second
    exact ⟨lastWellFormed, _, _, moved.trans moved'⟩
  | scope inner _ ihInner ihRest =>
    intro cs cs' active wellFormed ran
    obtain ⟨opened, inside, closed, isOpened, ranInner, isClosed, ranRest⟩ := run_scope_block ran
    obtain ⟨openedActive, openedWellFormed, -⟩ := openScope_lists isOpened wellFormed
    obtain ⟨insideWellFormed, retired, generated, moved⟩ :=
      ihInner openedActive openedWellFormed ranInner
    obtain ⟨closedWellFormed, closedMoved, -⟩ := closeScope_lists wellFormed isOpened
      insideWellFormed moved (inner.undoable openedActive ranInner).scopes isClosed
    have closedActive : closed.solverState.isSome := by
      obtain ⟨_, _, _, _, _, rfl⟩ := closeScope_eq_some isClosed
      rfl
    obtain ⟨lastWellFormed, retired', generated', moved'⟩ :=
      ihRest closedActive closedWellFormed ranRest
    exact ⟨lastWellFormed, _, _, closedMoved.trans moved'⟩

end

/-! ## The destructor of the solver state -/

section

/-- Activating again constraints that are all active changes nothing. -/
theorem reactivate_of_active : ∀ (todo : List Nat) (cs : ConstraintSystem),
    (∀ constraint ∈ todo, (cs.constraints constraint).isActive = true) → reactivate todo cs = some cs
  | [], _, _ => rfl
  | constraint :: rest, cs, active => by
    simp only [reactivate, active constraint (List.mem_cons_self _ _), ↓reduceIte, Option.some_bind]
    exact reactivate_of_active rest cs fun other member => active other (List.mem_cons_of_mem _ member)

/-- Activating again inactive constraints appends them to the active list, in order. -/
theorem reactivate_inactive : ∀ (todo rest : List Nat) (cs : ConstraintSystem),
    ListsWellFormed cs → (∀ constraint ∈ todo, constraint ∉ cs.activeConstraints) →
    cs.inactiveConstraints.Perm (todo ++ rest) →
    ∃ cs', reactivate todo cs = some cs' ∧ ListsWellFormed cs' ∧
      cs'.activeConstraints = cs.activeConstraints ++ todo ∧ cs'.inactiveConstraints.Perm rest ∧
      cs'.solverState = cs.solverState
  | [], _, cs, wellFormed, _, inactive => ⟨cs, rfl, wellFormed, by simp, by simpa using inactive, rfl⟩
  | constraint :: todo, rest, cs, wellFormed, notActive, inactive => by
    have off : (cs.constraints constraint).isActive = false := Bool.eq_false_iff.mpr fun isOn =>
      notActive constraint (List.mem_cons_self _ _) ((wellFormed.isActive_iff constraint).mp isOn)
    have member : constraint ∈ cs.inactiveConstraints := inactive.mem_iff.mpr (by simp)
    have distinct : (constraint :: todo).Nodup :=
      (inactive.nodup_iff.mp ((nodup_active_append wellFormed).sublist
        (List.sublist_append_right _ _))).sublist (List.sublist_append_left _ _)
    obtain ⟨activatedCs, activated⟩ : ∃ activatedCs, cs.activateConstraint constraint = some activatedCs := by
      simp [ConstraintSystem.activateConstraint, off, member]
    obtain ⟨activatedWellFormed, -⟩ := activateConstraint_lists wellFormed activated
    obtain ⟨-, -, activatedEq⟩ := ConstraintSystem.activateConstraint_eq_some _ activated
    obtain ⟨cs', reactivated, finalWellFormed, active, inactive', state⟩ :=
      reactivate_inactive todo rest activatedCs activatedWellFormed
        (fun other inTodo => by
          have notHere : other ≠ constraint := fun same => (List.nodup_cons.mp distinct).1 (same ▸ inTodo)
          simpa [activatedEq, notHere] using notActive other (List.mem_cons_of_mem _ inTodo))
        (by simpa [activatedEq] using inactive.erase constraint)
    refine ⟨cs', by simpa [reactivate, off, activated] using reactivated, finalWellFormed,
      by simp [active, activatedEq], inactive', by simp [state, activatedEq, ConstraintSystem.setFlags]⟩

end

/-! ## A whole attempt -/

section

variable {cs cs' : ConstraintSystem}

theorem attachSolverState_eq_some {allowFreeTypeVariables : FreeTypeVariableBinding}
    (attached : cs.attachSolverState allowFreeTypeVariables = some cs') :
    cs.solverState = none ∧
      cs' = { cs with solverState := some (.initial allowFreeTypeVariables cs.activeConstraints) } := by
  unfold ConstraintSystem.attachSolverState at attached
  split at attached
  · cases attached
  next noState =>
    cases attached
    exact ⟨Option.not_isSome_iff_eq_none.mp noState, rfl⟩

theorem solveImpl_eq_some {steps : List SolverEvent} (solved : cs.solveImpl steps = some cs') :
    cs.solverState.isSome ∧
      ((cs.failedConstraint.isSome ∧ cs' = { cs with phase := .finalization }) ∨
        ∃ opened ran closed, { cs with phase := .solving }.openScope = some opened ∧
          run steps opened = some ran ∧ ran.closeScope = some closed ∧
          cs' = { closed with phase := .finalization }) := by
  unfold ConstraintSystem.solveImpl at solved
  split at solved
  · cases solved
  next hasState =>
    refine ⟨Option.ne_none_iff_isSome.mp (by simpa using hasState), ?_⟩
    split at solved
    next failed =>
      cases solved
      exact .inl ⟨failed, rfl⟩
    · obtain ⟨opened, isOpened, solved⟩ := Option.bind_eq_some.mp solved
      obtain ⟨ran, isRan, solved⟩ := Option.bind_eq_some.mp solved
      obtain ⟨closed, isClosed, solved⟩ := Option.bind_eq_some.mp solved
      cases solved
      exact .inr ⟨opened, ran, closed, isOpened, isRan, isClosed, rfl⟩

theorem detachSolverState_eq {state : SolverState} (isState : cs.solverState = some state)
    (retired : state.retiredConstraints = []) (generated : state.generatedConstraints = []) :
    cs.detachSolverState = reactivate state.activeConstraints { cs with solverState := none } := by
  simp [ConstraintSystem.detachSolverState, isState, retired, generated]

/-- **A solving attempt gives its constraints back.** Attach a solver state to a system whose
lists are well formed, run `solveImpl` on any balanced run of steps, and destroy the solver
state: its assertions hold, the active list is the one before, the inactive list holds the
other constraints of before, the activity flags agree with the lists, and no constraint is in
both lists. -/
theorem attempt_restores_lists {attached solved : ConstraintSystem}
    {allowFreeTypeVariables : FreeTypeVariableBinding} {steps : List SolverEvent}
    (wellFormed : ListsWellFormed cs)
    (isAttached : cs.attachSolverState allowFreeTypeVariables = some attached)
    (balanced : Balanced steps) (isSolved : attached.solveImpl steps = some solved) :
    ∃ detached, solved.detachSolverState = some detached ∧ detached.solverState = none ∧
      detached.activeConstraints = cs.activeConstraints ∧
      detached.inactiveConstraints.Perm cs.inactiveConstraints ∧
      (∀ constraint, (detached.constraints constraint).isActive = true ↔
        constraint ∈ detached.activeConstraints) ∧
      (detached.activeConstraints ++ detached.inactiveConstraints).Nodup := by
  obtain ⟨noState, rfl⟩ := attachSolverState_eq_some isAttached
  have attachedWellFormed : ListsWellFormed { cs with
      phase := .solving
      solverState := some (.initial allowFreeTypeVariables cs.activeConstraints) } :=
    ⟨by simpa [ConstraintSystem.retiredConstraints, SolverState.initial, noState] using wellFormed.nodup,
      wellFormed.isActive_iff⟩
  have pairs : (cs.activeConstraints ++ cs.inactiveConstraints).Nodup := nodup_active_append wellFormed
  obtain ⟨-, ⟨-, rfl⟩ | ⟨opened, ran, closed, isOpened, isRan, isClosed, rfl⟩⟩ :=
    solveImpl_eq_some isSolved
  · exact ⟨_, (detachSolverState_eq rfl rfl rfl).trans (reactivate_of_active _ _
      fun constraint => (wellFormed.isActive_iff constraint).mpr), rfl, rfl, .refl _,
      wellFormed.isActive_iff, pairs⟩
  obtain ⟨openedActive, openedWellFormed, -⟩ := openScope_lists isOpened attachedWellFormed
  obtain ⟨ranWellFormed, retiredSince, generatedSince, moved⟩ :=
    balanced.lists openedActive openedWellFormed isRan
  obtain ⟨closedWellFormed, closedMoved, closedActive⟩ := closeScope_lists attachedWellFormed
    isOpened ranWellFormed moved (balanced.undoable openedActive isRan).scopes isClosed
  obtain ⟨closedState, isClosedState⟩ : ∃ state, closed.solverState = some state := by
    obtain ⟨_, _, _, _, _, rfl⟩ := closeScope_eq_some isClosed
    exact ⟨_, rfl⟩
  have retired : closedState.retiredConstraints = [] := by
    simpa [ConstraintSystem.retiredConstraints, isClosedState] using closedMoved.retired
  have generated : closedState.generatedConstraints = [] := by
    simpa [ConstraintSystem.generatedConstraints, isClosedState] using closedMoved.generated
  have recorded : closedState.activeConstraints = cs.activeConstraints := by
    simpa [ConstraintSystem.recordedActive, isClosedState] using closedMoved.recorded
  have given : closed.inactiveConstraints.Perm (cs.activeConstraints ++ cs.inactiveConstraints) := by
    simpa [closedActive] using closedMoved.perm
  obtain ⟨detached, reactivated, detachedWellFormed, active, inactive, state⟩ :=
    reactivate_inactive cs.activeConstraints cs.inactiveConstraints
      { closed with
        phase := .finalization
        solverState := none }
      ⟨by simpa [ConstraintSystem.retiredConstraints, isClosedState, retired] using
          closedWellFormed.nodup, closedWellFormed.isActive_iff⟩
      (by simp [closedActive]) given
  refine ⟨detached, ?_, state, by simpa [closedActive] using active, inactive,
    detachedWellFormed.isActive_iff, nodup_active_append detachedWellFormed⟩
  rw [detachSolverState_eq (show ({ closed with phase := .finalization } : ConstraintSystem).solverState =
    some closedState from isClosedState) retired generated, recorded]
  exact reactivated

theorem attempt_restores_lists_retire :
    ∃ attached solved detached,
      { ConstraintSystem.empty .trivial with
        activeConstraints := [1]
        inactiveConstraints := [2]
        constraints := fun constraint => ⟨constraint == 1, false, false⟩ }.attachSolverState .allow =
        some attached ∧
      attached.solveImpl [.mutate (.retireConstraint 1)] = some solved ∧
      solved.detachSolverState = some detached ∧ detached.activeConstraints = [1] ∧
      detached.inactiveConstraints.Perm [2] := by
  obtain ⟨detached, isDetached, -, active, inactive, -⟩ :=
    @attempt_restores_lists { ConstraintSystem.empty .trivial with
        activeConstraints := [1]
        inactiveConstraints := [2]
        constraints := fun constraint => ⟨constraint == 1, false, false⟩ } _ _ .allow
      [.mutate (.retireConstraint 1)] ⟨by decide, fun constraint => by simp⟩ rfl (.mutate _ .nil) rfl
  exact ⟨_, _, detached, rfl, rfl, isDetached, active, inactive⟩

end

end Constraints
