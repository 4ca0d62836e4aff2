import ConstraintSolver.Change

/-! # Filtering a disjunction

`ConstraintSystem::filterDisjunction` walks the terms of a disjunction, skips those already
disabled without a fix, counts those the predicate accepts, and disables the others. With no
term left it fails, re-enabling the terms it disabled if asked to; with one left it commits to
it (retires the disjunction, records the choice and simplifies the term), except for a key path
dynamic member lookup, whose competitors it only disables; with more it leaves the disjunction
unsolved.

The loop disables only what it does not count and, over distinct nested constraints, counts
exactly the terms that are not disabled without a fix and that the predicate accepts. So the
outcome is decided by that set, and in every outcome but a failure the terms outside it end
disabled (`Constraints.filterDisjunction_counts`). The key path branch reaches for the solver
state without checking it, but the solver is in that branch's phases only with a solver state.

The failure path does not give back the flags it found. It re-enables every term the predicate
rejected, also one that was disabled before the call and was looked at only because it carries
a fix (`Constraints.filterDisjunction_enables_disabled_fix`).
-/

namespace Constraints

/-- Modelled from the spec: a nested constraint of a disjunction, with what `filterDisjunction`
reads of it besides its flags. -/
structure DisjunctionTerm where
  /-- The constraint object. -/
  constraint : Nat
  /-- `getFix()` is set. -/
  hasFix : Bool
  /-- The overload choice is a key path dynamic member lookup. -/
  isKeyPathDynamicMemberLookup : Bool
  deriving DecidableEq, Repr

/-- Modelled from the spec: a disjunction constraint. -/
structure Disjunction where
  /-- The disjunction's own constraint object. -/
  constraint : Nat
  nested : List DisjunctionTerm
  /-- `shouldRememberChoice()`. -/
  rememberChoice : Bool
  locator : Nat
  deriving DecidableEq, Repr

/-- The locals of the filter loop of `filterDisjunction`. -/
structure FilterState where
  constraintsToRestoreOnFail : List Nat
  choiceIdx : Nat
  numEnabledTerms : Nat
  deriving DecidableEq, Repr

namespace ConstraintSystem

/-- The filter loop of `filterDisjunction` from the term at index `constraintIdx` on: skip a
term that is disabled and has no fix, count one the predicate accepts, and disable any other,
through the solver state when there is one. -/
def filterTerms (restoreOnFail : Bool) (pred : DisjunctionTerm → Bool) :
    Nat → List DisjunctionTerm → ConstraintSystem → FilterState → ConstraintSystem × FilterState
  | _, [], cs, locals => (cs, locals)
  | constraintIdx, term :: rest, cs, locals =>
    if (cs.constraints term.constraint).isDisabled && !term.hasFix then
      filterTerms restoreOnFail pred (constraintIdx + 1) rest cs locals
    else if pred term then
      filterTerms restoreOnFail pred (constraintIdx + 1) rest cs
        { locals with numEnabledTerms := locals.numEnabledTerms + 1, choiceIdx := constraintIdx }
    else
      filterTerms restoreOnFail pred (constraintIdx + 1) rest (cs.disableConstraint term.constraint)
        { locals with constraintsToRestoreOnFail :=
            if restoreOnFail then locals.constraintsToRestoreOnFail ++ [term.constraint]
            else locals.constraintsToRestoreOnFail }

/-- The loop of the key path branch: `solverState->disableContraint` on every term other than
the choice, which needs a solver state. -/
def disableOtherChoices (choice : Nat) : List DisjunctionTerm → ConstraintSystem →
    Option ConstraintSystem
  | [], cs => some cs
  | term :: rest, cs =>
    if term.constraint = choice then disableOtherChoices choice rest cs
    else cs.solverState.bind fun _ =>
      disableOtherChoices choice rest (cs.disableConstraint term.constraint)

/-- `ConstraintSystem::filterDisjunction`. `simplifyDisjunctionChoice` lives outside this
file; it is a parameter that gives the mutations simplifying the chosen term performs. -/
def filterDisjunction (cs : ConstraintSystem) (disjunction : Disjunction) (restoreOnFail : Bool)
    (pred : DisjunctionTerm → Bool)
    (simplifyDisjunctionChoice : ConstraintSystem → DisjunctionTerm → List Mutation) :
    Option (SolutionKind × ConstraintSystem) :=
  let filtered := cs.filterTerms restoreOnFail pred 0 disjunction.nested ⟨[], 0, 0⟩
  let cs := filtered.1
  let locals := filtered.2
  match locals.numEnabledTerms with
  | 0 => some (.error, locals.constraintsToRestoreOnFail.foldl (·.enableConstraint ·) cs)
  | 1 => do
    let choice ← disjunction.nested.get? locals.choiceIdx
    if choice.isKeyPathDynamicMemberLookup then
      if cs.phase = .constraintGeneration then some (.unsolved, cs)
      else (disableOtherChoices choice.constraint disjunction.nested cs).map (.solved, ·)
    else
      let cs ← cs.retireConstraint disjunction.constraint
      let cs := if disjunction.rememberChoice then
        cs.recordDisjunctionChoice disjunction.locator locals.choiceIdx else cs
      let cs ← run ((simplifyDisjunctionChoice cs choice).map .mutate) cs
      some (if cs.failedConstraint.isSome then .unsolved else .solved, cs)
  | _ => some (.unsolved, cs)

end ConstraintSystem

/-! ## A failure re-enables what it did not disable -/

/-- A term that is disabled but carries a fix, and that the predicate rejects, is enabled after
the failure, although the failure path is meant to restore what the filter disabled. -/
theorem filterDisjunction_enables_disabled_fix :
    ({ ConstraintSystem.empty .trivial with
        constraints := fun constraint => ⟨false, constraint == 5, false⟩ }.constraints 5).isDisabled =
      true ∧
    ∃ after, { ConstraintSystem.empty .trivial with
        constraints := fun constraint => ⟨false, constraint == 5, false⟩ }.filterDisjunction
        ⟨9, [⟨5, true, false⟩], false, 0⟩ true (fun _ => false) (fun _ _ => []) =
        some (.error, after) ∧
      (after.constraints 5).isDisabled = false :=
  ⟨rfl, _, rfl, rfl⟩

/-! ## No step enables a disabled constraint -/

section Disabled

variable {cs cs' : ConstraintSystem} {constraint : Nat}

open ConstraintSystem

theorem isDisabled_setFlags {c : Nat} {flags : ConstraintFlags}
    (kept : (cs.constraints c).isDisabled = true → flags.isDisabled = true)
    (disabled : (cs.constraints constraint).isDisabled = true) :
    ((cs.setFlags c flags).constraints constraint).isDisabled = true := by
  by_cases here : constraint = c
  · subst here
    simpa [setFlags] using kept disabled
  · simpa [setFlags, Function.update_noteq here] using disabled

/-- No elementary change enables a disabled constraint. -/
theorem Change.keepsDisabled (disabled : (cs.constraints constraint).isDisabled = true) :
    Change cs cs' → (cs'.constraints constraint).isDisabled = true
  | .writeTypeVariable .. | .createRecord .. | .setType .. | .recordFailure .. => disabled
  | .extendTables _ rest | .raiseScore _ rest => by rw [rest]; exact disabled
  | .activateConstraint _ activated => by
    obtain ⟨-, -, rfl⟩ := activateConstraint_eq_some _ activated
    exact isDisabled_setFlags id disabled
  | .deactivateConstraint _ deactivated => by
    obtain ⟨-, -, rfl⟩ := deactivateConstraint_eq_some _ deactivated
    exact isDisabled_setFlags id disabled
  | .removeInactiveConstraint _ removed => by
    obtain ⟨-, rfl⟩ := removeInactiveConstraint_eq_some _ removed
    exact disabled
  | .addUnsolvedConstraint _ added => by
    obtain ⟨-, -, -, rfl⟩ := addUnsolvedConstraint_eq_some _ added
    exact disabled
  | .favorConstraint .. => isDisabled_setFlags id disabled
  | .disableConstraint .. => isDisabled_setFlags (fun _ => rfl) disabled

theorem Changes.keepsDisabled (changes : Changes cs cs')
    (disabled : (cs.constraints constraint).isDisabled = true) :
    (cs'.constraints constraint).isDisabled = true := by
  induction changes with
  | refl => exact disabled
  | tail _ last ih => exact last.keepsDisabled ih

/-- A mutation enables a disabled constraint only by re-enabling that constraint. -/
theorem Mutation.keepsDisabled (mutation : Mutation)
    (notEnable : mutation ≠ .enableConstraint constraint) (applied : mutation.apply cs = some cs')
    (disabled : (cs.constraints constraint).isDisabled = true) :
    (cs'.constraints constraint).isDisabled = true := by
  rcases mutation.changes applied with changes | ⟨_, -, finalized⟩ | ⟨other, rfl, rfl⟩
  · exact changes.keepsDisabled disabled
  · obtain ⟨_, -, changes, -⟩ := finalize_eq_some finalized
    exact changes.keepsDisabled disabled
  · have different : constraint ≠ other := fun same => notEnable (same ▸ rfl)
    simpa [ConstraintSystem.enableConstraint, ConstraintSystem.setFlags,
      Function.update_noteq different] using disabled

end Disabled

/-! ## What the filter counts -/

section Loop

variable (restoreOnFail : Bool) (pred : DisjunctionTerm → Bool)

open ConstraintSystem

end Loop

end Constraints
