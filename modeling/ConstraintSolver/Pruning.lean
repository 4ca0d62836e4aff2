import ConstraintSolver.Change

/-! # Scores along a branch, and sound pruning

While a scope is open the current score never drops below the score the scope recorded: the
mutations only raise it (`increaseScore`, `applySolution`, the literal penalty of
`assignFixedType`), and only the destruction of a nested scope lowers it, back to that scope's
snapshot. The best score of the solver state never rises: `finalize` alone sets it, to the
score of the solution it takes. So once `worseThanBestSolution` holds, it holds at every state a
continuation of the branch reaches before the branch's scope is destroyed, and no such state
can be finalized with a score no worse than the best (`Constraints.scores_monotone`).

`ConstraintSystem::simplify` abandons a branch exactly when a constraint failed or the branch
is worse than the best solution (`Constraints.simplify_abandons`).
-/

namespace Constraints

open Relation ConstraintSystem

/-! ## Invariants -/

/-- The recorded scores of a stack of open scopes, innermost first, each no higher than the
score of the scope inside it, the innermost no higher than `score`. -/
def ScopeScoresBelow : List SolverScope → Score → Prop
  | [], _ => True
  | scope :: outer, score => scope.previousScore ≤ score ∧ ScopeScoresBelow outer scope.previousScore

theorem ScopeScoresBelow.mono : ∀ {scopes : List SolverScope} {low high : Score},
    ScopeScoresBelow scopes low → low ≤ high → ScopeScoresBelow scopes high
  | [], _, _, _, _ => trivial
  | _ :: _, _, _, ⟨below, outer⟩, raised => ⟨le_trans below raised, outer⟩

/-- Every open scope recorded a score no higher than the current one, in stack order. -/
def ScoresMonotone (cs : ConstraintSystem) : Prop :=
  ScopeScoresBelow (cs.scopes.getD []) cs.currentScore

/-- The best score of `after` is no worse than that of `before`. -/
def BestNoWorse (before after : ConstraintSystem) : Prop :=
  ∀ best, before.bestScore = some best → ∃ best', after.bestScore = some best' ∧ best' ≤ best

theorem BestNoWorse.of_eq {before after : ConstraintSystem} (same : after.bestScore = before.bestScore) :
    BestNoWorse before after :=
  fun best found => ⟨best, same.trans found, le_rfl⟩

theorem BestNoWorse.trans {a b c : ConstraintSystem} (first : BestNoWorse a b)
    (second : BestNoWorse b c) : BestNoWorse a c := fun best found => by
  obtain ⟨middle, atB, lower⟩ := first best found
  obtain ⟨last, atC, lowest⟩ := second middle atB
  exact ⟨last, atC, le_trans lowest lower⟩

/-! ## Elementary changes -/

section

variable {cs cs' : ConstraintSystem}

theorem keepsScores_of_map {after : ConstraintSystem} (update : SolverState → SolverState)
    (state : after.solverState = cs.solverState.map update)
    (keeps : ∀ state, (update state).scopes = state.scopes ∧ (update state).bestScore = state.bestScore) :
    after.scopes = cs.scopes ∧ after.bestScore = cs.bestScore := by
  cases h : cs.solverState <;> simp [ConstraintSystem.scopes, ConstraintSystem.bestScore, state, h, keeps]

theorem Change.score_le : Change cs cs' → cs.currentScore ≤ cs'.currentScore
  | .raiseScore raised _ => raised
  | .extendTables _ rest => by rw [rest]; exact le_rfl
  | .activateConstraint _ activated => by
    obtain ⟨-, -, rfl⟩ := activateConstraint_eq_some _ activated; exact le_rfl
  | .deactivateConstraint _ deactivated => by
    obtain ⟨-, -, rfl⟩ := deactivateConstraint_eq_some _ deactivated; exact le_rfl
  | .removeInactiveConstraint _ removed => by
    obtain ⟨-, rfl⟩ := removeInactiveConstraint_eq_some _ removed; exact le_rfl
  | .addUnsolvedConstraint _ added => by
    obtain ⟨-, -, -, rfl⟩ := addUnsolvedConstraint_eq_some _ added; exact le_rfl
  | .writeTypeVariable .. | .createRecord .. | .setType .. | .favorConstraint ..
  | .disableConstraint .. | .recordFailure .. => le_rfl

/-- No elementary change touches the scopes or the best score. -/
theorem Change.keepsScores : Change cs cs' → cs'.scopes = cs.scopes ∧ cs'.bestScore = cs.bestScore
  | .writeTypeVariable .. | .favorConstraint .. | .disableConstraint .. =>
    keepsScores_of_map _ rfl fun _ => ⟨rfl, rfl⟩
  | .extendTables _ rest | .raiseScore _ rest => by rw [rest]; exact ⟨rfl, rfl⟩
  | .activateConstraint _ activated => by
    obtain ⟨-, -, rfl⟩ := activateConstraint_eq_some _ activated; exact ⟨rfl, rfl⟩
  | .deactivateConstraint _ deactivated => by
    obtain ⟨-, -, rfl⟩ := deactivateConstraint_eq_some _ deactivated; exact ⟨rfl, rfl⟩
  | .removeInactiveConstraint _ removed => by
    obtain ⟨-, rfl⟩ := removeInactiveConstraint_eq_some _ removed
    exact keepsScores_of_map _ rfl fun _ => ⟨rfl, rfl⟩
  | .addUnsolvedConstraint _ added => by
    obtain ⟨-, -, -, rfl⟩ := addUnsolvedConstraint_eq_some _ added
    exact keepsScores_of_map _ rfl fun _ => ⟨rfl, rfl⟩
  | .createRecord .. | .setType .. | .recordFailure .. => ⟨rfl, rfl⟩

/-- Elementary changes raise the score and keep the scopes and the best score. -/
theorem Changes.scores (changes : Changes cs cs') :
    cs.currentScore ≤ cs'.currentScore ∧ cs'.scopes = cs.scopes ∧ cs'.bestScore = cs.bestScore := by
  induction changes with
  | refl => exact ⟨le_rfl, rfl, rfl⟩
  | tail _ last ih =>
    exact ⟨le_trans ih.1 last.score_le, last.keepsScores.1.trans ih.2.1,
      last.keepsScores.2.trans ih.2.2⟩

theorem nextBestScore_cases (current : Score) (previous : Option Score) :
    nextBestScore current previous = current ∨ some (nextBestScore current previous) = previous := by
  cases previous with
  | none => exact .inl rfl
  | some best =>
    show (if current ≤ best then current else best) = current ∨
      some (if current ≤ best then current else best) = some best
    split
    · exact .inl rfl
    · exact .inr rfl

/-- **What a mutation does to the scores**: it raises the score and keeps the scopes; it
keeps the best score, unless it is `finalize`, which lowers the best score to the score of the
solution it takes. -/
theorem Mutation.scores (mutation : Mutation) (applied : mutation.apply cs = some cs') :
    cs.currentScore ≤ cs'.currentScore ∧ cs'.scopes = cs.scopes ∧ BestNoWorse cs cs' ∧
      (cs'.bestScore = cs.bestScore ∨ ∃ solution, mutation = .finalize ∧
        cs.finalize = some (solution, cs') ∧ cs'.bestScore = some solution.fixedScore) := by
  rcases mutation.changes applied with changes | ⟨solution, rfl, finalized⟩ | ⟨_, -, rfl⟩
  · obtain ⟨raised, scopes, best⟩ := changes.scores
    exact ⟨raised, scopes, .of_eq best, .inl best⟩
  rotate_left
  · exact ⟨le_rfl, rfl, .of_eq rfl, .inl rfl⟩
  obtain ⟨state, isState, changes, score⟩ := finalize_eq_some finalized
  obtain ⟨raised, scopes, best⟩ := changes.scores
  have lowered : cs'.bestScore = some (nextBestScore cs.currentScore state.bestScore) := best
  refine ⟨raised, scopes.trans (by simp [ConstraintSystem.scopes, isState]), fun previous found => ?_, ?_⟩
  · have previousState : state.bestScore = some previous := by
      simpa [ConstraintSystem.bestScore, isState] using found
    exact ⟨_, lowered, nextBestScore_le _ _ _ previousState⟩
  · rcases nextBestScore_cases cs.currentScore state.bestScore with current | kept
    · exact .inr ⟨solution, rfl, finalized, by rw [lowered, current, score]⟩
    · exact .inl (lowered.trans (by rw [kept]; simp [ConstraintSystem.bestScore, isState]))

end

/-! ## Events -/

section

variable {cs cs' : ConstraintSystem}

theorem BestNoWorse.openScope (opened : cs.openScope = some cs') : BestNoWorse cs cs' := by
  obtain ⟨state, isState, -, rfl⟩ := openScope_eq_some opened
  exact .of_eq (by simp [ConstraintSystem.bestScore, isState])

theorem BestNoWorse.closeScope (closed : cs.closeScope = some cs') : BestNoWorse cs cs' := by
  obtain ⟨state, scope, outer, isState, -, rfl⟩ := closeScope_eq_some closed
  exact .of_eq (by simp [ConstraintSystem.bestScore, unwindScope, rollback, isState])

/-- Every event keeps the scores of open scopes below the current score, and never raises
the best score. -/
theorem SolverEvent.scores (event : SolverEvent) (monotone : ScoresMonotone cs)
    (applied : event.apply cs = some cs') : ScoresMonotone cs' ∧ BestNoWorse cs cs' := by
  cases event with
  | mutate mutation =>
    obtain ⟨raised, scopes, best, -⟩ := mutation.scores applied
    exact ⟨by unfold ScoresMonotone; rw [scopes]; exact monotone.mono raised, best⟩
  | openScope =>
    refine ⟨?_, .openScope applied⟩
    obtain ⟨state, isState, -, rfl⟩ := openScope_eq_some applied
    have below : ScopeScoresBelow state.scopes cs.currentScore := by
      simpa [ScoresMonotone, ConstraintSystem.scopes, isState] using monotone
    exact ⟨le_rfl, below⟩
  | closeScope =>
    refine ⟨?_, .closeScope applied⟩
    obtain ⟨state, scope, outer, isState, isTop, rfl⟩ := closeScope_eq_some applied
    have below : ScopeScoresBelow (scope :: outer) cs.currentScore := by
      simpa [ScoresMonotone, ConstraintSystem.scopes, isState, isTop] using monotone
    simpa [ScoresMonotone, ConstraintSystem.scopes, unwindScope, rollback] using below.2

theorem run_scores : ∀ {events : List SolverEvent} {cs cs' : ConstraintSystem},
    ScoresMonotone cs → run events cs = some cs' → ScoresMonotone cs' ∧ BestNoWorse cs cs'
  | [], _, _, monotone, ran => by
    cases ran
    exact ⟨monotone, .of_eq rfl⟩
  | event :: rest, _, _, monotone, ran => by
    obtain ⟨middle, first, second⟩ := Option.bind_eq_some.mp ran
    obtain ⟨middleMonotone, firstBest⟩ := event.scores monotone first
    obtain ⟨lastMonotone, restBest⟩ := run_scores middleMonotone second
    exact ⟨lastMonotone, firstBest.trans restBest⟩

/-- A balanced run ends on its starting scopes, with a score no lower and a best score no
higher. -/
theorem Balanced.scores {events : List SolverEvent} (balanced : Balanced events) :
    ∀ {cs cs' : ConstraintSystem}, run events cs = some cs' →
      cs.currentScore ≤ cs'.currentScore ∧ cs'.scopes = cs.scopes ∧ BestNoWorse cs cs' := by
  induction balanced with
  | nil =>
    intro cs cs' ran
    cases ran
    exact ⟨le_rfl, rfl, .of_eq rfl⟩
  | mutate mutation _ ih =>
    intro cs cs' ran
    obtain ⟨middle, first, second⟩ := Option.bind_eq_some.mp ran
    obtain ⟨raised, scopes, best, -⟩ := mutation.scores first
    obtain ⟨raised', scopes', best'⟩ := ih second
    exact ⟨le_trans raised raised', scopes'.trans scopes, best.trans best'⟩
  | scope _ _ ihInner ihRest =>
    intro cs cs' ran
    obtain ⟨opened, inside, closed, isOpened, ranInner, isClosed, ranRest⟩ := run_scope_block ran
    obtain ⟨state, isState, -, rfl⟩ := openScope_eq_some isOpened
    obtain ⟨-, innerScopes, innerBest⟩ := ihInner ranInner
    obtain ⟨insideState, scope, outer, isInside, isTop, rfl⟩ := closeScope_eq_some isClosed
    have stack : scope = cs.snapshot state ∧ outer = state.scopes := by
      simpa [ConstraintSystem.scopes, isInside, isTop] using innerScopes
    obtain ⟨rfl, rfl⟩ := stack
    obtain ⟨raised, restScopes, restBest⟩ := ihRest ranRest
    refine ⟨raised, restScopes.trans (by simp [ConstraintSystem.scopes, unwindScope, rollback, isState]),
      ((BestNoWorse.openScope isOpened).trans innerBest).trans
        ((BestNoWorse.closeScope isClosed).trans restBest)⟩

/-- A run on a branch, which never closes a scope it did not open, never lowers the score and
never raises the best score. -/
theorem Branch.scores {events : List SolverEvent} (branch : Branch events) :
    ∀ {cs cs' : ConstraintSystem}, run events cs = some cs' →
      cs.currentScore ≤ cs'.currentScore ∧ BestNoWorse cs cs' := by
  induction branch with
  | balanced balanced =>
    intro cs cs' ran
    obtain ⟨raised, -, best⟩ := balanced.scores ran
    exact ⟨raised, best⟩
  | enter balanced _ ih =>
    intro cs cs' ran
    rw [run_append] at ran
    obtain ⟨middle, first, second⟩ := Option.bind_eq_some.mp ran
    rw [run_cons] at second
    obtain ⟨opened, isOpened, third⟩ := Option.bind_eq_some.mp second
    obtain ⟨raised, -, best⟩ := balanced.scores first
    have entered := BestNoWorse.openScope isOpened
    obtain ⟨_, _, _, rfl⟩ := openScope_eq_some isOpened
    obtain ⟨raised', best'⟩ := ih third
    exact ⟨le_trans raised raised', best.trans (entered.trans best')⟩

end

/-! ## Pruning -/

section

variable {cs cs' : ConstraintSystem}

/-- Once a branch is worse than the best solution, every continuation of it that leaves the
branch's scope open stays worse, so none can be finalized with a score no worse than the best. -/
theorem Branch.worse {events : List SolverEvent} (branch : Branch events)
    (worse : cs.worseThanBestSolution) (ran : run events cs = some cs') :
    cs'.worseThanBestSolution ∧ ∀ best, cs'.bestScore = some best → ¬ cs'.currentScore ≤ best := by
  obtain ⟨best, found, below⟩ := worse
  obtain ⟨raised, noWorse⟩ := branch.scores ran
  obtain ⟨best', found', lower⟩ := noWorse best found
  have stillWorse : best' < cs'.currentScore :=
    lt_of_le_of_lt lower (lt_of_lt_of_le below raised)
  refine ⟨⟨best', found', stillWorse⟩, fun other isOther => ?_⟩
  obtain rfl : other = best' := Option.some.inj (isOther.symm.trans found')
  exact not_le_of_lt stillWorse

end

namespace ConstraintSystem

/-- The switch of `ConstraintSystem::simplify` on the outcome of simplifying a constraint:
retire it as failed, retire it as solved, or leave it inactive. -/
def retireSimplified (cs : ConstraintSystem) (kind : SolutionKind) (constraint : Nat) :
    Option ConstraintSystem :=
  match kind with
  | .error => cs.retireFailedConstraint constraint
  | .solved => cs.retireConstraint constraint
  | .unsolved => some cs

/-- `ConstraintSystem::simplify`: take constraints off the front of the worklist and simplify
them until the worklist is empty (`false`), or a constraint failed and failures do not let the
solver continue, or the branch is already worse than the best solution (`true`: abandon the
branch). `simplifyConstraint` lives outside this file; it is a parameter that gives the outcome
of simplifying a constraint and the mutations that simplifying it performs. Each round retires
or keeps the constraint, so the loop runs on `fuel` and is `none` when that runs out. -/
def simplify (simplifyConstraint : ConstraintSystem → Nat → SolutionKind × List Mutation)
    (continueAfterFailures : Bool) : Nat → ConstraintSystem → Option (Bool × ConstraintSystem)
  | 0, _ => none
  | fuel + 1, cs =>
    match cs.activeConstraints with
    | [] => some (false, cs)
    | constraint :: _ => do
      let cs ← cs.deactivateConstraint constraint
      let outcome := simplifyConstraint cs constraint
      let cs ← run (outcome.2.map .mutate) cs
      let cs ← cs.retireSimplified outcome.1 constraint
      if cs.failedConstraint.isSome && !continueAfterFailures then some (true, cs)
      else if cs.worseThanBestSolution then some (true, cs)
      else simplify simplifyConstraint continueAfterFailures fuel cs

end ConstraintSystem

section

variable {cs cs' : ConstraintSystem}
  {simplifyConstraint : ConstraintSystem → Nat → SolutionKind × List Mutation}
  {continueAfterFailures : Bool}

/-- The round of `simplify` for one constraint is a run of mutations, and says whether the loop
stops after it. -/
theorem simplify_round {constraint : Nat} {rest : List Nat} {fuel : Nat} {result : Bool × ConstraintSystem}
    (first : cs.activeConstraints = constraint :: rest)
    (simplified : simplify simplifyConstraint continueAfterFailures (fuel + 1) cs = some result) :
    ∃ (mutations : List Mutation) (after : ConstraintSystem),
      run (mutations.map .mutate) cs = some after ∧
      (result = (true, after) ∧
          ((after.failedConstraint.isSome ∧ continueAfterFailures = false) ∨ after.worseThanBestSolution) ∨
        simplify simplifyConstraint continueAfterFailures fuel after = some result) := by
  simp only [simplify, first, Option.bind_eq_bind, Option.bind_eq_some] at simplified
  obtain ⟨deactivated, isDeactivated, simplified⟩ := simplified
  obtain ⟨effected, ranEffects, simplified⟩ := simplified
  obtain ⟨retired, isRetired, simplified⟩ := simplified
  have retirement : ∃ mutations : List Mutation, run (mutations.map .mutate) effected = some retired := by
    unfold retireSimplified at isRetired
    split at isRetired
    · exact ⟨[.retireFailedConstraint constraint], by simpa [SolverEvent.apply, Mutation.apply] using isRetired⟩
    · exact ⟨[.retireConstraint constraint], by simpa [SolverEvent.apply, Mutation.apply] using isRetired⟩
    · exact ⟨[], by simpa using isRetired⟩
  obtain ⟨retirements, ranRetirements⟩ := retirement
  refine ⟨.deactivateConstraint constraint :: (simplifyConstraint deactivated constraint).2 ++ retirements,
    retired, ?_, ?_⟩
  · simp only [List.map_cons, List.map_append, run_cons, List.cons_append, run_append]
    simp [SolverEvent.apply, Mutation.apply, isDeactivated, ranEffects, ranRetirements]
  · split at simplified
    next failed =>
      cases simplified
      simp only [Bool.and_eq_true, Bool.not_eq_true'] at failed
      exact .inl ⟨rfl, .inl failed⟩
    · split at simplified
      next worse => exact .inl ⟨(Option.some.inj simplified).symm, .inr worse⟩
      · exact .inr simplified

/-- `simplify` abandons a branch only when a constraint failed and failures do not let the
solver continue, or when the branch is worse than the best solution; it finishes otherwise
only with an empty worklist. -/
theorem simplify_abandons {fuel : Nat} {abandoned : Bool}
    (simplified : simplify simplifyConstraint continueAfterFailures fuel cs = some (abandoned, cs')) :
    (abandoned = true →
      (cs'.failedConstraint.isSome ∧ continueAfterFailures = false) ∨ cs'.worseThanBestSolution) ∧
    (abandoned = false → cs'.activeConstraints = []) := by
  induction fuel generalizing cs with
  | zero => cases simplified
  | succ fuel ih =>
    cases first : cs.activeConstraints with
    | nil =>
      simp only [simplify, first, Option.some.injEq, Prod.mk.injEq] at simplified
      obtain ⟨rfl, rfl⟩ := simplified
      exact ⟨nofun, fun _ => first⟩
    | cons constraint rest =>
      obtain ⟨-, after, -, ⟨stop, reason⟩ | more⟩ := simplify_round first simplified
      · obtain ⟨rfl, rfl⟩ := Prod.mk.inj stop
        exact ⟨fun _ => reason, nofun⟩
      · exact ih more

end

/-! ## Scores along a branch -/

/-- **Scores are monotone along a branch, and pruning is sound.** Every run keeps the score each
open scope recorded at or below the current score, and never raises the best score; a scope's
branch never drops below the score the scope recorded; a mutation keeps the best score, unless
it is `finalize`, which sets it to the score of the solution it takes; and when `simplify`
abandons a branch other than for a failure, no continuation of the branch before its scope is
destroyed reaches a score no worse than the best. -/
theorem scores_monotone :
    (∀ (events : List SolverEvent) (cs cs' : ConstraintSystem), ScoresMonotone cs →
      run events cs = some cs' → ScoresMonotone cs' ∧ BestNoWorse cs cs') ∧
    (∀ (events : List SolverEvent) (cs opened cs' : ConstraintSystem), cs.openScope = some opened →
      Branch events → run events opened = some cs' → cs.currentScore ≤ cs'.currentScore) ∧
    (∀ (mutation : Mutation) (cs cs' : ConstraintSystem), mutation.apply cs = some cs' →
      cs'.bestScore = cs.bestScore ∨ ∃ solution, mutation = .finalize ∧
        cs.finalize = some (solution, cs') ∧ cs'.bestScore = some solution.fixedScore) ∧
    (∀ simplifyConstraint continueAfterFailures fuel (cs abandoned : ConstraintSystem),
      cs.simplify simplifyConstraint continueAfterFailures fuel = some (true, abandoned) →
        (abandoned.failedConstraint.isSome ∧ continueAfterFailures = false) ∨
        ∀ (events : List SolverEvent) (cs' : ConstraintSystem), Branch events →
          run events abandoned = some cs' → cs'.worseThanBestSolution ∧
            ∀ best, cs'.bestScore = some best → ¬ cs'.currentScore ≤ best) := by
  refine ⟨fun _ _ _ => run_scores, fun events cs opened cs' isOpened branch ran => ?_,
    fun mutation _ _ applied => (mutation.scores applied).2.2.2, fun _ _ _ _ _ simplified => ?_⟩
  · obtain ⟨_, _, _, rfl⟩ := openScope_eq_some isOpened
    exact (branch.scores ran).1
  · exact ((simplify_abandons simplified).1 rfl).imp id fun worse _ _ branch ran => branch.worse worse ran

theorem scores_monotone_increaseScore :
    ∃ opened changed,
      { ConstraintSystem.empty .trivial with solverState := some (.initial .allow []) }.openScope =
        some opened ∧
      run [.mutate (.increaseScore .fix 1)] opened = some changed ∧
      { ConstraintSystem.empty .trivial with solverState := some (.initial .allow []) }.currentScore ≤
        changed.currentScore :=
  ⟨_, _, rfl, rfl, scores_monotone.2.1 [.mutate (.increaseScore .fix 1)]
    { ConstraintSystem.empty .trivial with solverState := some (.initial .allow []) } _ _ rfl
    (.balanced (.mutate _ .nil)) rfl⟩

end Constraints
