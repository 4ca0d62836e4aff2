import ConstraintSolver.System

/-! # Solving a target, and salvaging a failed attempt

`ConstraintSystem::solve(target, allowFreeTypeVariables)` makes up to two attempts. The first,
`solveImpl`, generates the target's constraints and solves them with fixes off. The second,
`salvage`, solves again recording fixes and tries to say what went wrong: first
`diagnoseAmbiguityWithFixes`, then `diagnoseAmbiguity` over the solutions without fixes. A success
returns the solutions. A failure emits an error, or finds one reported before, or finds a
conformance error waiting to be emitted, or has diagnostics suppressed
(`Constraints.solve_never_fails_silently`). The conformance errors waiting to be emitted are the
one case in which `solve` gives up without any error reported
(`Constraints.solve_silent_with_delayed_conformance_error`).

The solving itself and the specific diagnosers are not part of these functions. They are the
fields of `FirstAttempt`, `Salvage` and `Diagnosers`, and every result here holds for all of
them. Of a diagnoser it is assumed only that it emits errors and nothing else, and that it
reports a diagnosis only after emitting one (`Diagnosers.Honest`).
-/

namespace Constraints

/-! ## Diagnostics -/

/-- Modelled from the spec: the errors `solve` and its callees emit. -/
inductive Diagnostic where
  /-- `diag::expression_too_complex`. -/
  | expressionTooComplex
  /-- `diag::failed_to_produce_diagnostic`. -/
  | failedToProduceDiagnostic
  /-- `diag::cannot_infer_closure_type`. -/
  | cannotInferClosureType
  /-- `diag::type_of_expression_is_ambiguous`. -/
  | typeOfExpressionIsAmbiguous
  /-- `diag::property_wrapper_incompatible_property`. -/
  | propertyWrapperIncompatibleProperty
  /-- An error that a callee outside these functions emits. -/
  | other (id : Nat)
  deriving DecidableEq, Repr

/-- Modelled from the spec: `ctx.Diags` as `solve` reads it, the errors emitted so far, and
`ctx.hasDelayedConformanceErrors()`. -/
structure DiagnosticEngine where
  errors : List Diagnostic
  hasDelayedConformanceErrors : Bool
  deriving DecidableEq, Repr

namespace DiagnosticEngine

/-- `Diags.diagnose` of an error. -/
def diagnose (engine : DiagnosticEngine) (diagnostic : Diagnostic) : DiagnosticEngine :=
  { engine with errors := engine.errors ++ [diagnostic] }

/-- `Diags.hadAnyError()`. -/
def hadAnyError (engine : DiagnosticEngine) : Bool := !engine.errors.isEmpty

/-- The engine after the errors `emitted` more. -/
def emit (engine : DiagnosticEngine) (emitted : List Diagnostic) : DiagnosticEngine :=
  { engine with errors := engine.errors ++ emitted }

@[simp] theorem emit_nil (engine : DiagnosticEngine) : engine.emit [] = engine := by
  simp [emit]

@[simp] theorem emit_emit (engine : DiagnosticEngine) (first second : List Diagnostic) :
    (engine.emit first).emit second = engine.emit (first ++ second) := by
  simp [emit]

theorem diagnose_eq_emit (engine : DiagnosticEngine) (diagnostic : Diagnostic) :
    engine.diagnose diagnostic = engine.emit [diagnostic] := rfl

@[simp] theorem hadAnyError_emit (engine : DiagnosticEngine) (emitted : List Diagnostic) :
    (engine.emit emitted).hadAnyError = (engine.hadAnyError || !emitted.isEmpty) := by
  cases engine.errors <;> cases emitted <;> simp [emit, hadAnyError]

@[simp] theorem hasDelayedConformanceErrors_emit (engine : DiagnosticEngine)
    (emitted : List Diagnostic) :
    (engine.emit emitted).hasDelayedConformanceErrors = engine.hasDelayedConformanceErrors := rfl

end DiagnosticEngine

/-- From `engine`, a step reached the engine of its outcome by emitting errors only, and emitted
one if its outcome reports a diagnosis. -/
def EmitsFrom (engine : DiagnosticEngine) (outcome : Bool × DiagnosticEngine) : Prop :=
  ∃ emitted, outcome.2 = engine.emit emitted ∧ (outcome.1 = true → emitted ≠ [])

/-- A diagnoser that emits errors only, and reports a diagnosis only after emitting one. -/
def Emits (step : DiagnosticEngine → Bool × DiagnosticEngine) : Prop :=
  ∀ engine, EmitsFrom engine (step engine)

namespace EmitsFrom

theorem refl (engine : DiagnosticEngine) : EmitsFrom engine (false, engine) :=
  ⟨[], (DiagnosticEngine.emit_nil engine).symm, nofun⟩

/-- Two steps in a row, reporting whether either diagnosed, as `diagnosed |= ...` does. -/
theorem trans {engine : DiagnosticEngine} {first second : Bool × DiagnosticEngine}
    (byFirst : EmitsFrom engine first) (bySecond : EmitsFrom first.2 second) :
    EmitsFrom engine (first.1 || second.1, second.2) := by
  obtain ⟨emitted, reached, flagged⟩ := byFirst
  obtain ⟨emitted', reached', flagged'⟩ := bySecond
  refine ⟨emitted ++ emitted', by rw [reached', reached, DiagnosticEngine.emit_emit], ?_⟩
  intro either
  rcases Bool.or_eq_true_iff.mp either with diagnosed | diagnosed
  · simpa using fun empty => absurd empty (flagged diagnosed)
  · simp [flagged' diagnosed]

theorem flag {engine : DiagnosticEngine} {outcome : Bool × DiagnosticEngine}
    (emits : EmitsFrom engine outcome) (flagged : outcome.1 = true) :
    EmitsFrom engine (true, outcome.2) :=
  let ⟨emitted, reached, emittedOne⟩ := emits
  ⟨emitted, reached, fun _ => emittedOne flagged⟩

/-- A step that reports nothing keeps what the steps before it reported. -/
theorem unflag {engine : DiagnosticEngine} {outcome : Bool × DiagnosticEngine}
    (emits : EmitsFrom engine outcome) : EmitsFrom engine (false, outcome.2) :=
  let ⟨emitted, reached, _⟩ := emits
  ⟨emitted, reached, nofun⟩

/-- A branch of the code emits as the branch it takes does. -/
theorem ite {α : Type} {c : Prop} [Decidable c] {engine : DiagnosticEngine}
    {taken skipped : Bool × α × DiagnosticEngine} (ofTaken : c → EmitsFrom engine (taken.1, taken.2.2))
    (ofSkipped : ¬c → EmitsFrom engine (skipped.1, skipped.2.2)) :
    EmitsFrom engine ((if c then taken else skipped).1, (if c then taken else skipped).2.2) := by
  by_cases holds : c
  · rw [if_pos holds]; exact ofTaken holds
  · rw [if_neg holds]; exact ofSkipped holds

end EmitsFrom

/-! ## The diagnosers -/

/-- Modelled from the spec: a constraint fix, as the ambiguity diagnosis groups it. -/
structure FixInfo where
  /-- `getKind()`. -/
  kind : Nat
  /-- `getLocator()`. -/
  locator : Nat
  /-- `getLocator()->isForContextualType()`. -/
  isForContextualType : Bool
  deriving DecidableEq, Repr

/-- What `salvage` and `diagnoseAmbiguityWithFixes` call and read besides the solutions: the
diagnosers, and what they read of fixes and solutions. A fix of a solution is a pair of the
solution's position and the fix, as the `(const Solution *, const ConstraintFix *)` pairs of the
source are. -/
structure Diagnosers where
  /-- What a fix is. -/
  fixInfo : Nat → FixInfo
  /-- `Solution::getCalleeLocator` of the solution at a position, at a locator. -/
  getCalleeLocator : Nat → Nat → Nat
  /-- The locators of `SolutionDiff(solutions).overloads`. -/
  overloadDifferences : List Solution → List Nat
  diagnoseConflictingGenericArguments : List Solution → DiagnosticEngine → Bool × DiagnosticEngine
  diagnoseAmbiguityWithEphemeralPointers :
    List Solution → DiagnosticEngine → Bool × DiagnosticEngine
  /-- The static `diagnoseAmbiguity` of an overload difference and the fixes at its callee. -/
  diagnoseOverloadAmbiguity :
    Nat → List (Nat × Nat) → List Solution → DiagnosticEngine → Bool × DiagnosticEngine
  diagnoseAmbiguityWithContextualType :
    List (Nat × Nat) → List Solution → DiagnosticEngine → Bool × DiagnosticEngine
  /-- `ConstraintFix::diagnoseForAmbiguity` of the first fix of a group, given the group. -/
  diagnoseForAmbiguity : List (Nat × Nat) → DiagnosticEngine → Bool × DiagnosticEngine
  /-- `ConstraintSystem::diagnoseAmbiguity`. -/
  diagnoseAmbiguity : List Solution → DiagnosticEngine → Bool × DiagnosticEngine

/-- Every diagnoser emits errors only, and reports a diagnosis only after emitting one. -/
structure Diagnosers.Honest (diagnosers : Diagnosers) : Prop where
  conflictingGenericArguments : ∀ solutions,
    Emits (diagnosers.diagnoseConflictingGenericArguments solutions)
  ephemeralPointers : ∀ solutions, Emits (diagnosers.diagnoseAmbiguityWithEphemeralPointers solutions)
  overloadAmbiguity : ∀ locator aggregate solutions,
    Emits (diagnosers.diagnoseOverloadAmbiguity locator aggregate solutions)
  contextualType : ∀ fixes solutions,
    Emits (diagnosers.diagnoseAmbiguityWithContextualType fixes solutions)
  forAmbiguity : ∀ aggregate, Emits (diagnosers.diagnoseForAmbiguity aggregate)
  ambiguity : ∀ solutions, Emits (diagnosers.diagnoseAmbiguity solutions)

/-- Diagnosers that never diagnose. -/
def Diagnosers.silent : Diagnosers where
  fixInfo _ := ⟨0, 0, false⟩
  getCalleeLocator _ locator := locator
  overloadDifferences _ := []
  diagnoseConflictingGenericArguments _ engine := (false, engine)
  diagnoseAmbiguityWithEphemeralPointers _ engine := (false, engine)
  diagnoseOverloadAmbiguity _ _ _ engine := (false, engine)
  diagnoseAmbiguityWithContextualType _ _ engine := (false, engine)
  diagnoseForAmbiguity _ engine := (false, engine)
  diagnoseAmbiguity _ engine := (false, engine)

theorem Diagnosers.silent_honest : Diagnosers.silent.Honest :=
  ⟨fun _ => EmitsFrom.refl, fun _ => EmitsFrom.refl, fun _ _ _ => EmitsFrom.refl,
    fun _ _ => EmitsFrom.refl, fun _ => EmitsFrom.refl, fun _ => EmitsFrom.refl⟩

/-! ## The model -/

/-- `MapVector::operator[]` followed by `push_back`: add `value` to the group of `key`, opening a
group at the end for a new key. -/
def pushToGroup {Key Value : Type} [DecidableEq Key] :
    List (Key × List Value) → Key → Value → List (Key × List Value)
  | [], key, value => [(key, [value])]
  | (other, group) :: rest, key, value =>
    if other = key then (other, group ++ [value]) :: rest
    else (other, group) :: pushToGroup rest key value

/-- The loop over `solutionDiff.overloads` of `diagnoseAmbiguityWithFixes`: diagnose each
difference whose callee has fixes, and collect those fixes as considered. -/
def diagnoseOverloads (diagnosers : Diagnosers) (solutions : List Solution)
    (fixesByCallee : List (Nat × List (Nat × Nat))) :
    List Nat → Bool × List (Nat × Nat) × DiagnosticEngine → Bool × List (Nat × Nat) × DiagnosticEngine
  | [], state => state
  | locator :: rest, (diagnosed, considered, engine) =>
    match fixesByCallee.lookup locator with
    | none => diagnoseOverloads diagnosers solutions fixesByCallee rest (diagnosed, considered, engine)
    | some aggregate =>
      let step := diagnosers.diagnoseOverloadAmbiguity locator aggregate solutions engine
      diagnoseOverloads diagnosers solutions fixesByCallee rest
        (diagnosed || step.1, considered ++ aggregate, step.2)

/-- The loop over `fixesByKind` of `diagnoseAmbiguityWithFixes`: diagnose each group of leftover
fixes of one kind and locator that every solution has. -/
def diagnoseLeftoverFixes (diagnosers : Diagnosers) (solutions : List Solution) :
    List ((Nat × Nat) × List (Nat × Nat)) → Bool × DiagnosticEngine → Bool × DiagnosticEngine
  | [], state => state
  | (key, aggregate) :: rest, (diagnosed, engine) =>
    if solutions.all fun solution => solution.fixes.any fun fix =>
        ((diagnosers.fixInfo fix).kind, (diagnosers.fixInfo fix).locator) = key then
      let step := diagnosers.diagnoseForAmbiguity aggregate engine
      diagnoseLeftoverFixes diagnosers solutions rest (diagnosed || step.1, step.2)
    else diagnoseLeftoverFixes diagnosers solutions rest (diagnosed, engine)

/-- `ConstraintSystem::diagnoseAmbiguityWithFixes`: whether it diagnosed, the solutions it leaves
in the vector it was given (it erases those worse than the best score), and the engine. -/
def diagnoseAmbiguityWithFixes (diagnosers : Diagnosers) (bestScore : Option Score)
    (solutions : List Solution) (engine : DiagnosticEngine) :
    Bool × List Solution × DiagnosticEngine :=
  if solutions.isEmpty then (false, solutions, engine) else
  let conflicting := diagnosers.diagnoseConflictingGenericArguments solutions engine
  if conflicting.1 then (true, solutions, conflicting.2) else
  let engine := conflicting.2
  let solutions := match bestScore with
    | some best => solutions.filter fun solution => !decide (best < solution.fixedScore)
    | none => solutions
  if bestScore.isSome && solutions.all (fun solution =>
      solution.fixedScore.data.getD ScoreKind.fix.index 0 == 0 && solution.fixes.isEmpty) then
    (false, solutions, engine) else
  if solutions.length < 2 then (false, solutions, engine) else
  let ephemeral := diagnosers.diagnoseAmbiguityWithEphemeralPointers solutions engine
  if ephemeral.1 then (true, solutions, ephemeral.2) else
  let fixes := (solutions.enum.flatMap fun entry => entry.2.fixes.map (entry.1, ·)).foldl
    insertNew []
  let contextualFixes := fixes.filter fun fix => (diagnosers.fixInfo fix.2).isForContextualType
  let fixesByCallee := (fixes.filter fun fix => !(diagnosers.fixInfo fix.2).isForContextualType).foldl
    (fun groups fix => pushToGroup groups
      (diagnosers.getCalleeLocator fix.1 (diagnosers.fixInfo fix.2).locator) fix) []
  let overloads := diagnoseOverloads diagnosers solutions fixesByCallee
    (diagnosers.overloadDifferences solutions) (false, [], ephemeral.2)
  let contextual := diagnosers.diagnoseAmbiguityWithContextualType contextualFixes solutions
    overloads.2.2
  let considered := if contextual.1 then overloads.2.1 ++ contextualFixes else overloads.2.1
  let fixesByKind := (fixes.filter (· ∉ considered)).foldl (fun groups fix => pushToGroup groups
    ((diagnosers.fixInfo fix.2).kind, (diagnosers.fixInfo fix.2).locator) fix) []
  let leftover := diagnoseLeftoverFixes diagnosers solutions fixesByKind
    (overloads.1 || contextual.1, contextual.2)
  (leftover.1, solutions, leftover.2)

/-- Modelled from the spec: `SolutionResult`. -/
inductive SolutionResult where
  | success (solution : Solution)
  | error
  | tooComplex
  | ambiguous (solutions : List Solution)
  | undiagnosedError

/-- The result is `Ambiguous`. -/
def SolutionResult.isAmbiguous : SolutionResult → Bool
  | .ambiguous _ => true
  | _ => false

/-- What the callees of the first attempt give: whether `generateConstraints` failed and the
errors it emitted, the solutions `solve(solutions, allowFreeTypeVariables)` found, and
`getExpressionTooComplex`. -/
structure FirstAttempt where
  constraintGenerationFailed : Bool
  generationErrors : List Diagnostic
  solutions : List Solution
  tooComplex : Bool

/-- `ConstraintSystem::solveImpl(target, allowFreeTypeVariables)`. -/
def FirstAttempt.solveImpl (attempt : FirstAttempt) (engine : DiagnosticEngine) :
    SolutionResult × DiagnosticEngine :=
  let engine := engine.emit attempt.generationErrors
  if attempt.constraintGenerationFailed then (.error, engine)
  else if attempt.tooComplex then (.tooComplex, engine)
  else match attempt.solutions with
    | [] => (.undiagnosedError, engine)
    | [solution] => (.success solution, engine)
    | solutions => (.ambiguous solutions, engine)

/-- What the callees of `salvage` give: the solutions `solveImpl(viable)` found with fixes
recorded, the best score the solver state kept, `findBestSolution`, which gives a position in
the list it is given, `getExpressionTooComplex`, and the diagnosers. -/
structure Salvage where
  viable : List Solution
  bestScore : Option Score
  findBestSolution : (solutions : List Solution) → Option (Fin solutions.length)
  tooComplex : List Solution → Bool
  diagnosers : Diagnosers

/-- `ConstraintSystem::salvage`. -/
def Salvage.salvage (context : Salvage) (engine : DiagnosticEngine) :
    SolutionResult × DiagnosticEngine :=
  let withFixes := diagnoseAmbiguityWithFixes context.diagnosers context.bestScore context.viable
    engine
  let viable := withFixes.2.1
  if withFixes.1 then (.ambiguous viable, withFixes.2.2) else
  match context.findBestSolution viable with
  | some best => (.success (viable.get best), withFixes.2.2)
  | none =>
    let viable := viable.filter fun solution => solution.fixes.isEmpty
    let ambiguity := if viable.length > 1 then
        context.diagnosers.diagnoseAmbiguity viable withFixes.2.2
      else (false, withFixes.2.2)
    if ambiguity.1 then (.ambiguous viable, ambiguity.2)
    else if context.tooComplex viable then (.tooComplex, ambiguity.2)
    else (.undiagnosedError, ambiguity.2)

/-- Modelled from the spec: what `diagnoseFailureFor` reads of a `SolutionApplicationTarget`. -/
inductive Target where
  /-- An expression, and whether it is a closure once a discarded assignment and
  `RebindSelfInConstructorExpr` are looked through. -/
  | expression (isClosure : Bool)
  /-- An uninitialized variable with a property wrapper. -/
  | uninitializedWrappedVar
  /-- A function body. -/
  | function
  deriving DecidableEq, Repr

/-- The `ConstraintSystemFlags` that `solve` reads. -/
structure SolveOptions where
  /-- `SuppressDiagnostics`, which `shouldSuppressDiagnostics()` reads. -/
  suppressDiagnostics : Bool
  /-- `AllowUnresolvedTypeVariables`. -/
  allowUnresolvedTypeVariables : Bool
  deriving DecidableEq, Repr

/-- `ConstraintSystem::maybeProduceFallbackDiagnostic`. -/
def maybeProduceFallbackDiagnostic (options : SolveOptions) (engine : DiagnosticEngine) :
    DiagnosticEngine :=
  if options.suppressDiagnostics then engine
  else if engine.hadAnyError || engine.hasDelayedConformanceErrors then engine
  else engine.diagnose .failedToProduceDiagnostic

/-- `ConstraintSystem::diagnoseFailureFor`, which always emits an error. -/
def diagnoseFailureFor (target : Target) (engine : DiagnosticEngine) : DiagnosticEngine :=
  match target with
  | .expression true => engine.diagnose .cannotInferClosureType
  | .expression false => engine.diagnose .typeOfExpressionIsAmbiguous
  | .uninitializedWrappedVar => engine.diagnose .propertyWrapperIncompatibleProperty
  | .function => engine.diagnose .failedToProduceDiagnostic

/-- What one stage of the loop of `solve` does with its attempt's result: return, or loop
again. -/
inductive StageOutcome where
  | done (solutions : Option (List Solution)) (engine : DiagnosticEngine)
  | retry (engine : DiagnosticEngine)

/-- The `UndiagnosedError` case of the loop of `solve`, into which `Ambiguous` falls through. -/
def handleUndiagnosedError (options : SolveOptions) (target : Target) (stage : Nat)
    (engine : DiagnosticEngine) : StageOutcome :=
  if options.suppressDiagnostics then .done none engine
  else if stage = 1 then .done none (diagnoseFailureFor target engine)
  else .retry engine

/-- The switch in the loop of `solve` at `stage`. -/
def solveStage (options : SolveOptions) (target : Target) (stage : Nat) :
    SolutionResult → DiagnosticEngine → StageOutcome
  | .success solution, engine => .done (some [solution]) engine
  | .error, engine => .done none (maybeProduceFallbackDiagnostic options engine)
  | .tooComplex, engine => .done none (engine.diagnose .expressionTooComplex)
  | .ambiguous solutions, engine =>
    if stage = 1 then .done none engine
    else if options.allowUnresolvedTypeVariables then .done (some solutions) engine
    else handleUndiagnosedError options target stage engine
  | .undiagnosedError, engine => handleUndiagnosedError options target stage engine

/-- The loop of `solve` over the stages left: attempt (`solveImpl` at stage 0, `salvage` after),
then judge the result. Running out of stages is the `llvm_unreachable` after the loop. -/
def solveStages (options : SolveOptions) (target : Target) (attempt : FirstAttempt)
    (context : Salvage) : List Nat → DiagnosticEngine →
    Option (Option (List Solution) × DiagnosticEngine)
  | [], _ => none
  | stage :: later, engine =>
    let attempted := if stage = 0 then attempt.solveImpl engine else context.salvage engine
    match solveStage options target stage attempted.1 attempted.2 with
    | .done solutions engine => some (solutions, engine)
    | .retry engine => solveStages options target attempt context later engine

/-- `ConstraintSystem::solve(target, allowFreeTypeVariables)`: the returned solutions, `None`
as `none`, and the engine after it. -/
def solve (options : SolveOptions) (target : Target) (attempt : FirstAttempt)
    (context : Salvage) (engine : DiagnosticEngine) :
    Option (Option (List Solution) × DiagnosticEngine) :=
  solveStages options target attempt context (List.range 2) engine

/-! ## Every diagnosis emits -/

section Honest

variable {diagnosers : Diagnosers} (honest : diagnosers.Honest)
include honest

theorem diagnoseOverloads_emits (solutions : List Solution)
    (fixesByCallee : List (Nat × List (Nat × Nat))) (engine : DiagnosticEngine) :
    ∀ (locators : List Nat) (state : Bool × List (Nat × Nat) × DiagnosticEngine),
      EmitsFrom engine (state.1, state.2.2) →
      EmitsFrom engine ((diagnoseOverloads diagnosers solutions fixesByCallee locators state).1,
        (diagnoseOverloads diagnosers solutions fixesByCallee locators state).2.2)
  | [], _, emits => emits
  | locator :: rest, (diagnosed, considered, reached), emits => by
    unfold diagnoseOverloads
    split
    · exact diagnoseOverloads_emits solutions fixesByCallee engine rest _ emits
    · exact diagnoseOverloads_emits solutions fixesByCallee engine rest _
        (emits.trans (honest.overloadAmbiguity _ _ _ _))

theorem diagnoseLeftoverFixes_emits (solutions : List Solution) (engine : DiagnosticEngine) :
    ∀ (groups : List ((Nat × Nat) × List (Nat × Nat))) (state : Bool × DiagnosticEngine),
      EmitsFrom engine state →
      EmitsFrom engine ((diagnoseLeftoverFixes diagnosers solutions groups state).1,
        (diagnoseLeftoverFixes diagnosers solutions groups state).2)
  | [], _, emits => emits
  | (key, aggregate) :: rest, (diagnosed, reached), emits => by
    unfold diagnoseLeftoverFixes
    split
    · exact diagnoseLeftoverFixes_emits solutions engine rest _
        (emits.trans (honest.forAmbiguity _ _))
    · exact diagnoseLeftoverFixes_emits solutions engine rest _ emits

/-- `diagnoseAmbiguityWithFixes` reports a diagnosis only after one of its diagnosers emitted
an error. -/
theorem diagnoseAmbiguityWithFixes_emits (bestScore : Option Score) (solutions : List Solution)
    (engine : DiagnosticEngine) :
    EmitsFrom engine ((diagnoseAmbiguityWithFixes diagnosers bestScore solutions engine).1,
      (diagnoseAmbiguityWithFixes diagnosers bestScore solutions engine).2.2) := by
  have conflicting := honest.conflictingGenericArguments solutions engine
  unfold diagnoseAmbiguityWithFixes
  dsimp only
  refine .ite (fun _ => .refl engine) fun _ => .ite conflicting.flag fun _ => ?_
  refine .ite (fun _ => conflicting.unflag) fun _ => .ite (fun _ => conflicting.unflag) fun _ => ?_
  refine .ite (fun diagnosed => (conflicting.trans (honest.ephemeralPointers _ _)).flag
    (by simp [diagnosed])) fun _ => ?_
  exact diagnoseLeftoverFixes_emits honest _ engine _ _
    ((diagnoseOverloads_emits honest _ _ engine _ _
      (conflicting.trans (honest.ephemeralPointers _ _)).unflag).trans
        (honest.contextualType _ _ _))

end Honest

/-- `salvage` returns `Ambiguous` only after a diagnoser emitted an error. -/
theorem salvage_emits (context : Salvage) (honest : context.diagnosers.Honest)
    (engine : DiagnosticEngine) :
    EmitsFrom engine ((context.salvage engine).1.isAmbiguous, (context.salvage engine).2) := by
  have withFixes := diagnoseAmbiguityWithFixes_emits honest context.bestScore context.viable engine
  unfold Salvage.salvage
  dsimp only
  by_cases diagnosed : (diagnoseAmbiguityWithFixes context.diagnosers context.bestScore
    context.viable engine).1 = true
  · rw [if_pos diagnosed]
    exact withFixes.flag diagnosed
  rw [if_neg diagnosed]
  split
  · exact withFixes.unflag
  · have ambiguity := withFixes.unflag.trans (honest.ambiguity ((diagnoseAmbiguityWithFixes
      context.diagnosers context.bestScore context.viable engine).2.1.filter
        fun solution => solution.fixes.isEmpty) _)
    split_ifs with more ambiguous
    · exact ambiguity.flag (by simpa using ambiguous)
    · exact ambiguity.unflag
    · exact ambiguity.unflag
    · rename_i impossible
      exact impossible.elim
    · exact withFixes.unflag
    · exact withFixes.unflag

/-! ## `solve` never gives up silently -/

/-- Why `solve` may return `None` from `engine` after emitting `emitted`: it emitted an error, or
one was reported before, or a conformance error waits to be emitted, or diagnostics are
suppressed. -/
def GivesUpVisibly (options : SolveOptions) (engine : DiagnosticEngine)
    (emitted : List Diagnostic) : Prop :=
  emitted ≠ [] ∨ engine.hadAnyError = true ∨ engine.hasDelayedConformanceErrors = true ∨
    options.suppressDiagnostics = true

theorem GivesUpVisibly.of_emit {options : SolveOptions} {engine : DiagnosticEngine}
    {first second : List Diagnostic} (visible : GivesUpVisibly options (engine.emit first) second) :
    GivesUpVisibly options engine (first ++ second) := by
  unfold GivesUpVisibly at visible ⊢
  cases first <;> simp_all

theorem GivesUpVisibly.of_ne_nil {options : SolveOptions} {engine : DiagnosticEngine}
    {first second : List Diagnostic} (emittedFirst : first ≠ []) :
    GivesUpVisibly options engine (first ++ second) :=
  .inl (by simp [emittedFirst])

/-- What a stage that returns emitted, and why it may return `None`: as `GivesUpVisibly` says, or
because `salvage` returned `Ambiguous`, which it does only after diagnosing. -/
theorem solveStage_done {options : SolveOptions} {target : Target} {stage : Nat}
    {result : SolutionResult} {engine final : DiagnosticEngine}
    {solutions : Option (List Solution)}
    (done : solveStage options target stage result engine = .done solutions final) :
    ∃ emitted, final = engine.emit emitted ∧ (solutions = none →
      GivesUpVisibly options engine emitted ∨ (stage = 1 ∧ result.isAmbiguous = true)) := by
  have undiagnosed : handleUndiagnosedError options target stage engine = .done solutions final →
      ∃ emitted, final = engine.emit emitted ∧ (solutions = none →
        GivesUpVisibly options engine emitted) := by
    unfold handleUndiagnosedError
    split_ifs with suppressed
    · rintro ⟨⟩
      exact ⟨[], (engine.emit_nil).symm, fun _ => .inr (.inr (.inr suppressed))⟩
    · rintro ⟨⟩
      cases target <;> rename_i isClosure <;> try cases isClosure
      all_goals exact ⟨_, rfl, fun _ => .inl (List.cons_ne_nil _ _)⟩
    · nofun
  cases result with
  | success solution => cases done; exact ⟨[], (engine.emit_nil).symm, nofun⟩
  | error =>
    cases done
    unfold maybeProduceFallbackDiagnostic
    split_ifs with suppressed reported
    · exact ⟨[], (engine.emit_nil).symm, fun _ => .inl (.inr (.inr (.inr suppressed)))⟩
    · refine ⟨[], (engine.emit_nil).symm, fun _ => .inl ?_⟩
      rcases Bool.or_eq_true_iff.mp reported with reported | delayed
      · exact .inr (.inl reported)
      · exact .inr (.inr (.inl delayed))
    · exact ⟨_, rfl, fun _ => .inl (.inl (List.cons_ne_nil _ _))⟩
  | tooComplex => cases done; exact ⟨_, rfl, fun _ => .inl (.inl (List.cons_ne_nil _ _))⟩
  | ambiguous found =>
    unfold solveStage at done
    split_ifs at done with salvaged allowed
    · cases done; exact ⟨[], (engine.emit_nil).symm, fun _ => .inr ⟨salvaged, rfl⟩⟩
    · cases done; exact ⟨[], (engine.emit_nil).symm, nofun⟩
    · exact (undiagnosed done).imp fun _ => And.imp_right fun why none => .inl (why none)
  | undiagnosedError =>
    exact (undiagnosed done).imp fun _ => And.imp_right fun why none => .inl (why none)

/-- Only the first stage loops again, and it leaves the engine as it was. -/
theorem solveStage_retry {options : SolveOptions} {target : Target} {stage : Nat}
    {result : SolutionResult} {engine later : DiagnosticEngine}
    (retry : solveStage options target stage result engine = .retry later) :
    stage ≠ 1 ∧ later = engine := by
  have undiagnosed : handleUndiagnosedError options target stage engine = .retry later →
      stage ≠ 1 ∧ later = engine := by
    unfold handleUndiagnosedError
    split_ifs with suppressed final
    · nofun
    · nofun
    · rintro ⟨⟩; exact ⟨final, rfl⟩
  cases result with
  | ambiguous found =>
    unfold solveStage at retry
    split_ifs at retry
    exact undiagnosed retry
  | undiagnosedError => exact undiagnosed retry
  | _ => cases retry

theorem solveImpl_engine (attempt : FirstAttempt) (engine : DiagnosticEngine) :
    (attempt.solveImpl engine).2 = engine.emit attempt.generationErrors := by
  unfold FirstAttempt.solveImpl
  split_ifs
  · rfl
  · rfl
  · split <;> rfl

theorem solve_never_fails_silently (options : SolveOptions) (target : Target)
    (attempt : FirstAttempt) (context : Salvage) (honest : context.diagnosers.Honest)
    (engine : DiagnosticEngine) :
    ∃ solutions emitted,
      solve options target attempt context engine = some (solutions, engine.emit emitted) ∧
      (solutions = none → emitted ≠ [] ∨ engine.hadAnyError = true ∨
        engine.hasDelayedConformanceErrors = true ∨ options.suppressDiagnostics = true) := by
  show ∃ solutions emitted, solveStages options target attempt context [0, 1] engine = _ ∧ _
  simp only [solveStages, if_pos, reduceIte, solveImpl_engine]
  cases first : solveStage options target 0 (attempt.solveImpl engine).1
      (engine.emit attempt.generationErrors) with
  | done solutions final =>
    obtain ⟨emitted, rfl, why⟩ := solveStage_done first
    refine ⟨solutions, attempt.generationErrors ++ emitted, by simp, fun none => ?_⟩
    rcases why none with visible | ⟨impossible, _⟩
    · exact visible.of_emit
    · cases impossible
  | retry later =>
    obtain ⟨-, rfl⟩ := solveStage_retry first
    have salvaged := salvage_emits context honest (engine.emit attempt.generationErrors)
    obtain ⟨emittedBySalvage, reached, diagnosed⟩ := salvaged
    dsimp only at reached diagnosed
    cases second : solveStage options target 1 (context.salvage
        (engine.emit attempt.generationErrors)).1
        (context.salvage (engine.emit attempt.generationErrors)).2 with
    | done solutions final =>
      obtain ⟨emitted, rfl, why⟩ := solveStage_done second
      refine ⟨solutions, attempt.generationErrors ++ (emittedBySalvage ++ emitted),
        by simp [first, second]; simp [reached], fun none => ?_⟩
      refine GivesUpVisibly.of_emit ?_
      rcases why none with visible | ⟨_, ambiguous⟩
      · rw [reached] at visible
        exact visible.of_emit
      · exact .of_ne_nil (diagnosed ambiguous)
    | retry later => exact absurd rfl (solveStage_retry second).1

/-- Neither attempt finds a solution and nothing diagnoses: `solve` reports a closure whose type
it cannot infer. -/
theorem solve_never_fails_silently_closure :
    Diagnosers.silent.Honest ∧ ∃ solutions emitted,
      solve ⟨false, false⟩ (.expression true) ⟨false, [], [], false⟩
          ⟨[], none, fun _ => none, fun _ => false, Diagnosers.silent⟩ ⟨[], false⟩ =
        some (solutions, (⟨[], false⟩ : DiagnosticEngine).emit emitted) ∧
      (solutions = none → emitted ≠ [] ∨ (⟨[], false⟩ : DiagnosticEngine).hadAnyError = true ∨
        (⟨[], false⟩ : DiagnosticEngine).hasDelayedConformanceErrors = true ∨
        (⟨false, false⟩ : SolveOptions).suppressDiagnostics = true) :=
  ⟨Diagnosers.silent_honest, solve_never_fails_silently _ _ _ _ Diagnosers.silent_honest _⟩

/-- Constraint generation fails without a diagnostic while a conformance error waits to be
emitted: `solve` returns `None`, no error has been reported and none is emitted, and diagnostics
are not suppressed. -/
theorem solve_silent_with_delayed_conformance_error :
    solve ⟨false, false⟩ (.expression false) ⟨true, [], [], false⟩
        ⟨[], none, fun _ => none, fun _ => false, Diagnosers.silent⟩ ⟨[], true⟩ =
      some (none, ⟨[], true⟩) :=
  rfl

end Constraints
