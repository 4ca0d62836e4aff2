import ConstraintSolver.System

/-! # Operations of the constraint system

The mutations the solver performs on a constraint system: creating and binding type
variables, merging their classes, moving constraints between the active and inactive lists,
retiring and generating constraints, recording decisions in the side tables, typing nodes,
favoring and disabling constraints, and raising the score; then `applySolution`, which
replays a solution into the system, and `finalize`, which takes one.

Operations that can fail return `Option`: `none` is an assertion that fails, a lookup that
does not stop, or a splice of the intrusive constraint lists that the C++ leaves undefined.
The operations on the constraint lists, on the journals of the solver state and on the
records of type variables live in headers outside the sources and are modelled from the spec;
the others follow the sources.
-/

namespace Constraints

namespace ConstraintSystem

variable (cs : ConstraintSystem)

/-! ## Type variables -/

/-- The binding journal of the active solver state (`getSavedBindings()`), empty without one. -/
def savedBindings : List Arena.SavedTypeVariableBinding :=
  (cs.solverState.map (·.savedBindings)).getD []

/-- Overwrite a type variable's record, journaling the old record when a solver state is
active. -/
def writeTypeVariable (v : Nat) (record : TypeVariableImpl) : ConstraintSystem :=
  { cs with
    arena := cs.arena.write v record
    solverState := cs.solverState.map fun state =>
      { state with savedBindings := state.savedBindings ++ [⟨v, cs.arena.impl v⟩] } }

/-- `addTypeVariable`: insert into `TypeVariables` (and notify the constraint graph). -/
def addTypeVariable (v : Nat) : ConstraintSystem :=
  { cs with typeVariables := insertNew cs.typeVariables v }

/-- `createTypeVariable` for the identifier `assignTypeVariableID` hands out: a new object,
so neither the system nor the arena has seen it. Creation is not journaled. -/
def createTypeVariable (v : Nat) (options : TypeVariableOptions) : Option ConstraintSystem :=
  if v ∈ cs.typeVariables ∨ v ∈ cs.arena.allocated then none
  else some ({ cs with arena := cs.arena.write v ⟨.parent v, options⟩ }.addTypeVariable v)

/-- `getRepresentative`. -/
def getRepresentative (v : Nat) : Option Nat := cs.arena.getRepresentative v

/-- `getFixedType`. -/
def getFixedType (v : Nat) : Option (Option Ty) := cs.arena.getFixedType v

/-! ## The constraint lists (modelled from the spec) -/

/-- Set the flags of one constraint. -/
def setFlags (constraint : Nat) (flags : ConstraintFlags) : ConstraintSystem :=
  { cs with constraints := Function.update cs.constraints constraint flags }

/-- Modelled from the spec: `activateConstraint` splices an inactive constraint onto the end
of the active list. -/
def activateConstraint (constraint : Nat) : Option ConstraintSystem :=
  if !(cs.constraints constraint).isActive ∧ constraint ∈ cs.inactiveConstraints then
    some { cs.setFlags constraint { cs.constraints constraint with isActive := true } with
      activeConstraints := cs.activeConstraints ++ [constraint]
      inactiveConstraints := cs.inactiveConstraints.erase constraint }
  else none

theorem activateConstraint_eq_some {constraint : Nat} {cs' : ConstraintSystem}
    (activated : cs.activateConstraint constraint = some cs') :
    (cs.constraints constraint).isActive = false ∧ constraint ∈ cs.inactiveConstraints ∧
      cs' = { cs.setFlags constraint { cs.constraints constraint with isActive := true } with
        activeConstraints := cs.activeConstraints ++ [constraint]
        inactiveConstraints := cs.inactiveConstraints.erase constraint } := by
  unfold activateConstraint at activated
  split at activated
  · cases activated
    simp_all
  · cases activated

/-- Modelled from the spec: `deactivateConstraint` splices an active constraint onto the end
of the inactive list. -/
def deactivateConstraint (constraint : Nat) : Option ConstraintSystem :=
  if (cs.constraints constraint).isActive ∧ constraint ∈ cs.activeConstraints then
    some { cs.setFlags constraint { cs.constraints constraint with isActive := false } with
      activeConstraints := cs.activeConstraints.erase constraint
      inactiveConstraints := cs.inactiveConstraints ++ [constraint] }
  else none

theorem deactivateConstraint_eq_some {constraint : Nat} {cs' : ConstraintSystem}
    (deactivated : cs.deactivateConstraint constraint = some cs') :
    (cs.constraints constraint).isActive = true ∧ constraint ∈ cs.activeConstraints ∧
      cs' = { cs.setFlags constraint { cs.constraints constraint with isActive := false } with
        activeConstraints := cs.activeConstraints.erase constraint
        inactiveConstraints := cs.inactiveConstraints ++ [constraint] } := by
  unfold deactivateConstraint at deactivated
  split at deactivated
  · cases deactivated
    simp_all
  · cases deactivated

/-- Unlink an inactive constraint and push it onto the front of the solver state's retired
list. -/
def removeInactiveConstraint (constraint : Nat) : Option ConstraintSystem :=
  if constraint ∈ cs.inactiveConstraints then
    some { cs with
      inactiveConstraints := cs.inactiveConstraints.erase constraint
      solverState := cs.solverState.map fun state =>
        { state with retiredConstraints := constraint :: state.retiredConstraints } }
  else none

theorem removeInactiveConstraint_eq_some {constraint : Nat} {cs' : ConstraintSystem}
    (removed : cs.removeInactiveConstraint constraint = some cs') :
    constraint ∈ cs.inactiveConstraints ∧
      cs' = { cs with
        inactiveConstraints := cs.inactiveConstraints.erase constraint
        solverState := cs.solverState.map fun state =>
          { state with retiredConstraints := constraint :: state.retiredConstraints } } := by
  unfold removeInactiveConstraint at removed
  split at removed
  · cases removed
    simp_all
  · cases removed

/-- Modelled from the spec: `retireConstraint` deactivates the constraint if it is active,
then removes it from the inactive list into the retired one. -/
def retireConstraint (constraint : Nat) : Option ConstraintSystem :=
  (if (cs.constraints constraint).isActive then cs.deactivateConstraint constraint else some cs)
    >>= (·.removeInactiveConstraint constraint)

/-- Modelled from the spec: `retireFailedConstraint` records the failure and retires the
constraint. -/
def retireFailedConstraint (constraint : Nat) : Option ConstraintSystem :=
  { cs with failedConstraint := some constraint }.retireConstraint constraint

/-- Modelled from the spec: `addUnsolvedConstraint` of a new constraint object appends it to
the inactive list, and the solver state journals it as generated. It leaves the object's flags
alone. -/
def addUnsolvedConstraint (constraint : Nat) : Option ConstraintSystem :=
  if constraint ∈ cs.activeConstraints ∨ constraint ∈ cs.inactiveConstraints ∨
      constraint ∈ (cs.solverState.map (·.retiredConstraints)).getD [] then none
  else some { cs with
    inactiveConstraints := cs.inactiveConstraints ++ [constraint]
    solverState := cs.solverState.map fun state =>
      { state with generatedConstraints := state.generatedConstraints ++ [constraint] } }

theorem addUnsolvedConstraint_eq_some {constraint : Nat} {cs' : ConstraintSystem}
    (added : cs.addUnsolvedConstraint constraint = some cs') :
    constraint ∉ cs.activeConstraints ∧ constraint ∉ cs.inactiveConstraints ∧
      constraint ∉ (cs.solverState.map (·.retiredConstraints)).getD [] ∧
      cs' = { cs with
        inactiveConstraints := cs.inactiveConstraints ++ [constraint]
        solverState := cs.solverState.map fun state =>
          { state with generatedConstraints := state.generatedConstraints ++ [constraint] } } := by
  unfold addUnsolvedConstraint at added
  split at added
  · cases added
  · cases added
    simp_all

/-- The loop of `addTypeVariableConstraintsToWorkList`: activate, in order, the given
constraints that are not active. -/
def activateAll : List Nat → ConstraintSystem → Option ConstraintSystem
  | [], cs => some cs
  | constraint :: rest, cs =>
    (if (cs.constraints constraint).isActive then some cs else cs.activateConstraint constraint)
      >>= activateAll rest

/-- `addTypeVariableConstraintsToWorkList`: activate the constraints the constraint graph
gathers for the variable. -/
def addTypeVariableConstraintsToWorkList (typeVar : Nat) : Option ConstraintSystem :=
  activateAll (cs.env.gatherConstraints typeVar) cs

/-! ## Binding and merging -/

/-- `increaseScore`. -/
def increaseScore (kind : ScoreKind) (value : Nat) : ConstraintSystem :=
  { cs with currentScore := cs.currentScore.increase kind value }

/-- The literal check of `assignFixedType`: the first member of the representative's class
whose locator anchors a literal decides; binding the class away from the nominal of the
literal protocol's default type is a non-default literal. -/
def isNonDefaultLiteral (representative : Nat) (type : Ty) : Bool :=
  match (cs.typeVariables.filter fun tv => cs.getRepresentative tv = some representative).findSome?
      cs.env.literalDefault with
  | some (some defaultNominal) => some defaultNominal != type.anyNominal
  | _ => false

/-- `ConstraintSystem::assignFixedType`. The binding itself
(`TypeVariableType::Implementation::assignFixedType`, modelled from the spec) requires that
the class has no fixed type yet and fixes the representative's record, journaled. -/
def assignFixedType (typeVar : Nat) (type : Ty) (updateState : Bool) :
    Option ConstraintSystem :=
  if type.hasError then none else
  (cs.getRepresentative typeVar).bind fun representative =>
  if (cs.arena.fixedTypeAt representative).isSome then none else
  let cs := cs.writeTypeVariable representative
    { cs.arena.impl representative with parentOrFixed := .fixed type }
  if !updateState then some cs else
  let cs :=
    if !type.isTypeVariableOrMember && cs.isNonDefaultLiteral representative type then
      cs.increaseScore .nonDefaultLiteral 1
    else cs
  cs.addTypeVariableConstraintsToWorkList typeVar

/-- Modelled from the spec: `TypeVariableType::Implementation::mergeEquivalenceClasses`
(declared in the solver's header), on two distinct representatives. The one with the higher
identifier is linked to the one with the lower (§4.3: the lower identifier wins), journaled.
When only the higher one has a fixed type, the lower one takes it, journaled, so that both
classes resolve to that type (§8, scenario 6). When both have one, the merge would give the
members of one class another fixed type, which §4.1 makes a contract violation: it fails. -/
def implMergeEquivalenceClasses (typeVar1 typeVar2 : Nat) : Option ConstraintSystem :=
  let lower := min typeVar1 typeVar2
  let higher := max typeVar1 typeVar2
  let linked := cs.writeTypeVariable higher
    { cs.arena.impl higher with parentOrFixed := .parent lower }
  match cs.arena.fixedTypeAt lower, cs.arena.fixedTypeAt higher with
  | some _, some _ => none
  | none, some type =>
    some (linked.writeTypeVariable lower { cs.arena.impl lower with parentOrFixed := .fixed type })
  | _, none => some linked

/-- The two outcomes of merging implementations: the higher variable linked to the lower and,
when only the higher had a fixed type, the lower fixed to that type. -/
theorem implMergeEquivalenceClasses_eq_some {typeVar1 typeVar2 : Nat} {cs' : ConstraintSystem}
    (merged : cs.implMergeEquivalenceClasses typeVar1 typeVar2 = some cs') :
    (cs.arena.fixedTypeAt (max typeVar1 typeVar2) = none ∧
      cs' = cs.writeTypeVariable (max typeVar1 typeVar2) { cs.arena.impl (max typeVar1 typeVar2) with
        parentOrFixed := .parent (min typeVar1 typeVar2) }) ∨
    ∃ type, cs.arena.fixedTypeAt (min typeVar1 typeVar2) = none ∧
      cs.arena.fixedTypeAt (max typeVar1 typeVar2) = some type ∧
      cs' = (cs.writeTypeVariable (max typeVar1 typeVar2) { cs.arena.impl (max typeVar1 typeVar2) with
        parentOrFixed := .parent (min typeVar1 typeVar2) }).writeTypeVariable (min typeVar1 typeVar2)
        { cs.arena.impl (min typeVar1 typeVar2) with parentOrFixed := .fixed type } := by
  unfold implMergeEquivalenceClasses at merged
  dsimp only at merged
  split at merged
  · cases merged
  · cases merged
    exact .inr ⟨_, ‹_›, ‹_›, rfl⟩
  · cases merged
    exact .inl ⟨‹_›, rfl⟩

/-- `ConstraintSystem::mergeEquivalenceClasses`: it asserts two distinct representatives, merges
their implementations, and activates the constraints of the merged class if asked to. -/
def mergeEquivalenceClasses (typeVar1 typeVar2 : Nat) (updateWorkList : Bool) :
    Option ConstraintSystem :=
  if cs.getRepresentative typeVar1 ≠ some typeVar1 ∨ cs.getRepresentative typeVar2 ≠ some typeVar2 ∨
      typeVar1 = typeVar2 then none else
  (cs.implMergeEquivalenceClasses typeVar1 typeVar2).bind fun cs =>
  if updateWorkList then cs.addTypeVariableConstraintsToWorkList typeVar1 else some cs

/-- The loop of `typeVarOccursInType` over the referenced type variables left, with the result
so far and the flag behind `involvesOtherTypeVariables` (`none` for a null pointer). -/
def occursLoop (typeVar : Nat) : List Nat → Bool → Option Bool → Bool × Option Bool
  | [], result, involvesOther => (result, involvesOther)
  | referencedTypeVar :: rest, result, involvesOther =>
    if referencedTypeVar = typeVar then
      if involvesOther.isNone || involvesOther = some true then (true, involvesOther)
      else occursLoop typeVar rest true involvesOther
    else occursLoop typeVar rest result (involvesOther.map fun _ => true)

/-- `ConstraintSystem::typeVarOccursInType`: whether the type variable occurs in the type, with
the flag `involvesOtherTypeVariables` afterwards. -/
def typeVarOccursInType (typeVar : Nat) (type : Ty) (involvesOtherTypeVariables : Option Bool) :
    Bool × Option Bool :=
  occursLoop typeVar type.typeVariables false involvesOtherTypeVariables

/-- The loop finds the type variable if it is left, and sets the flag if another is left; its
early exit is taken only when the flag has nothing left to learn. -/
theorem occursLoop_eq (typeVar : Nat) :
    ∀ (typeVars : List Nat) (result : Bool) (involvesOther : Option Bool),
      occursLoop typeVar typeVars result involvesOther =
        (result || decide (typeVar ∈ typeVars),
          involvesOther.map fun before => before || typeVars.any (· != typeVar))
  | [], result, involvesOther => by
    cases involvesOther <;> simp [occursLoop]
  | referencedTypeVar :: rest, result, involvesOther => by
    by_cases found : referencedTypeVar = typeVar
    · subst found
      rcases involvesOther with _ | _ | _ <;>
        simp [occursLoop, occursLoop_eq referencedTypeVar rest]
    · rw [occursLoop, if_neg found, occursLoop_eq typeVar rest]
      cases involvesOther <;> simp [found, Ne.symm found]

/-- **`typeVarOccursInType` is an exact occurs check.** It returns whether the type variable
occurs in the type. A flag that is passed ends set exactly when it was set before or the type
mentions another type variable: the early exit on the type variable never leaves another one
unreported. -/
theorem typeVarOccursInType_exact (typeVar : Nat) (type : Ty)
    (involvesOtherTypeVariables : Option Bool) :
    (typeVarOccursInType typeVar type involvesOtherTypeVariables).1 =
        decide (typeVar ∈ type.typeVariables) ∧
      (typeVarOccursInType typeVar type involvesOtherTypeVariables).2 =
        involvesOtherTypeVariables.map fun before =>
          before || decide (∃ other ∈ type.typeVariables, other ≠ typeVar) := by
  simp only [typeVarOccursInType, occursLoop_eq, Bool.false_or, true_and]
  congr
  funext before
  congr 1
  rw [Bool.eq_iff_iff, List.any_eq_true, decide_eq_true_iff]
  simp

/-- Modelled from the spec: `setCanBindToLValue` on the representative, journaled. -/
def setCanBindToLValue (typeVar : Nat) (enabled : Bool) : Option ConstraintSystem :=
  (cs.getRepresentative typeVar).map fun representative =>
    let record := cs.arena.impl representative
    cs.writeTypeVariable representative
      { record with options := { record.options with canBindToLValue := enabled } }

/-! ## Recording decisions -/

/-- The record of `resolveOverload`: a locator is resolved once. -/
def resolveOverload (locator overload : Nat) : Option ConstraintSystem :=
  if cs.resolvedOverloads.any (·.1 = locator) then none
  else some { cs with resolvedOverloads := cs.resolvedOverloads ++ [(locator, overload)] }

/-- `recordFix`, as far as the scope sees it. -/
def recordFix (fix : Nat) : ConstraintSystem := { cs with fixes := cs.fixes ++ [fix] }

/-- Record a conversion restriction. -/
def addConversionRestriction (first second : Ty) (kind : Nat) : ConstraintSystem :=
  { cs with constraintRestrictions := cs.constraintRestrictions ++ [(first, second, kind)] }

/-- `recordDisjunctionChoice`. -/
def recordDisjunctionChoice (locator index : Nat) : ConstraintSystem :=
  { cs with disjunctionChoices := cs.disjunctionChoices ++ [(locator, index)] }

/-- `recordTrailingClosureMatch`. -/
def recordTrailingClosureMatch (locator matching : Nat) : ConstraintSystem :=
  { cs with
    trailingClosureMatchingChoices := cs.trailingClosureMatchingChoices ++ [(locator, matching)] }

/-- The record of `recordOpenedTypes`. -/
def recordOpenedTypes (locator openedTypes : Nat) : ConstraintSystem :=
  { cs with openedTypes := cs.openedTypes ++ [(locator, openedTypes)] }

/-- The record of opening an existential. -/
def recordOpenedExistentialType (locator archetype : Nat) : ConstraintSystem :=
  { cs with openedExistentialTypes := cs.openedExistentialTypes ++ [(locator, archetype)] }

/-- The record of `recordFixedRequirement`: a set insertion. -/
def recordFixedRequirement (genericParam kind : Nat) (requirementTy : Ty) : ConstraintSystem :=
  { cs with
    fixedRequirements := insertNew cs.fixedRequirements (genericParam, kind, requirementTy) }

/-- Record a defaulted constraint. -/
def recordDefaultedConstraint (locator : Nat) : ConstraintSystem :=
  { cs with defaultedConstraints := cs.defaultedConstraints ++ [locator] }

/-- Record a checked conformance. -/
def recordCheckedConformance (locator conformance : Nat) : ConstraintSystem :=
  { cs with checkedConformances := cs.checkedConformances ++ [(locator, conformance)] }

/-- Record a closure's function-builder transformation. -/
def recordFunctionBuilderTransformed (closure transformed : Nat) : ConstraintSystem :=
  { cs with
    functionBuilderTransformed := cs.functionBuilderTransformed ++ [(closure, transformed)] }

/-- Record a closure's inferred type. -/
def recordClosureType (closure : Nat) (type : Ty) : ConstraintSystem :=
  { cs with closureTypes := cs.closureTypes ++ [(closure, type)] }

/-- `setContextualType`: a node gets its contextual type once. -/
def setContextualType (node info : Nat) : Option ConstraintSystem :=
  if cs.contextualTypes.any (·.1 = node) then none
  else some { cs with contextualTypes := cs.contextualTypes ++ [(node, info)] }

/-- `setSolutionApplicationTarget`: a target is registered once. -/
def setSolutionApplicationTarget (key target : Nat) : Option ConstraintSystem :=
  if cs.solutionApplicationTargets.any (·.1 = key) then none
  else some { cs with
    solutionApplicationTargets := cs.solutionApplicationTargets ++ [(key, target)] }

/-- `setCaseLabelItemInfo`: an item is registered once. -/
def setCaseLabelItemInfo (item info : Nat) : Option ConstraintSystem :=
  if cs.caseLabelItems.any (·.1 = item) then none
  else some { cs with caseLabelItems := cs.caseLabelItems ++ [(item, info)] }

/-- Modelled from the spec: `setType` assigns the node's type and journals the type it had. -/
def setType (node : Nat) (type : Ty) : ConstraintSystem :=
  { cs with
    nodeTypes := assignEntry cs.nodeTypes node type
    addedNodeTypes := cs.addedNodeTypes ++ [(node, cs.nodeTypes.lookup node)] }

/-- Modelled from the spec: `favorConstraint` sets the flag and journals the constraint with
the flag it had (§9: the undo log holds previous values). -/
def favorConstraint (constraint : Nat) : ConstraintSystem :=
  { cs.setFlags constraint { cs.constraints constraint with isFavored := true } with
    solverState := cs.solverState.map fun state =>
      { state with favoredConstraints :=
          state.favoredConstraints ++ [(constraint, (cs.constraints constraint).isFavored)] } }

/-- Modelled from the spec: `SolverState::disableContraint` sets the flag and journals the
constraint with the flag it had; without a solver state the caller sets the flag alone. -/
def disableConstraint (constraint : Nat) : ConstraintSystem :=
  { cs.setFlags constraint { cs.constraints constraint with isDisabled := true } with
    solverState := cs.solverState.map fun state =>
      { state with disabledConstraints :=
          state.disabledConstraints ++ [(constraint, (cs.constraints constraint).isDisabled)] } }

/-! ## Applying a solution -/

/-- The binding loop of `applySolution`: add each variable, and bind it to the solution's
type unless its class has a fixed type already or the type mentions type variables. -/
def applyBindings : List (Nat × Ty) → ConstraintSystem → Option ConstraintSystem
  | [], cs => some cs
  | (typeVar, type) :: rest, cs =>
    let cs := cs.addTypeVariable typeVar
    (cs.getFixedType typeVar).bind (fun fixed =>
      if fixed.isNone && !type.hasTypeVariable then cs.assignFixedType typeVar type false
      else some cs) >>= applyBindings rest

/-- The side tables of `applySolution` after the bindings, up to the node types. -/
def applyRecords (solution : Solution) : ConstraintSystem :=
  { cs with
    resolvedOverloads := solution.overloadChoices.foldl insertEntry cs.resolvedOverloads
    constraintRestrictions := cs.constraintRestrictions ++
      solution.constraintRestrictions.map fun entry => (entry.1.1, entry.1.2, entry.2)
    disjunctionChoices := cs.disjunctionChoices ++ solution.disjunctionChoices
    trailingClosureMatchingChoices :=
      cs.trailingClosureMatchingChoices ++ solution.trailingClosureMatchingChoices
    openedTypes := cs.openedTypes ++ solution.openedTypes
    openedExistentialTypes := cs.openedExistentialTypes ++ solution.openedExistentialTypes
    defaultedConstraints := cs.defaultedConstraints ++ solution.defaultedConstraints }

/-- The side tables of `applySolution` after the node types. -/
def applyTargets (solution : Solution) : ConstraintSystem :=
  { cs with
    contextualTypes := solution.contextualTypes.foldl insertEntry cs.contextualTypes
    solutionApplicationTargets :=
      solution.solutionApplicationTargets.foldl insertEntry cs.solutionApplicationTargets
    caseLabelItems := solution.caseLabelItems.foldl insertEntry cs.caseLabelItems
    checkedConformances := cs.checkedConformances ++ solution.conformances
    functionBuilderTransformed :=
      cs.functionBuilderTransformed ++ solution.functionBuilderTransformed
    fixes := cs.fixes ++ solution.fixes }

/-- `ConstraintSystem::applySolution`. -/
def applySolution (solution : Solution) : Option ConstraintSystem :=
  (applyBindings solution.typeBindings
    { cs with currentScore := cs.currentScore.add solution.fixedScore }).map fun cs =>
  (solution.nodeTypes.foldl (fun cs entry => cs.setType entry.1 entry.2)
    (cs.applyRecords solution)).applyTargets solution

/-! ## Taking a solution -/

/-- The free-variable loop of `finalize`: a variable whose class has no fixed type is an
error under `Disallow`, stays free under `Allow`, and is bound to the unresolved type under
`UnresolvedType`. -/
def bindFreeTypeVariables (policy : FreeTypeVariableBinding) :
    List Nat → ConstraintSystem → Option ConstraintSystem
  | [], cs => some cs
  | typeVar :: rest, cs =>
    (cs.getFixedType typeVar).bind (fun fixed =>
      match fixed, policy with
      | some _, _ => some cs
      | none, .disallow => none
      | none, .allow => some cs
      | none, .unresolvedType => cs.assignFixedType typeVar .unresolved true) >>=
    bindFreeTypeVariables policy rest

/-- The assertion-guarded insertion of `finalize`: an entry whose key is present must agree
with it. -/
def insertChecked {K V : Type} [BEq K] [DecidableEq V] (entries : List (K × V))
    (entry : K × V) : Option (List (K × V)) :=
  match entries.lookup entry.1 with
  | some value => if value = entry.2 then some entries else none
  | none => some (entries ++ [entry])

/-- The new best score: the current score when it is no worse than the best so far. -/
def nextBestScore (current : Score) : Option Score → Score
  | some best => if current ≤ best then current else best
  | none => current

/-- The assertion of `finalize` on the score: unless the performance hacks are disabled, a
solution is never worse than the best so far. -/
def finalizeScoreAllowed (state : SolverState) : Bool :=
  cs.env.disablePerformanceHacks || state.bestScore.all (cs.currentScore ≤ ·)

/-- The snapshot `finalize` takes once the free variables are dealt with. -/
def takeSolution (score : Score) (firstFixIndex : Nat) : Option Solution :=
  (cs.typeVariables.mapM fun tv => (cs.simplifyType (.typeVariable tv)).map (tv, ·)).bind
    fun typeBindings =>
  (cs.constraintRestrictions.mapM fun restriction =>
    (cs.simplifyType restriction.1).bind fun first =>
      (cs.simplifyType restriction.2.1).map fun second => ((first, second), restriction.2.2)).bind
    fun restrictions =>
  if cs.fixes.length < firstFixIndex then none else
  (cs.disjunctionChoices.foldlM insertChecked []).bind fun disjunctionChoices =>
  (cs.trailingClosureMatchingChoices.foldlM insertChecked []).bind
    fun trailingClosureMatchingChoices =>
  (cs.openedExistentialTypes.foldlM insertChecked []).map fun openedExistentialTypes =>
  { typeBindings := typeBindings
    overloadChoices := cs.resolvedOverloads.foldl insertEntry []
    constraintRestrictions :=
      restrictions.foldl (fun map entry => assignEntry map entry.1 entry.2) []
    fixes := cs.fixes.drop firstFixIndex
    disjunctionChoices := disjunctionChoices
    trailingClosureMatchingChoices := trailingClosureMatchingChoices
    openedTypes := cs.openedTypes.foldl insertEntry []
    openedExistentialTypes := openedExistentialTypes
    defaultedConstraints := cs.defaultedConstraints.foldl insertNew []
    nodeTypes := cs.nodeTypes.foldl insertEntry []
    contextualTypes := cs.contextualTypes
    solutionApplicationTargets := cs.solutionApplicationTargets
    caseLabelItems := cs.caseLabelItems
    conformances := cs.checkedConformances
    functionBuilderTransformed := cs.functionBuilderTransformed.foldl insertEntry []
    fixedScore := score }

/-- `finalize`: update the best score, apply the free-variable policy, and take the solution,
whose score is the score on entry. It asserts an active solver state. -/
def finalize : Option (Solution × ConstraintSystem) :=
  cs.solverState.bind fun state =>
  if !cs.finalizeScoreAllowed state then none else
  ({ cs with solverState := some { state with
      bestScore := some (nextBestScore cs.currentScore state.bestScore) } }.bindFreeTypeVariables
    state.allowFreeTypeVariables cs.typeVariables).bind fun final =>
  (final.takeSolution cs.currentScore ((state.partialSolutionScope.map SolverScope.numFixes).getD 0)).map
    fun solution => (solution, final)

end ConstraintSystem

end Constraints
