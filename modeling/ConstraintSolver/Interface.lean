import ConstraintSolver.Binding

/-! # Resolving interface types through a solution

`Solution::resolveInterfaceType` rewrites a type by `Type::transform`: a type variable opened
for a generic parameter becomes that parameter, any other type variable becomes its binding in
the solution (through `Solution::simplifyType`), resolved again, and a dependent member type
gets its base resolved. The recursion through the bindings is not structural, so the model
runs on fuel: each call spends one step, and `none` is a run that has not stopped.

Under `Disallow` and `UnresolvedType` every binding of a solution is free of type variables
(`Constraints.finalize_binds_everything`), so the recursion through a binding stops at once
and resolution stops on every type over the system's variables
(`Constraints.resolveInterfaceType_terminates`). Under `Allow` a type variable left free is
bound to itself, and resolution calls itself on it forever
(`Constraints.resolveInterfaceType_loops_under_allow`).

The types of the model have no archetypes, so `mapTypeOutOfContext` is the identity, and the
closing assertion that the result has no archetype holds.
-/

namespace Constraints

/-- `Solution::resolveInterfaceType` with `fuel` calls. `genericParameter` is what
`getImpl().getGenericParameter()` gives each type variable: the generic parameter type it was
opened for, if any. -/
def Solution.resolveInterfaceTypeFuel (solution : Solution) (cs : ConstraintSystem)
    (genericParameter : Nat → Option Ty) : Nat → Ty → Option Ty
  | 0, _ => none
  | fuel + 1, .typeVariable v =>
    match genericParameter v with
    | some param => some param
    | none => (solution.simplifyType cs (.typeVariable v)).bind
        (solution.resolveInterfaceTypeFuel cs genericParameter fuel)
  | fuel + 1, .dependentMember base assocType =>
    (solution.resolveInterfaceTypeFuel cs genericParameter fuel base).map
      (.dependentMember · assocType)
  | fuel + 1, .boundGeneric base argument => do
    pure (.boundGeneric (← solution.resolveInterfaceTypeFuel cs genericParameter fuel base)
      (← solution.resolveInterfaceTypeFuel cs genericParameter fuel argument))
  | fuel + 1, .function input result => do
    pure (.function (← solution.resolveInterfaceTypeFuel cs genericParameter fuel input)
      (← solution.resolveInterfaceTypeFuel cs genericParameter fuel result))
  | fuel + 1, .lvalue objectType =>
    .lvalue <$> solution.resolveInterfaceTypeFuel cs genericParameter fuel objectType
  | fuel + 1, .inOut objectType =>
    .inOut <$> solution.resolveInterfaceTypeFuel cs genericParameter fuel objectType
  | fuel + 1, .dynamicSelf selfType =>
    .dynamicSelf <$> solution.resolveInterfaceTypeFuel cs genericParameter fuel selfType
  | _ + 1, type => some type

section
variable {solution : Solution} {cs : ConstraintSystem} {genericParameter : Nat → Option Ty}

/-- A run that stopped stops the same way with more fuel. -/
theorem resolveInterfaceTypeFuel_mono :
    ∀ {fuel more : Nat} {type result : Ty}, fuel ≤ more →
      solution.resolveInterfaceTypeFuel cs genericParameter fuel type = some result →
        solution.resolveInterfaceTypeFuel cs genericParameter more type = some result
  | 0, _, _, _, _, found => by cases found
  | _ + 1, 0, _, _, enough, _ => absurd enough (by omega)
  | fuel + 1, more + 1, type, result, enough, found => by
    have step : ∀ {type result}, solution.resolveInterfaceTypeFuel cs genericParameter fuel type =
        some result → solution.resolveInterfaceTypeFuel cs genericParameter more type = some result :=
      resolveInterfaceTypeFuel_mono (by omega)
    cases type <;> simp only [Solution.resolveInterfaceTypeFuel, Option.map_eq_map,
      Option.map_eq_some', Option.bind_eq_bind, Option.bind_eq_some, Option.pure_def,
      Option.some.injEq] at found ⊢
    case typeVariable v =>
      split at found
      · exact found
      · obtain ⟨fixed, simplified, resolved⟩ := Option.bind_eq_some.mp found
        exact Option.bind_eq_some.mpr ⟨fixed, simplified, step resolved⟩
    case boundGeneric | function =>
      obtain ⟨first, isFirst, second, isSecond, rfl⟩ := found
      exact ⟨first, step isFirst, second, step isSecond, rfl⟩
    all_goals first
      | exact found
      | obtain ⟨inner, isInner, rfl⟩ := found
        exact ⟨inner, step isInner, rfl⟩

/-- Resolution of the children of a node, with enough fuel for both. -/
theorem resolveInterfaceTypeFuel_pair {first second : Ty}
    (forFirst : ∃ fuel result, solution.resolveInterfaceTypeFuel cs genericParameter fuel first =
      some result)
    (forSecond : ∃ fuel result, solution.resolveInterfaceTypeFuel cs genericParameter fuel second =
      some result) :
    ∃ fuel firstResult secondResult,
      solution.resolveInterfaceTypeFuel cs genericParameter fuel first = some firstResult ∧
      solution.resolveInterfaceTypeFuel cs genericParameter fuel second = some secondResult := by
  obtain ⟨fuel, firstResult, isFirst⟩ := forFirst
  obtain ⟨fuel', secondResult, isSecond⟩ := forSecond
  exact ⟨max fuel fuel', firstResult, secondResult,
    resolveInterfaceTypeFuel_mono (le_max_left _ _) isFirst,
    resolveInterfaceTypeFuel_mono (le_max_right _ _) isSecond⟩

/-- Resolution stops on a type whose type variables all resolve, each with some fuel. -/
theorem resolveInterfaceTypeFuel_isSome (good : Nat → Prop)
    (resolves : ∀ v, good v → ∃ fuel result,
      solution.resolveInterfaceTypeFuel cs genericParameter fuel (.typeVariable v) = some result) :
    ∀ type : Ty, (∀ v ∈ type.typeVariables, good v) →
      ∃ fuel result, solution.resolveInterfaceTypeFuel cs genericParameter fuel type = some result := by
  intro type over
  induction type with
  | typeVariable v => exact resolves v (over v (List.mem_singleton_self v))
  | dependentMember base assocType ih =>
    obtain ⟨fuel, result, found⟩ := ih over
    exact ⟨fuel + 1, _, by simp [Solution.resolveInterfaceTypeFuel, found]; rfl⟩
  | boundGeneric base argument ihB ihA | function base argument ihB ihA =>
    obtain ⟨fuel, b, a, isB, isA⟩ := resolveInterfaceTypeFuel_pair
      (ihB fun v member => over v (by simp [Ty.typeVariables, member]))
      (ihA fun v member => over v (by simp [Ty.typeVariables, member]))
    exact ⟨fuel + 1, _, by simp [Solution.resolveInterfaceTypeFuel, isB, isA]; rfl⟩
  | lvalue o ih | inOut o ih | dynamicSelf o ih =>
    obtain ⟨fuel, result, found⟩ := ih over
    exact ⟨fuel + 1, _, by simp [Solution.resolveInterfaceTypeFuel, found]; rfl⟩
  | nominal | hole | unresolved | error => exact ⟨1, _, rfl⟩

end

/-- **Resolving interface types terminates under `Disallow` and `UnresolvedType`.** For a
solution `finalize` returns under a policy other than `Allow`, from a system whose fixed types
mention only its own type variables, resolution stops on every type over the variables of the
system the solution belongs to. -/
theorem resolveInterfaceType_terminates {cs final : ConstraintSystem} {solution : Solution}
    {state : SolverState} (isState : cs.solverState = some state)
    (bindsAll : state.allowFreeTypeVariables ≠ .allow) (typesScoped : cs.TypesScoped)
    (finalized : cs.finalize = some (solution, final)) (genericParameter : Nat → Option Ty)
    (type : Ty) (over : ∀ v ∈ type.typeVariables, v ∈ final.typeVariables) :
    ∃ fuel result, solution.resolveInterfaceTypeFuel final genericParameter fuel type = some result := by
  obtain ⟨-, -, closedBindings⟩ := finalize_binds_everything isState bindsAll typesScoped finalized
  -- a type without type variables resolves
  have closed : ∀ type : Ty, type.typeVariables = [] → ∃ fuel result,
      solution.resolveInterfaceTypeFuel final genericParameter fuel type = some result :=
    fun type noVars => resolveInterfaceTypeFuel_isSome (fun _ => False) nofun type
      (by simp [noVars])
  refine resolveInterfaceTypeFuel_isSome (· ∈ final.typeVariables) (fun v member => ?_) type over
  cases param : genericParameter v with
  | some parameter => exact ⟨1, parameter, by simp [Solution.resolveInterfaceTypeFuel, param]⟩
  | none =>
    -- the binding of a variable of the system has no type variables
    obtain ⟨binding, simplified, noVars⟩ := closedBindings v member
    have lookedUp : solution.typeBindings.lookup v = some binding := by
      rw [finalize_lookup finalized, if_pos member, simplified]
    obtain ⟨fuel, result, resolved⟩ := closed
      (if binding.hasHole then binding.replaceHoles else binding) (by split <;> simp [noVars])
    refine ⟨fuel + 1, result, ?_⟩
    simp only [Solution.resolveInterfaceTypeFuel, param, Solution.simplifyType,
      simplifyTypeWithBindings, Ty.hasTypeVariable, Ty.typeVariables, simplifyTypeImpl, lookedUp]
    exact resolved

/-- Resolving the one type variable of a system that `finalize` bound to the unresolved
type. -/
theorem resolveInterfaceType_terminates_fresh :
    ∃ solution final, { ConstraintSystem.empty .trivial with
        typeVariables := [0], solverState := some (.initial .unresolvedType []) }.finalize =
        some (solution, final) ∧
      ∃ fuel result, solution.resolveInterfaceTypeFuel final (fun _ => none) fuel (.typeVariable 0) =
        some result :=
  ⟨_, _, rfl, @resolveInterfaceType_terminates { ConstraintSystem.empty .trivial with
      typeVariables := [0], solverState := some (.initial .unresolvedType []) } _ _ _ rfl nofun
    (ConstraintSystem.typesScoped_of_arena_empty rfl) rfl _ (.typeVariable 0) (by decide)⟩

/-- Under `Allow`, `finalize` leaves a variable that is not for a generic parameter free and
binds it to itself; resolving it calls resolution on it again, forever. -/
theorem resolveInterfaceType_loops_under_allow :
    ∃ solution final, { ConstraintSystem.empty .trivial with
        typeVariables := [0], solverState := some (.initial .allow []) }.finalize =
        some (solution, final) ∧
      solution.typeBindings = [(0, .typeVariable 0)] ∧
      (∀ fuel, solution.resolveInterfaceTypeFuel final (fun _ => none) (fuel + 1) (.typeVariable 0) =
        solution.resolveInterfaceTypeFuel final (fun _ => none) fuel (.typeVariable 0)) ∧
      ∀ fuel, solution.resolveInterfaceTypeFuel final (fun _ => none) fuel (.typeVariable 0) = none := by
  refine ⟨_, _, rfl, rfl, fun _ => rfl, fun fuel => ?_⟩
  induction fuel with
  | zero => rfl
  | succ fuel calledAgain => exact calledAgain

end Constraints
