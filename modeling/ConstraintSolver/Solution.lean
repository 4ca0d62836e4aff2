import ConstraintSolver.Change

/-! # Reading types through a solution

`finalize` records, for every type variable of the system, the type `simplifyType` gives it.
`Solution::simplifyType` rewrites a type with those bindings through the same
`simplifyTypeImpl` and then turns holes into the unresolved type, while
`ConstraintSystem::simplifyType` leaves a type without type variables alone. When fixes are
not attempted no hole arises, and then the two agree
(`Constraints.solution_simplifyType_agrees`).
-/

namespace Constraints

/-! ## The bindings a solution records -/

section

variable {cs final : ConstraintSystem} {solution : Solution}

/-- The bindings of a list of type variables, looked up: a variable of the list has its own
binding, any other none. -/
theorem lookup_of_mapM {f : Nat → Option Ty} :
    ∀ {typeVars : List Nat} {bindings : List (Nat × Ty)},
      typeVars.mapM (fun v => (f v).map (v, ·)) = some bindings →
        ∀ v, bindings.lookup v = if v ∈ typeVars then f v else none
  | [], bindings, mapped, v => by
    cases mapped
    rfl
  | u :: rest, bindings, mapped, v => by
    simp only [List.mapM_cons, Option.bind_eq_bind, Option.bind_eq_some, Option.map_eq_some',
      Option.pure_def, Option.some.injEq] at mapped
    obtain ⟨_, ⟨fixed, found, rfl⟩, others, mappedRest, rfl⟩ := mapped
    rw [lookup_cons_pair, lookup_of_mapM mappedRest v]
    by_cases here : v = u
    · subst here
      simp [found]
    · simp [here]

theorem takeSolution_typeBindings {score : Score} {firstFixIndex : Nat}
    (taken : cs.takeSolution score firstFixIndex = some solution) :
    cs.typeVariables.mapM (fun v => (cs.simplifyType (.typeVariable v)).map (v, ·)) =
      some solution.typeBindings := by
  unfold ConstraintSystem.takeSolution at taken
  obtain ⟨bindings, isBindings, taken⟩ := Option.bind_eq_some.mp taken
  obtain ⟨_, -, taken⟩ := Option.bind_eq_some.mp taken
  split at taken
  · cases taken
  obtain ⟨_, -, taken⟩ := Option.bind_eq_some.mp taken
  obtain ⟨_, -, taken⟩ := Option.bind_eq_some.mp taken
  obtain ⟨_, -, rfl⟩ := Option.map_eq_some'.mp taken
  exact isBindings

/-- The solution `finalize` returns is the one it takes from the system it leaves. -/
theorem finalize_takeSolution (finalized : cs.finalize = some (solution, final)) :
    ∃ score firstFixIndex, final.takeSolution score firstFixIndex = some solution := by
  unfold ConstraintSystem.finalize at finalized
  obtain ⟨state, -, finalized⟩ := Option.bind_eq_some.mp finalized
  split at finalized
  · cases finalized
  obtain ⟨_, -, taken⟩ := Option.bind_eq_some.mp finalized
  obtain ⟨_, isTaken, same⟩ := Option.map_eq_some'.mp taken
  cases same
  exact ⟨_, _, isTaken⟩

/-- A solution binds each type variable of the system it came from to what
`simplifyType` gives that variable there, and binds nothing else. -/
theorem finalize_lookup (finalized : cs.finalize = some (solution, final)) (v : Nat) :
    solution.typeBindings.lookup v =
      if v ∈ final.typeVariables then final.simplifyType (.typeVariable v) else none := by
  obtain ⟨_, _, taken⟩ := finalize_takeSolution finalized
  exact lookup_of_mapM (takeSolution_typeBindings taken) v

end

/-! ## Holes -/

section

variable {conformances : Conformances} {attemptHoles : Bool} {arena : Arena}

/-- Without holes attempted or bound, simplification makes no hole. -/
theorem hasHole_simplifyTypeFuel (noHoles : attemptHoles = false)
    (bindingsFree : ∀ v fixed, arena.fixedTypeAt v = some fixed → fixed.hasHole = false) :
    ∀ (fuel : Nat) {type result : Ty}, type.hasHole = false →
      simplifyTypeFuel conformances attemptHoles arena fuel type = some result →
        result.hasHole = false
  | 0, type, result, holeFree, found => by
    simp only [simplifyTypeFuel] at found
    split at found
    · cases found
    · cases found
      exact holeFree
  | fuel + 1, type, result, holeFree, found => by
    simp only [simplifyTypeFuel] at found
    split at found
    · refine hasHole_simplifyTypeImpl noHoles (fun v x looked => ?_) holeFree found
      obtain ⟨representative, -, looked⟩ := Option.bind_eq_some.mp looked
      split at looked
      next fixed isFixed =>
        exact hasHole_simplifyTypeFuel noHoles bindingsFree fuel (bindingsFree _ _ isFixed) looked
      · cases looked
        rfl
    · cases found
      exact holeFree

/-- With fuel left, simplification looks every type variable up as a type of its own. -/
theorem simplifyTypeFuel_succ {fuel : Nat} {type : Ty} (hasVariables : type.hasTypeVariable = true) :
    simplifyTypeFuel conformances attemptHoles arena (fuel + 1) type =
      simplifyTypeImpl conformances attemptHoles
        (fun v => simplifyTypeFuel conformances attemptHoles arena (fuel + 1) (.typeVariable v)) type := by
  rw [simplifyTypeFuel, if_pos hasVariables]
  rfl

end

theorem map_replaceHoles_of_holeFree {result : Option Ty}
    (holeFree : ∀ type, result = some type → type.hasHole = false) :
    result.map (fun resolved => if resolved.hasHole then resolved.replaceHoles else resolved) =
      result := by
  cases result with
  | none => rfl
  | some type => simp [holeFree type rfl]

/-! ## The two simplifications agree -/

section

variable {cs final : ConstraintSystem} {solution : Solution} {type : Ty}

/-- **A solution simplifies hole-free types as the system it came from does.** Let `finalize`
return a solution and leave the system `final`, with holes not attempted and no hole in any
binding. On a type without holes whose type variables belong to the system,
`Solution::simplifyType` and `ConstraintSystem::simplifyType` give the same type. -/
theorem solution_simplifyType_agrees (finalized : cs.finalize = some (solution, final))
    (notAttempting : final.attemptHoles = false)
    (bindingsFree : ∀ v fixed, final.arena.fixedTypeAt v = some fixed → fixed.hasHole = false)
    (holeFree : type.hasHole = false) (belongs : ∀ v ∈ type.typeVariables, v ∈ final.typeVariables) :
    solution.simplifyType final type = final.simplifyType type := by
  have lookups : ∀ v ∈ type.typeVariables,
      solution.typeBindings.lookup v = final.simplifyType (.typeVariable v) := fun v member => by
    rw [finalize_lookup finalized v, if_pos (belongs v member)]
  have resultsFree : ∀ v x, final.simplifyType (.typeVariable v) = some x → x.hasHole = false :=
    fun _ _ looked => hasHole_simplifyTypeFuel notAttempting bindingsFree _ (by rfl) looked
  unfold Solution.simplifyType simplifyTypeWithBindings ConstraintSystem.simplifyType
    Constraints.simplifyType
  cases hasVariables : type.hasTypeVariable
  · simp [simplifyTypeFuel, hasVariables, holeFree]
  · rw [if_pos (by simp [hasVariables]), simplifyTypeImpl_congr lookups,
      simplifyTypeFuel_succ hasVariables]
    exact map_replaceHoles_of_holeFree fun _ found =>
      hasHole_simplifyTypeImpl notAttempting resultsFree holeFree found

theorem solution_simplifyType_agrees_bound :
    ∃ solution final,
      { ConstraintSystem.empty .trivial with
        typeVariables := [0]
        arena := Arena.empty.write 0 ⟨.fixed (.nominal 1), ⟨false, false, false, false⟩⟩
        solverState := some (.initial .allow []) }.finalize = some (solution, final) ∧
      solution.simplifyType final (.boundGeneric (.nominal 2) (.typeVariable 0)) =
        final.simplifyType (.boundGeneric (.nominal 2) (.typeVariable 0)) :=
  ⟨_, _, rfl, @solution_simplifyType_agrees { ConstraintSystem.empty .trivial with
      typeVariables := [0]
      arena := Arena.empty.write 0 ⟨.fixed (.nominal 1), ⟨false, false, false, false⟩⟩
      solverState := some (.initial .allow []) } _ _ _ rfl rfl
    (fun v fixed found => by
      by_cases here : v = 0
      · subst here
        cases found
        rfl
      · simp [Arena.fixedTypeAt, Arena.write, Function.update_noteq here, Arena.empty,
          TypeVariableImpl.initial] at found)
    rfl (by simp [Ty.typeVariables])⟩

end

end Constraints
