import ConstraintSolver.Solution

/-! # What `finalize` leaves free

`finalize` walks the type variables of the system in creation order and deals with each one
whose class has no fixed type: under `Disallow` it stops (`llvm_unreachable`), under `Allow`
it leaves the class free, and under `UnresolvedType` it binds the class's representative to
the unresolved type. A binding writes the record of a representative that heads its own class,
so a class bound before stays bound to the same type, whatever the order of the variables and
of their representatives, and the new binding mentions no type variable.

In a system whose fixed types mention only its own type variables, once every class of the
system is bound, simplification leaves no type variable in a type over the system's
variables. So under `UnresolvedType`, and under `Disallow` whenever `finalize` returns,
every type variable of the system is bound and no type binding of the solution mentions a
type variable (`Constraints.finalize_unresolvedType_binds_everything`).
-/

namespace Constraints

open Relation

namespace Arena

variable {arena : Arena} {r : Nat}

/-- Writing the record of a representative that heads its own class, with a record that again
heads the class, changes no lookup of a representative. -/
theorem representative_write_root (root : (arena.impl r).parentOrFixed = .parent r)
    {record : TypeVariableImpl} (heads : ∀ next, record.parentOrFixed = .parent next → next = r) :
    ∀ {fuel u ru}, arena.representative fuel u = some ru →
      (arena.write r record).representative fuel u = some ru
  | 0, _, _, found => by cases found
  | fuel + 1, u, ru, found => by
    by_cases here : u = r
    · subst here
      simp only [representative, root, ↓reduceIte, Option.some.injEq] at found
      subst found
      cases written : record.parentOrFixed with
      | parent next => simp [representative, written, heads next written]
      | fixed type => simp [representative, written]
    · unfold representative at found ⊢
      rw [write_impl, Function.update_noteq here]
      cases parent : (arena.impl u).parentOrFixed with
      | parent next =>
        simp only [parent] at found ⊢
        split_ifs at found ⊢
        · exact found
        · exact representative_write_root root heads found
      | fixed type => simpa only [parent] using found

/-- Binding a representative that heads its own class: the classes of the other
representatives keep their fixed types, and its own class gets the new one. -/
theorem getFixedType_write_fixed (root : (arena.impl r).parentOrFixed = .parent r) {type : Ty}
    {u ru : Nat} (found : arena.getRepresentative u = some ru) :
    (arena.write r { arena.impl r with parentOrFixed := .fixed type }).getFixedType u =
      some (if ru = r then some type else arena.fixedTypeAt ru) := by
  have moved : (arena.write r { arena.impl r with parentOrFixed := .fixed type }).getRepresentative u =
      some ru :=
    getRepresentative_of_representative (representative_write_root root (fun _ written => by simp at written) found)
  simp only [getFixedType, moved, Option.map_some', Option.some.injEq]
  by_cases same : ru = r
  · subst same
    simp [fixedTypeAt]
  · simp [fixedTypeAt, Function.update_noteq same, same]

/-- Binding a representative to a type without type variables adds no fixed-type link. -/
theorem fixedLink_of_write_fixed (root : (arena.impl r).parentOrFixed = .parent r) {type : Ty}
    (closedType : type.typeVariables = []) {x u : Nat}
    (link : (arena.write r { arena.impl r with parentOrFixed := .fixed type }).FixedLink x u) :
    arena.FixedLink x u := by
  obtain ⟨r', type', chain, fixed, member⟩ := link
  have parentLinks : ∀ a b, (arena.write r { arena.impl r with parentOrFixed := .fixed type }).ParentLink a b →
      arena.ParentLink a b := by
    rintro a b ⟨linked, moves⟩
    by_cases here : a = r
    · subst here
      simp at linked
    · rw [write_impl, Function.update_noteq here] at linked
      exact ⟨linked, moves⟩
  by_cases here : r' = r
  · subst here
    simp only [write_impl, Function.update_same, ParentOrFixed.fixed.injEq] at fixed
    subst fixed
    simp [closedType] at member
  · rw [write_impl, Function.update_noteq here] at fixed
    exact ⟨r', type', chain.mono parentLinks, fixed, member⟩

end Arena

namespace ConstraintSystem

theorem activateAll_keeps_arena : ∀ {constraints : List Nat} {cs cs' : ConstraintSystem},
    cs.activateAll constraints = some cs' → cs'.arena = cs.arena ∧ cs'.typeVariables = cs.typeVariables
  | [], _, _, activated => by cases activated; exact ⟨rfl, rfl⟩
  | constraint :: rest, cs, cs', activated => by
    obtain ⟨middle, first, second⟩ := Option.bind_eq_some.mp activated
    obtain ⟨arena, typeVariables⟩ := activateAll_keeps_arena second
    split at first
    · cases first
      exact ⟨arena, typeVariables⟩
    · obtain ⟨-, -, rfl⟩ := activateConstraint_eq_some _ first
      exact ⟨arena, typeVariables⟩

/-- What `assignFixedType` does to the type variables: it binds the representative of the
variable, which had no fixed type, and adds no variable. -/
theorem assignFixedType_eq_some {cs cs' : ConstraintSystem} {typeVar : Nat} {type : Ty}
    {updateState : Bool} (assigned : cs.assignFixedType typeVar type updateState = some cs') :
    ∃ r, cs.getRepresentative typeVar = some r ∧ cs.arena.fixedTypeAt r = none ∧
      cs'.arena = cs.arena.write r { cs.arena.impl r with parentOrFixed := .fixed type } ∧
      cs'.typeVariables = cs.typeVariables := by
  unfold assignFixedType at assigned
  split at assigned
  · cases assigned
  obtain ⟨r, found, bound⟩ := Option.bind_eq_some.mp assigned
  split at bound
  · cases bound
  rename_i unfixed
  refine ⟨r, found, Option.not_isSome_iff_eq_none.mp unfixed, ?_⟩
  cases updateState <;> simp only [Bool.not_false, Bool.not_true, Bool.false_eq_true,
    ↓reduceIte] at bound
  · cases bound
    exact ⟨rfl, rfl⟩
  · obtain ⟨arena, typeVariables⟩ := activateAll_keeps_arena bound
    refine ⟨arena.trans ?_, typeVariables.trans ?_⟩ <;> split <;> rfl

/-- What one step of the free-variable loop of `finalize` does, under a policy other than
`Allow`: the variable's class ends up bound, classes bound before keep their types, and no
fixed-type link is added. -/
theorem bindFreeTypeVariable_binds {policy : FreeTypeVariableBinding} (bindsAll : policy ≠ .allow)
    {cs mid : ConstraintSystem} {v : Nat}
    (step : (cs.getFixedType v).bind (fun fixed =>
      match fixed, policy with
      | some _, _ => some cs
      | none, .disallow => none
      | none, .allow => some cs
      | none, .unresolvedType => cs.assignFixedType v .unresolved true) = some mid) :
    mid.typeVariables = cs.typeVariables ∧
      (∀ u type, cs.getFixedType u = some (some type) → mid.getFixedType u = some (some type)) ∧
      (∃ type, mid.getFixedType v = some (some type)) ∧
      ∀ x u, mid.arena.FixedLink x u → cs.arena.FixedLink x u := by
  obtain ⟨fixed, found, assigned⟩ := Option.bind_eq_some.mp step
  cases fixed with
  | some type =>
    cases assigned
    exact ⟨rfl, fun _ _ => id, ⟨type, found⟩, fun _ _ => id⟩
  | none =>
    cases policy
    · cases assigned
    · exact absurd rfl bindsAll
    obtain ⟨r, isRep, unfixed, arena, typeVariables⟩ := assignFixedType_eq_some assigned
    have root : (cs.arena.impl r).parentOrFixed = .parent r := by
      rcases (getRepresentative_spec isRep).2 with root | ⟨type, fixed⟩
      · exact root
      · simp [Arena.fixedTypeAt, fixed] at unfixed
    refine ⟨typeVariables, fun u type before => ?_, ⟨.unresolved, ?_⟩, fun x u link => ?_⟩
    · obtain ⟨ru, foundU, fixedU⟩ := Option.map_eq_some'.mp before
      have other : ru ≠ r := by rintro rfl; simp [unfixed] at fixedU
      simp only [getFixedType, arena, Arena.getFixedType_write_fixed root foundU, other,
        ↓reduceIte, fixedU]
    · simp only [getFixedType, arena, Arena.getFixedType_write_fixed root isRep, ↓reduceIte]
    · exact Arena.fixedLink_of_write_fixed root (show Ty.unresolved.typeVariables = [] from rfl)
        (arena ▸ link)

/-- **The free-variable loop binds every class it meets**, under a policy other than `Allow`:
whatever the order of the variables, each ends up bound, classes bound before keep their
types, and no fixed-type link is added. -/
theorem bindFreeTypeVariables_binds {policy : FreeTypeVariableBinding} (bindsAll : policy ≠ .allow) :
    ∀ {vars : List Nat} {cs cs' : ConstraintSystem},
      cs.bindFreeTypeVariables policy vars = some cs' →
        cs'.typeVariables = cs.typeVariables ∧
          (∀ u type, cs.getFixedType u = some (some type) → cs'.getFixedType u = some (some type)) ∧
          (∀ v ∈ vars, ∃ type, cs'.getFixedType v = some (some type)) ∧
          ∀ x u, cs'.arena.FixedLink x u → cs.arena.FixedLink x u
  | [], _, _, bound => by
    cases bound
    exact ⟨rfl, fun _ _ => id, nofun, fun _ _ => id⟩
  | v :: rest, cs, cs', bound => by
    obtain ⟨mid, step, bound⟩ := Option.bind_eq_some.mp bound
    obtain ⟨midVars, midKeeps, ⟨type, midBinds⟩, midLinks⟩ := bindFreeTypeVariable_binds bindsAll step
    obtain ⟨vars, keeps, binds, links⟩ := bindFreeTypeVariables_binds bindsAll bound
    refine ⟨vars.trans midVars, fun u type before => keeps u type (midKeeps u type before),
      fun u member => ?_, fun x u link => midLinks x u (links x u link)⟩
    rcases List.mem_cons.mp member with rfl | inRest
    · exact ⟨type, keeps u type midBinds⟩
    · exact binds u inRest

end ConstraintSystem

/-! ## Simplifying once every class is bound -/

section
variable {conformances : Conformances} {attemptHoles : Bool} {arena : Arena} {vars : List Nat}

/-- Where every variable of `vars` is bound and the fixed types of their classes mention only
variables of `vars`, simplifying a type over `vars` leaves no type variable. -/
theorem simplifyTypeFuel_typeVariables_eq_nil
    (bound : ∀ v ∈ vars, ∃ type, arena.getFixedType v = some (some type))
    (closed : ∀ v ∈ vars, ∀ u, arena.FixedLink v u → u ∈ vars) :
    ∀ {fuel : Nat} {type result : Ty}, (∀ v ∈ type.typeVariables, v ∈ vars) →
      simplifyTypeFuel conformances attemptHoles arena fuel type = some result →
        result.typeVariables = []
  | 0, type, result, _, found => by
    unfold simplifyTypeFuel at found
    split at found
    · cases found
    · cases found
      rename_i noVars
      simpa using noVars
  | fuel + 1, type, result, over, found => by
    unfold simplifyTypeFuel at found
    split at found
    · rw [@simplifyTypeImpl_congr _ _ _ (fun v => if v ∈ vars then _ else some .unresolved) _
        fun v member => (if_pos (over v member)).symm] at found
      refine List.eq_nil_iff_forall_not_mem.mpr
        (typeVariables_simplifyTypeImpl (P := fun _ => False) (fun v x lookedUp => ?_) found)
      split at lookedUp
      · rename_i member
        obtain ⟨type', isBound⟩ := bound v member
        obtain ⟨r, isRep, fixed⟩ := Option.map_eq_some'.mp isBound
        simp only [isRep, fixed, Option.bind_eq_bind, Option.some_bind] at lookedUp
        have inVars : ∀ u ∈ type'.typeVariables, u ∈ vars := fun u inType =>
          closed v member u ⟨r, type', (getRepresentative_spec isRep).1,
            Arena.fixedTypeAt_eq_some.mp fixed, inType⟩
        simp [simplifyTypeFuel_typeVariables_eq_nil bound closed inVars lookedUp]
      · cases lookedUp
        simp [Ty.typeVariables]
    · cases found
      rename_i noVars
      simpa using noVars

end

/-! ## `finalize` -/

/-- The fixed types of a system mention only its own type variables, as they do in every
system the solver reaches: types are built from the variables the system creates. -/
def ConstraintSystem.TypesScoped (cs : ConstraintSystem) : Prop :=
  ∀ v ∈ cs.typeVariables, ∀ u, cs.arena.FixedLink v u → u ∈ cs.typeVariables

/-- A system whose type variables have never been written has no fixed types to mention
anything. -/
theorem ConstraintSystem.typesScoped_of_arena_empty {cs : ConstraintSystem}
    (untouched : cs.arena = Arena.empty) : cs.TypesScoped := by
  intro v _ u ⟨r, type, _, fixed, _⟩
  simp [untouched, Arena.empty, TypeVariableImpl.initial] at fixed

theorem mem_mapM_pair {f : Nat → Option Ty} :
    ∀ {typeVars : List Nat} {bindings : List (Nat × Ty)},
      typeVars.mapM (fun v => (f v).map (v, ·)) = some bindings →
        ∀ binding ∈ bindings, binding.1 ∈ typeVars ∧ f binding.1 = some binding.2
  | [], bindings, mapped, binding, member => by
    cases mapped
    cases member
  | u :: rest, bindings, mapped, binding, member => by
    simp only [List.mapM_cons, Option.bind_eq_bind, Option.bind_eq_some, Option.map_eq_some',
      Option.pure_def, Option.some.injEq] at mapped
    obtain ⟨_, ⟨type, found, rfl⟩, others, mappedRest, rfl⟩ := mapped
    rcases List.mem_cons.mp member with rfl | inRest
    · exact ⟨List.mem_cons_self _ _, found⟩
    · obtain ⟨inVars, isFound⟩ := mem_mapM_pair mappedRest binding inRest
      exact ⟨List.mem_cons_of_mem _ inVars, isFound⟩

theorem isSome_of_mapM_pair {f : Nat → Option Ty} :
    ∀ {typeVars : List Nat} {bindings : List (Nat × Ty)},
      typeVars.mapM (fun v => (f v).map (v, ·)) = some bindings → ∀ v ∈ typeVars, (f v).isSome
  | [], _, _, _, member => by cases member
  | u :: rest, bindings, mapped, v, member => by
    simp only [List.mapM_cons, Option.bind_eq_bind, Option.bind_eq_some, Option.map_eq_some',
      Option.pure_def, Option.some.injEq] at mapped
    obtain ⟨_, ⟨type, found, rfl⟩, others, mappedRest, rfl⟩ := mapped
    rcases List.mem_cons.mp member with rfl | inRest
    · simp [found]
    · exact isSome_of_mapM_pair mappedRest v inRest

/-- **`finalize` binds everything under a policy other than `Allow`.** When it returns, every
type variable of the system it leaves is bound through its representative, no type binding of
the solution mentions a type variable, and each variable of the system simplifies there to a
type without type variables. -/
theorem finalize_binds_everything {cs final : ConstraintSystem} {solution : Solution}
    {state : SolverState} (isState : cs.solverState = some state)
    (bindsAll : state.allowFreeTypeVariables ≠ .allow) (typesScoped : cs.TypesScoped)
    (finalized : cs.finalize = some (solution, final)) :
    (∀ v ∈ final.typeVariables, ∃ type, final.getFixedType v = some (some type)) ∧
      (∀ binding ∈ solution.typeBindings, binding.2.typeVariables = []) ∧
      ∀ v ∈ final.typeVariables, ∃ binding, final.simplifyType (.typeVariable v) = some binding ∧
        binding.typeVariables = [] := by
  unfold ConstraintSystem.finalize at finalized
  rw [isState, Option.some_bind] at finalized
  split at finalized
  · cases finalized
  obtain ⟨final', bound, taken⟩ := Option.bind_eq_some.mp finalized
  obtain ⟨_, isTaken, same⟩ := Option.map_eq_some'.mp taken
  cases same
  obtain ⟨sameVars, -, binds, links⟩ := ConstraintSystem.bindFreeTypeVariables_binds bindsAll bound
  have everyBound : ∀ v ∈ final.typeVariables, ∃ type, final.getFixedType v = some (some type) :=
    fun v member => binds v (sameVars ▸ member)
  have closed : ∀ v ∈ final.typeVariables, ∀ u, final.arena.FixedLink v u → u ∈ final.typeVariables :=
    fun v member u link => sameVars ▸ typesScoped v (sameVars ▸ member) u (links v u link)
  have noVars : ∀ v ∈ final.typeVariables, ∀ binding,
      final.simplifyType (.typeVariable v) = some binding → binding.typeVariables = [] :=
    fun v member _ => simplifyTypeFuel_typeVariables_eq_nil everyBound closed
      (by simpa [Ty.typeVariables] using member)
  refine ⟨everyBound, fun binding member => ?_, fun v member => ?_⟩
  · obtain ⟨inVars, simplified⟩ := mem_mapM_pair (takeSolution_typeBindings isTaken) binding member
    exact noVars _ inVars _ simplified
  · obtain ⟨binding, simplified⟩ := Option.isSome_iff_exists.mp
      (isSome_of_mapM_pair (takeSolution_typeBindings isTaken) v member)
    exact ⟨binding, simplified, noVars v member binding simplified⟩

/-- **Under `UnresolvedType`, `finalize` leaves nothing free.** In a system whose fixed types
mention only its own type variables, whenever `finalize` returns under the `UnresolvedType`
policy, every type variable of the system is bound through its representative, and no type
binding of the solution mentions a type variable. -/
theorem finalize_unresolvedType_binds_everything {cs final : ConstraintSystem}
    {solution : Solution} {state : SolverState} (isState : cs.solverState = some state)
    (unresolved : state.allowFreeTypeVariables = .unresolvedType) (typesScoped : cs.TypesScoped)
    (finalized : cs.finalize = some (solution, final)) :
    (∀ v ∈ final.typeVariables, ∃ type, final.getFixedType v = some (some type)) ∧
      ∀ binding ∈ solution.typeBindings, binding.2.typeVariables = [] :=
  (finalize_binds_everything isState (by rw [unresolved]; nofun) typesScoped finalized).imp_right
    And.left

/-- A system with one free type variable: `finalize` under `UnresolvedType` binds it. -/
theorem finalize_unresolvedType_binds_everything_fresh :
    ∃ solution final, { ConstraintSystem.empty .trivial with
        typeVariables := [0], solverState := some (.initial .unresolvedType []) }.finalize =
        some (solution, final) ∧
      (∀ v ∈ final.typeVariables, ∃ type, final.getFixedType v = some (some type)) ∧
      ∀ binding ∈ solution.typeBindings, binding.2.typeVariables = [] :=
  ⟨_, _, rfl, @finalize_unresolvedType_binds_everything { ConstraintSystem.empty .trivial with
      typeVariables := [0], solverState := some (.initial .unresolvedType []) } _ _ _ rfl rfl
    (ConstraintSystem.typesScoped_of_arena_empty rfl) rfl⟩

end Constraints
