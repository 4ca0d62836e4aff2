import ConstraintSolver.UnionFind

/-! # Classes only grow

The solver joins the equivalence classes of type variables and binds them, but nothing it does
splits a class or takes a fixed type away: `mergeEquivalenceClasses` unites two classes and
keeps the fixed type either had, `assignFixedType` binds only a class without one, and
destroying a scope puts back the links of a state the run passed through.
`Constraints.ConstraintSystem.Coarsens` says so of two states; over links that point down every
mutation keeps it (`Constraints.Mutation.coarsens`), and so does every balanced run
(`Constraints.Balanced.coarsens`).

Re-applying a solution rests on this. The members of a class of the system a scope was opened on
share a representative, and so a binding, in every solution taken inside the scope; the binding
loop of `applySolution` then binds such a class, found free, to the one type its members carry
(`Constraints.applyBindings_binds_class`).
-/

namespace Constraints

open ConstraintSystem

namespace ConstraintSystem

/-- `after` keeps the classes of `before`: variables that share a representative in `before`
share one in `after`, and a class with a fixed type keeps it. -/
structure Coarsens (before after : ConstraintSystem) : Prop where
  classes : ∀ u v, before.getRepresentative u = before.getRepresentative v →
    after.getRepresentative u = after.getRepresentative v
  fixed : ∀ v type, before.getFixedType v = some (some type) →
    after.getFixedType v = some (some type)

namespace Coarsens

variable {a b c : ConstraintSystem}

theorem refl (cs : ConstraintSystem) : Coarsens cs cs :=
  ⟨fun _ _ same => same, fun _ _ fixed => fixed⟩

theorem trans (first : Coarsens a b) (second : Coarsens b c) : Coarsens a c :=
  ⟨fun u v same => second.classes u v (first.classes u v same),
    fun v type fixed => second.fixed v type (first.fixed v type fixed)⟩

/-- A step that keeps every link keeps every class and every fixed type. -/
theorem of_sameLinks (same : b.arena.SameLinks a.arena) : Coarsens a b where
  classes u v classes := by
    simpa only [getRepresentative, Arena.getRepresentative_eq_of_sameLinks same] using classes
  fixed v type fixed := by
    simpa only [getFixedType, Arena.getFixedType_eq_of_sameLinks same] using fixed

theorem of_arena (arena : b.arena = a.arena) : Coarsens a b :=
  of_sameLinks (by rw [arena]; exact Arena.SameLinks.refl _)

end Coarsens

/-- Links that point down before a scope point down once it is destroyed. -/
theorem LinksDown.restoredTo {cs after : ConstraintSystem} (down : cs.LinksDown)
    (restored : RestoredTo after cs) : after.LinksDown :=
  ⟨fun v next linked => down.arena v next ((restored.links v) ▸ linked),
    restored.savedBindings ▸ down.journal⟩

end ConstraintSystem

/-! ## Every mutation keeps the classes -/

section Steps

variable {cs cs' : ConstraintSystem}

theorem assignFixedType_coarsens {typeVar : Nat} {type : Ty} {updateState : Bool}
    (acyclic : cs.arena.RepresentativesAcyclic)
    (assigned : cs.assignFixedType typeVar type updateState = some cs') : Coarsens cs cs' := by
  obtain ⟨r, -, unfixed, lookups⟩ := assignFixedType_spec acyclic assigned
  refine ⟨fun u v same => by rw [(lookups u).1, (lookups v).1, same], fun v fixedType fixed => ?_⟩
  obtain ⟨rv, found, atRv⟩ := Option.map_eq_some'.mp fixed
  have other : rv ≠ r := by
    rintro rfl
    rw [unfixed] at atRv
    cases atRv
  rw [(lookups v).2, show cs.getRepresentative v = some rv from found]
  simp [other, atRv]

theorem mergeEquivalenceClasses_coarsens {typeVar1 typeVar2 : Nat} {updateWorkList : Bool}
    (acyclic : cs.arena.RepresentativesAcyclic)
    (merged : cs.mergeEquivalenceClasses typeVar1 typeVar2 updateWorkList = some cs') :
    Coarsens cs cs' := by
  obtain ⟨atMostOne, lookups⟩ := mergeEquivalenceClasses_spec acyclic merged
  refine ⟨fun u v same => ?_, fun v type fixed => ?_⟩
  · obtain ⟨ru, foundU, movedU, -⟩ := lookups u
    obtain ⟨rv, foundV, movedV, -⟩ := lookups v
    obtain rfl : ru = rv := Option.some.inj (foundU.symm.trans (same.trans foundV))
    rw [movedU, movedV]
  · obtain ⟨r, found, -, fixedAfter⟩ := lookups v
    obtain ⟨_, isR, atR⟩ := Option.map_eq_some'.mp fixed
    cases (show cs.getRepresentative v = _ from isR).symm.trans found
    rw [fixedAfter]
    split_ifs with united
    · rcases united with rfl | rfl
      · simp [atR]
      · rcases atMostOne with free | free
        · simp [free, atR]
        · rw [free] at atR
          cases atR
    · rw [atR]

theorem createTypeVariable_coarsens {v : Nat} {options : TypeVariableOptions}
    (created : cs.createTypeVariable v options = some cs') : Coarsens cs cs' := by
  unfold ConstraintSystem.createTypeVariable at created
  split at created
  · cases created
  · next fresh =>
    cases created
    refine Coarsens.of_sameLinks fun u => ?_
    by_cases here : u = v
    · subst here
      simp [addTypeVariable, cs.arena.unallocated u fun member => fresh (.inr member),
        TypeVariableImpl.initial]
    · simp [addTypeVariable, Function.update_noteq here]

theorem setCanBindToLValue_coarsens {typeVar : Nat} {enabled : Bool}
    (set : cs.setCanBindToLValue typeVar enabled = some cs') : Coarsens cs cs' := by
  obtain ⟨r, -, rfl⟩ := Option.map_eq_some'.mp set
  refine Coarsens.of_sameLinks fun u => ?_
  by_cases here : u = r
  · subst here
    simp [writeTypeVariable]
  · simp [writeTypeVariable, Function.update_noteq here]

theorem applyBindings_coarsens : ∀ {bindings : List (Nat × Ty)} {cs cs' : ConstraintSystem},
    cs.LinksDown → applyBindings bindings cs = some cs' → Coarsens cs cs'
  | [], _, _, _, applied => by cases applied; exact .refl _
  | (typeVar, type) :: rest, cs, cs', down, applied => by
    obtain ⟨middle, first, second⟩ := Option.bind_eq_some.mp applied
    obtain ⟨fixed, -, assigned⟩ := Option.bind_eq_some.mp first
    have added : (cs.addTypeVariable typeVar).LinksDown := down.of_eq rfl rfl
    have toMiddle : Coarsens cs middle ∧ middle.LinksDown := by
      split at assigned
      · have toAdded : Coarsens cs (cs.addTypeVariable typeVar) := .of_arena rfl
        exact ⟨toAdded.trans (assignFixedType_coarsens (by exact added.arena.representativesAcyclic)
          assigned), added.assignFixedType assigned⟩
      · cases assigned
        exact ⟨.of_arena rfl, added⟩
    exact toMiddle.1.trans (applyBindings_coarsens toMiddle.2 second)

theorem applySolution_coarsens (down : cs.LinksDown) {solution : Solution}
    (applied : cs.applySolution solution = some cs') : Coarsens cs cs' := by
  obtain ⟨bound, boundOk, rfl⟩ := Option.map_eq_some'.mp applied
  have scored : { cs with currentScore := cs.currentScore.add solution.fixedScore }.LinksDown :=
    down.of_eq rfl rfl
  have toScored : Coarsens cs { cs with currentScore := cs.currentScore.add solution.fixedScore } :=
    .of_arena rfl
  exact (toScored.trans (applyBindings_coarsens scored boundOk)).trans
    (.of_arena (setTypes_keeps solution.nodeTypes (bound.applyRecords solution)).1)

theorem bindFreeTypeVariables_coarsens {policy : FreeTypeVariableBinding} :
    ∀ {typeVars : List Nat} {cs cs' : ConstraintSystem}, cs.LinksDown →
      cs.bindFreeTypeVariables policy typeVars = some cs' → Coarsens cs cs'
  | [], _, _, _, bound => by cases bound; exact .refl _
  | typeVar :: rest, cs, cs', down, bound => by
    obtain ⟨middle, first, second⟩ := Option.bind_eq_some.mp bound
    obtain ⟨fixed, -, assigned⟩ := Option.bind_eq_some.mp first
    have toMiddle : Coarsens cs middle ∧ middle.LinksDown := by
      split at assigned <;> first
        | (cases assigned; exact ⟨.refl _, down⟩)
        | exact ⟨assignFixedType_coarsens down.arena.representativesAcyclic assigned,
            down.assignFixedType assigned⟩
        | cases assigned
    exact toMiddle.1.trans (bindFreeTypeVariables_coarsens toMiddle.2 second)

theorem finalize_coarsens (down : cs.LinksDown) {solution : Solution}
    (finalized : cs.finalize = some (solution, cs')) : Coarsens cs cs' := by
  unfold ConstraintSystem.finalize at finalized
  obtain ⟨state, isState, finalized⟩ := Option.bind_eq_some.mp finalized
  split at finalized
  · cases finalized
  obtain ⟨final, bound, taken⟩ := Option.bind_eq_some.mp finalized
  obtain ⟨_, -, same⟩ := Option.map_eq_some'.mp taken
  cases same
  have lowered : { cs with solverState := some { state with
      bestScore := some (nextBestScore cs.currentScore state.bestScore) } }.LinksDown :=
    down.of_eq rfl (by simp [savedBindings, isState])
  have toLowered : Coarsens cs { cs with solverState := some { state with
      bestScore := some (nextBestScore cs.currentScore state.bestScore) } } := .of_arena rfl
  exact toLowered.trans (bindFreeTypeVariables_coarsens lowered bound)

theorem retireConstraint_arena {constraint : Nat}
    (retired : cs.retireConstraint constraint = some cs') : cs'.arena = cs.arena := by
  obtain ⟨middle, first, second⟩ := Option.bind_eq_some.mp retired
  obtain ⟨-, rfl⟩ := removeInactiveConstraint_eq_some _ second
  split at first
  · obtain ⟨-, -, rfl⟩ := deactivateConstraint_eq_some _ first
    rfl
  · cases first
    rfl

/-- **Step lemma**: over links that point down, every mutation keeps the classes and the fixed
types. -/
theorem Mutation.coarsens (mutation : Mutation) (down : cs.LinksDown)
    (applied : mutation.apply cs = some cs') : Coarsens cs cs' := by
  cases mutation <;> simp only [Mutation.apply] at applied
  case createTypeVariable => exact createTypeVariable_coarsens applied
  case assignFixedType => exact assignFixedType_coarsens down.arena.representativesAcyclic applied
  case mergeEquivalenceClasses =>
    exact mergeEquivalenceClasses_coarsens down.arena.representativesAcyclic applied
  case setCanBindToLValue => exact setCanBindToLValue_coarsens applied
  case applySolution => exact applySolution_coarsens down applied
  case finalize =>
    obtain ⟨⟨solution, final⟩, finalized, rfl⟩ := Option.map_eq_some'.mp applied
    exact finalize_coarsens down finalized
  case activateConstraint =>
    obtain ⟨-, -, rfl⟩ := activateConstraint_eq_some _ applied
    exact .of_arena rfl
  case deactivateConstraint =>
    obtain ⟨-, -, rfl⟩ := deactivateConstraint_eq_some _ applied
    exact .of_arena rfl
  case retireConstraint => exact .of_arena (retireConstraint_arena applied)
  case retireFailedConstraint constraint =>
    have kept := retireConstraint_arena
      (show { cs with failedConstraint := some constraint }.retireConstraint constraint = some cs'
        from applied)
    exact .of_arena kept
  case addUnsolvedConstraint =>
    obtain ⟨-, -, -, rfl⟩ := addUnsolvedConstraint_eq_some _ applied
    exact .of_arena rfl
  case resolveOverload | setContextualType | setSolutionApplicationTarget | setCaseLabelItemInfo =>
    simp only [ConstraintSystem.resolveOverload, ConstraintSystem.setContextualType,
      ConstraintSystem.setSolutionApplicationTarget, ConstraintSystem.setCaseLabelItemInfo] at applied
    split at applied <;> cases applied
    exact .of_arena rfl
  all_goals
    cases applied
    exact .of_arena rfl

end Steps

/-- **Run lemma**: over links that point down, a balanced run keeps the classes and the fixed
types, and the links keep pointing down. A scope it opens and destroys puts back the links of
the state it was opened on. -/
theorem Balanced.coarsens {events : List SolverEvent} (balanced : Balanced events) :
    ∀ {cs cs' : ConstraintSystem}, cs.LinksDown → run events cs = some cs' →
      Coarsens cs cs' ∧ cs'.LinksDown := by
  induction balanced with
  | nil =>
    intro cs cs' down ran
    cases ran
    exact ⟨.refl _, down⟩
  | mutate mutation _ ih =>
    intro cs cs' down ran
    obtain ⟨middle, first, second⟩ := Option.bind_eq_some.mp ran
    obtain ⟨rest, restDown⟩ := ih (linksDown_invariant.mutate mutation down first) second
    exact ⟨(mutation.coarsens down first).trans rest, restDown⟩
  | scope innerBalanced _ ihInner ihRest =>
    intro cs cs' down ran
    obtain ⟨opened, inside, closed, isOpened, ranInner, isClosed, ranRest⟩ := run_scope_block ran
    obtain ⟨closed', isClosed', restored⟩ := closeScope_of_undoable isOpened
      (innerBalanced.undoable (openScope_active isOpened) ranInner)
    cases isClosed.symm.trans isClosed'
    obtain ⟨rest, restDown⟩ := ihRest (down.restoredTo restored) ranRest
    exact ⟨(Coarsens.of_sameLinks restored.links).trans rest, restDown⟩

/-! ## Simplifying the members of a class -/

section Simplify

variable {cs : ConstraintSystem}

/-- A type variable simplifies to what its representative gives: its simplified fixed type, or
the representative itself. -/
theorem simplifyType_typeVariable (cs : ConstraintSystem) (v : Nat) :
    cs.simplifyType (.typeVariable v) = (cs.getRepresentative v).bind fun r =>
      match cs.arena.fixedTypeAt r with
      | some fixed => simplifyTypeFuel cs.env.conformances cs.attemptHoles cs.arena
          cs.arena.allocated.length fixed
      | none => some (.typeVariable r) :=
  rfl

/-- The members of a class simplify alike. -/
theorem simplifyType_typeVariable_congr {u v : Nat}
    (same : cs.getRepresentative u = cs.getRepresentative v) :
    cs.simplifyType (.typeVariable u) = cs.simplifyType (.typeVariable v) := by
  rw [simplifyType_typeVariable, simplifyType_typeVariable, same]

/-- A member of a class bound to a type without type variables simplifies to that type. -/
theorem simplifyType_of_fixed {v : Nat} {type : Ty} (fixed : cs.getFixedType v = some (some type))
    (noVariables : type.hasTypeVariable = false) : cs.simplifyType (.typeVariable v) = some type := by
  obtain ⟨r, found, atR⟩ := Option.map_eq_some'.mp fixed
  rw [simplifyType_typeVariable, show cs.getRepresentative v = some r from found, Option.some_bind,
    atR]
  cases cs.arena.allocated.length <;> simp [simplifyTypeFuel, noVariables]

end Simplify

/-! ## The binding loop of `applySolution` on one class -/

/-- **The binding loop binds a free class to the type its members carry.** Over links that point
down, when every binding of a member of `v`'s class is `type`, which mentions no type variable,
the loop leaves the class free or bound to `type`; and bound to `type` once it applied a binding
of `v`. -/
theorem applyBindings_binds_class {v : Nat} {type : Ty} (noVariables : type.hasTypeVariable = false) :
    ∀ {bindings : List (Nat × Ty)} {cs cs' : ConstraintSystem}, cs.LinksDown →
      (∀ u t, (u, t) ∈ bindings → cs.getRepresentative u = cs.getRepresentative v → t = type) →
      (cs.getFixedType v = some none ∨ cs.getFixedType v = some (some type)) →
      applyBindings bindings cs = some cs' →
      (cs'.getFixedType v = some none ∨ cs'.getFixedType v = some (some type)) ∧
        ((v, type) ∈ bindings → cs'.getFixedType v = some (some type))
  | [], _, _, _, _, freeOrBound, applied => by
    cases applied
    exact ⟨freeOrBound, nofun⟩
  | (u, t) :: rest, cs, cs', down, carried, freeOrBound, applied => by
    obtain ⟨middle, first, second⟩ := Option.bind_eq_some.mp applied
    obtain ⟨fixed, isFixed, assigned⟩ := Option.bind_eq_some.mp first
    have acyclic := down.arena.representativesAcyclic
    have carriedHere := carried u t (List.mem_cons_self _ _)
    -- one binding keeps every representative, and binds `v`'s class only to `type`
    have step : (∀ w, middle.getRepresentative w = cs.getRepresentative w) ∧ middle.LinksDown ∧
        (middle.getFixedType v = some none ∨ middle.getFixedType v = some (some type)) ∧
        (cs.getRepresentative u = cs.getRepresentative v →
          middle.getFixedType v = some (some type)) := by
      split at assigned
      · obtain ⟨ru, foundU, -, lookups⟩ := assignFixedType_spec (by exact acyclic) assigned
        have lookups' : ∀ w, middle.getRepresentative w = cs.getRepresentative w ∧
            middle.getFixedType w = (cs.getRepresentative w).map fun rw =>
              if rw = ru then some t else cs.arena.fixedTypeAt rw := lookups
        obtain ⟨rv, foundV⟩ := Option.isSome_iff_exists.mp (Arena.getRepresentative_isSome acyclic v)
        have atV := (lookups' v).2
        rw [show cs.getRepresentative v = some rv from foundV, Option.map_some'] at atV
        have united : cs.getRepresentative u = cs.getRepresentative v → rv = ru := fun same =>
          Option.some.inj ((show cs.getRepresentative v = some rv from foundV).symm.trans
            (same.symm.trans foundU))
        refine ⟨fun w => (lookups' w).1,
          (show (cs.addTypeVariable u).LinksDown from down.of_eq rfl rfl).assignFixedType assigned,
          ?_, fun same => by rw [atV, if_pos (united same), carriedHere same]⟩
        by_cases here : rv = ru
        · subst here
          rw [atV, if_pos rfl, carriedHere (foundU.trans foundV.symm)]
          exact .inr rfl
        · rw [atV, if_neg here]
          simpa [getFixedType, Arena.getFixedType, show cs.arena.getRepresentative v = some rv
            from foundV] using freeOrBound
      · next unbindable =>
        cases assigned
        refine ⟨fun _ => rfl, down.of_eq rfl rfl, freeOrBound, fun same => ?_⟩
        have sameFixed : cs.getFixedType u = cs.getFixedType v := by
          simp only [getFixedType, Arena.getFixedType]
          exact congrArg (Option.map _) same
        rcases freeOrBound with free | bound
        · have : fixed = none := Option.some.inj (isFixed.symm.trans (sameFixed.trans free))
          subst this
          simp [carriedHere same, noVariables] at unbindable
        · exact bound
    obtain ⟨same, middleDown, middleFreeOrBound, boundHere⟩ := step
    obtain ⟨freeOrBound', boundLater⟩ := applyBindings_binds_class noVariables middleDown
      (fun w t' member sameClass => carried w t' (List.mem_cons_of_mem _ member)
        (by rwa [same, same] at sameClass))
      middleFreeOrBound second
    refine ⟨freeOrBound', fun member => ?_⟩
    rcases List.mem_cons.mp member with here | later
    · obtain ⟨rfl, rfl⟩ := Prod.mk.inj_iff.mp here
      exact (applyBindings_coarsens middleDown second).fixed _ _ (boundHere rfl)
    · exact boundLater later

end Constraints
