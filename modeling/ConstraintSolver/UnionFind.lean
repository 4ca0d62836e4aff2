import ConstraintSolver.Reachable
import ConstraintSolver.Binding

/-! # The union-find of type variables

The type variables of a system form a union-find: each record links to a parent, and a
representative links to itself or holds the fixed type of its class. Two operations change the
links. `mergeEquivalenceClasses` re-points one representative at the other, always the one with
the higher identifier at the lower; `assignFixedType` replaces a representative's self-link by
the fixed type. Creation links a variable to itself, and destroying a scope puts back records
the binding journal saved.

So every parent link points to a variable no later than its own, in the arena and in every
record the journal would restore, in every reachable state
(`Constraints.reachable_links_point_down`). The links are then acyclic, which the lookups of
representatives, the simplification of types and the walks of the constraint graph assume, and
every variable's representative is found and is the variable itself or an earlier one.

Over acyclic links the two operations are what a union-find promises. Merging two
representatives, at most one of which has a fixed type, sends both classes to the lower of the
two with the fixed type either had, and leaves every other class as it was
(`Constraints.mergeEquivalenceClasses_unites`).
Binding a variable's class gives the type to every member of that class and only to them, and
moves no variable to another class (`Constraints.assignFixedType_binds_class`).
-/

namespace Constraints

open Relation

namespace Arena

variable {arena : Arena} {v next : Nat} {record : TypeVariableImpl}

/-- The record's parent link, if it has one, points to `v` or to an earlier variable. -/
def LinksDownAt (v : Nat) (record : TypeVariableImpl) : Prop :=
  ∀ next, record.parentOrFixed = .parent next → next ≤ v

/-- Every parent link points to an earlier variable, or is a representative's link to itself. -/
def LinksDown (arena : Arena) : Prop := ∀ v, LinksDownAt v (arena.impl v)

theorem linksDownAt_fixed (v : Nat) (record : TypeVariableImpl) (type : Ty) :
    LinksDownAt v { record with parentOrFixed := .fixed type } := fun _ linked => by
  cases linked

theorem linksDownAt_self (v : Nat) (options : TypeVariableOptions) :
    LinksDownAt v ⟨.parent v, options⟩ := fun _ linked => by
  cases linked
  exact le_rfl

theorem empty_linksDown : Arena.empty.LinksDown := fun v => linksDownAt_self v _

theorem LinksDown.parentLink_lt (down : arena.LinksDown) (link : arena.ParentLink v next) :
    next < v :=
  lt_of_le_of_ne (down v next link.1) link.2

theorem LinksDown.le_of_reflTransGen (down : arena.LinksDown) {r : Nat}
    (chain : ReflTransGen arena.ParentLink v r) : r ≤ v := by
  induction chain with
  | refl => exact le_rfl
  | tail _ link ih => exact (down.parentLink_lt link).le.trans ih

/-- Links that point down are acyclic. -/
theorem LinksDown.representativesAcyclic (down : arena.LinksDown) :
    arena.RepresentativesAcyclic := fun v cycle => by
  have descends : ∀ {a b}, TransGen arena.ParentLink a b → b < a := fun chain => by
    induction chain with
    | single link => exact down.parentLink_lt link
    | tail _ link ih => exact (down.parentLink_lt link).trans ih
  exact lt_irrefl v (descends cycle)

theorem LinksDown.write (down : arena.LinksDown) (recordDown : LinksDownAt v record) :
    (arena.write v record).LinksDown := fun u => by
  by_cases here : u = v
  · subst here
    simpa using recordDown
  · simpa [Function.update_noteq here] using down u

/-- Putting back records whose links point down keeps the links pointing down. -/
theorem LinksDown.restoreAll (down : arena.LinksDown) {journal : List SavedTypeVariableBinding}
    (journalDown : ∀ saved ∈ journal, LinksDownAt saved.typeVar saved.impl) :
    (Arena.restoreAll journal arena).LinksDown := by
  induction journal with
  | nil => exact down
  | cons saved rest ih =>
    exact (ih fun other member => journalDown other (List.mem_cons_of_mem _ member)).write
      (journalDown saved (List.mem_cons_self _ _))

end Arena

namespace ConstraintSystem

/-- Parent links point down in the arena and in every record the binding journal would put
back. -/
structure LinksDown (cs : ConstraintSystem) : Prop where
  arena : cs.arena.LinksDown
  journal : ∀ saved ∈ cs.savedBindings, Arena.LinksDownAt saved.typeVar saved.impl

variable {cs cs' : ConstraintSystem}

theorem LinksDown.of_eq (down : cs.LinksDown) (arena : cs'.arena = cs.arena)
    (journal : cs'.savedBindings = cs.savedBindings) : cs'.LinksDown :=
  ⟨arena ▸ down.arena, journal ▸ down.journal⟩

theorem savedBindings_of_update (update : SolverState → SolverState)
    (state : cs'.solverState = cs.solverState.map update)
    (keeps : ∀ state, (update state).savedBindings = state.savedBindings) :
    cs'.savedBindings = cs.savedBindings := by
  cases h : cs.solverState <;> simp [savedBindings, state, h, keeps]

/-- A journaled write of a record whose link points down: the journal gains the record it
replaces, whose link points down too. -/
theorem LinksDown.writeTypeVariable (down : cs.LinksDown) {v : Nat} {record : TypeVariableImpl}
    (recordDown : Arena.LinksDownAt v record) : (cs.writeTypeVariable v record).LinksDown := by
  refine ⟨down.arena.write recordDown, fun saved member => ?_⟩
  cases isState : cs.solverState with
  | none => simp [ConstraintSystem.writeTypeVariable, savedBindings, isState] at member
  | some state =>
    simp only [ConstraintSystem.writeTypeVariable, savedBindings, isState, Option.map_some',
      Option.getD_some, List.mem_append, List.mem_singleton] at member
    rcases member with member | rfl
    · exact down.journal saved (by simp [savedBindings, isState, member])
    · exact down.arena v

theorem activateAll_solverState : ∀ {constraints : List Nat} {cs cs' : ConstraintSystem},
    cs.activateAll constraints = some cs' → cs'.solverState = cs.solverState
  | [], _, _, activated => by cases activated; rfl
  | constraint :: rest, cs, cs', activated => by
    obtain ⟨middle, first, second⟩ := Option.bind_eq_some.mp activated
    refine (activateAll_solverState second).trans ?_
    split at first
    · cases first
      rfl
    · obtain ⟨-, -, rfl⟩ := activateConstraint_eq_some _ first
      rfl

/-- What `assignFixedType` does to the records: one journaled write that fixes the
representative of the variable, which had no fixed type. -/
theorem assignFixedType_writes {typeVar : Nat} {type : Ty} {updateState : Bool}
    (assigned : cs.assignFixedType typeVar type updateState = some cs') :
    ∃ r, cs.getRepresentative typeVar = some r ∧ cs.arena.fixedTypeAt r = none ∧
      cs'.arena = (cs.writeTypeVariable r { cs.arena.impl r with parentOrFixed := .fixed type }).arena ∧
      cs'.savedBindings =
        (cs.writeTypeVariable r { cs.arena.impl r with parentOrFixed := .fixed type }).savedBindings := by
  unfold assignFixedType at assigned
  split at assigned
  · cases assigned
  obtain ⟨r, found, bound⟩ := Option.bind_eq_some.mp assigned
  split at bound
  · cases bound
  rename_i unfixed
  refine ⟨r, found, Option.not_isSome_iff_eq_none.mp unfixed, ?_⟩
  cases updateState <;> simp only [Bool.not_false, Bool.not_true, Bool.false_eq_true,
    ↓reduceIte] at bound
  · cases bound
    exact ⟨rfl, rfl⟩
  · refine ⟨(activateAll_keeps_arena bound).1.trans ?_, ?_⟩
    · split <;> rfl
    · simp only [savedBindings, activateAll_solverState bound]
      split <;> rfl

/-- What `mergeEquivalenceClasses` does to the records: it checks that both variables are
distinct representatives, and merges their implementations. -/
theorem mergeEquivalenceClasses_writes {typeVar1 typeVar2 : Nat} {updateWorkList : Bool}
    (merged : cs.mergeEquivalenceClasses typeVar1 typeVar2 updateWorkList = some cs') :
    cs.getRepresentative typeVar1 = some typeVar1 ∧ cs.getRepresentative typeVar2 = some typeVar2 ∧
      typeVar1 ≠ typeVar2 ∧ ∃ impl, cs.implMergeEquivalenceClasses typeVar1 typeVar2 = some impl ∧
        cs'.arena = impl.arena ∧ cs'.savedBindings = impl.savedBindings := by
  unfold mergeEquivalenceClasses at merged
  split at merged
  · cases merged
  rename_i valid
  simp only [not_or, not_not] at valid
  obtain ⟨impl, isImpl, merged⟩ := Option.bind_eq_some.mp merged
  refine ⟨valid.1, valid.2.1, valid.2.2, impl, isImpl, ?_⟩
  split at merged
  · exact ⟨(activateAll_keeps_arena merged).1,
      by simp only [savedBindings, activateAll_solverState merged, addTypeVariableConstraintsToWorkList]⟩
  · cases merged
    exact ⟨rfl, rfl⟩

theorem LinksDown.assignFixedType (down : cs.LinksDown) {typeVar : Nat} {type : Ty}
    {updateState : Bool} (assigned : cs.assignFixedType typeVar type updateState = some cs') :
    cs'.LinksDown := by
  obtain ⟨r, -, -, arena, journal⟩ := assignFixedType_writes assigned
  exact (down.writeTypeVariable (Arena.linksDownAt_fixed r _ type)).of_eq arena journal

theorem LinksDown.mergeEquivalenceClasses (down : cs.LinksDown) {typeVar1 typeVar2 : Nat}
    {updateWorkList : Bool}
    (merged : cs.mergeEquivalenceClasses typeVar1 typeVar2 updateWorkList = some cs') :
    cs'.LinksDown := by
  obtain ⟨-, -, -, impl, isImpl, arena, journal⟩ := mergeEquivalenceClasses_writes merged
  have linkDown : Arena.LinksDownAt (max typeVar1 typeVar2) { cs.arena.impl (max typeVar1 typeVar2) with
      parentOrFixed := .parent (min typeVar1 typeVar2) } := fun next linked => by
    cases linked
    omega
  refine LinksDown.of_eq ?_ arena journal
  rcases implMergeEquivalenceClasses_eq_some _ isImpl with ⟨-, rfl⟩ | ⟨type, -, -, rfl⟩
  · exact down.writeTypeVariable linkDown
  · exact (down.writeTypeVariable linkDown).writeTypeVariable (Arena.linksDownAt_fixed _ _ type)

theorem LinksDown.createTypeVariable (down : cs.LinksDown) {v : Nat} {options : TypeVariableOptions}
    (created : cs.createTypeVariable v options = some cs') : cs'.LinksDown := by
  unfold ConstraintSystem.createTypeVariable at created
  split at created
  · cases created
  · cases created
    exact ⟨down.arena.write (Arena.linksDownAt_self v options), down.journal⟩

theorem LinksDown.setCanBindToLValue (down : cs.LinksDown) {typeVar : Nat} {enabled : Bool}
    (set : cs.setCanBindToLValue typeVar enabled = some cs') : cs'.LinksDown := by
  obtain ⟨r, -, rfl⟩ := Option.map_eq_some'.mp set
  exact down.writeTypeVariable (down.arena r)

theorem LinksDown.applyBindings : ∀ {bindings : List (Nat × Ty)} {cs cs' : ConstraintSystem},
    cs.LinksDown → applyBindings bindings cs = some cs' → cs'.LinksDown
  | [], _, _, down, applied => by cases applied; exact down
  | (typeVar, type) :: rest, cs, cs', down, applied => by
    obtain ⟨middle, first, second⟩ := Option.bind_eq_some.mp applied
    obtain ⟨fixed, -, assigned⟩ := Option.bind_eq_some.mp first
    have added : (cs.addTypeVariable typeVar).LinksDown := down.of_eq rfl rfl
    refine LinksDown.applyBindings ?_ second
    split at assigned
    · exact added.assignFixedType assigned
    · cases assigned
      exact added

theorem setTypes_keeps : ∀ (entries : List (Nat × Ty)) (cs : ConstraintSystem),
    (entries.foldl (fun cs entry => cs.setType entry.1 entry.2) cs).arena = cs.arena ∧
      (entries.foldl (fun cs entry => cs.setType entry.1 entry.2) cs).solverState = cs.solverState
  | [], _ => ⟨rfl, rfl⟩
  | entry :: rest, cs => setTypes_keeps rest (cs.setType entry.1 entry.2)

theorem LinksDown.applySolution (down : cs.LinksDown) {solution : Solution}
    (applied : cs.applySolution solution = some cs') : cs'.LinksDown := by
  obtain ⟨bound, boundOk, rfl⟩ := Option.map_eq_some'.mp applied
  have scored : { cs with currentScore := cs.currentScore.add solution.fixedScore }.LinksDown :=
    down.of_eq rfl rfl
  have boundDown := scored.applyBindings boundOk
  obtain ⟨arena, state⟩ := setTypes_keeps solution.nodeTypes (bound.applyRecords solution)
  exact boundDown.of_eq arena (by simp only [savedBindings, applyTargets, state]; rfl)

theorem LinksDown.bindFreeTypeVariables {policy : FreeTypeVariableBinding} :
    ∀ {typeVars : List Nat} {cs cs' : ConstraintSystem}, cs.LinksDown →
      cs.bindFreeTypeVariables policy typeVars = some cs' → cs'.LinksDown
  | [], _, _, down, bound => by cases bound; exact down
  | typeVar :: rest, cs, cs', down, bound => by
    obtain ⟨middle, first, second⟩ := Option.bind_eq_some.mp bound
    obtain ⟨fixed, -, assigned⟩ := Option.bind_eq_some.mp first
    refine LinksDown.bindFreeTypeVariables ?_ second
    split at assigned <;> first
      | (cases assigned; exact down)
      | exact down.assignFixedType assigned
      | cases assigned

theorem LinksDown.finalize (down : cs.LinksDown) {solution : Solution}
    (finalized : cs.finalize = some (solution, cs')) : cs'.LinksDown := by
  unfold ConstraintSystem.finalize at finalized
  obtain ⟨state, isState, finalized⟩ := Option.bind_eq_some.mp finalized
  split at finalized
  · cases finalized
  obtain ⟨final, bound, taken⟩ := Option.bind_eq_some.mp finalized
  obtain ⟨_, -, same⟩ := Option.map_eq_some'.mp taken
  cases same
  have lowered : { cs with solverState := some { state with
      bestScore := some (nextBestScore cs.currentScore state.bestScore) } }.LinksDown :=
    down.of_eq rfl (by simp [savedBindings, isState])
  exact lowered.bindFreeTypeVariables bound

theorem LinksDown.retireConstraint (down : cs.LinksDown) {constraint : Nat}
    (retired : cs.retireConstraint constraint = some cs') : cs'.LinksDown := by
  obtain ⟨middle, first, second⟩ := Option.bind_eq_some.mp retired
  obtain ⟨-, rfl⟩ := removeInactiveConstraint_eq_some _ second
  have middleDown : middle.LinksDown := by
    split at first
    · obtain ⟨-, -, rfl⟩ := deactivateConstraint_eq_some _ first
      exact down.of_eq rfl rfl
    · cases first
      exact down
  exact middleDown.of_eq rfl (savedBindings_of_update _ rfl fun _ => rfl)

end ConstraintSystem

section Mutations

open ConstraintSystem

variable {cs cs' : ConstraintSystem}

/-- Every mutation keeps the links pointing down. -/
theorem Mutation.linksDown (mutation : Mutation) (down : cs.LinksDown)
    (applied : mutation.apply cs = some cs') : cs'.LinksDown := by
  cases mutation <;> simp only [Mutation.apply] at applied
  case createTypeVariable => exact down.createTypeVariable applied
  case assignFixedType => exact down.assignFixedType applied
  case mergeEquivalenceClasses => exact down.mergeEquivalenceClasses applied
  case setCanBindToLValue => exact down.setCanBindToLValue applied
  case applySolution => exact down.applySolution applied
  case finalize =>
    obtain ⟨⟨solution, final⟩, finalized, rfl⟩ := Option.map_eq_some'.mp applied
    exact down.finalize finalized
  case activateConstraint =>
    obtain ⟨-, -, rfl⟩ := activateConstraint_eq_some _ applied
    exact down.of_eq rfl rfl
  case deactivateConstraint =>
    obtain ⟨-, -, rfl⟩ := deactivateConstraint_eq_some _ applied
    exact down.of_eq rfl rfl
  case retireConstraint => exact down.retireConstraint applied
  case retireFailedConstraint constraint =>
    have failed : { cs with failedConstraint := some constraint }.LinksDown := down.of_eq rfl rfl
    exact failed.retireConstraint applied
  case addUnsolvedConstraint =>
    obtain ⟨-, -, -, rfl⟩ := addUnsolvedConstraint_eq_some _ applied
    exact down.of_eq rfl (savedBindings_of_update _ rfl fun _ => rfl)
  case favorConstraint | disableConstraint =>
    cases applied
    exact down.of_eq rfl (savedBindings_of_update _ rfl fun _ => rfl)
  case resolveOverload | setContextualType | setSolutionApplicationTarget | setCaseLabelItemInfo =>
    simp only [ConstraintSystem.resolveOverload, ConstraintSystem.setContextualType,
      ConstraintSystem.setSolutionApplicationTarget, ConstraintSystem.setCaseLabelItemInfo] at applied
    split at applied <;> cases applied
    exact down.of_eq rfl rfl
  all_goals
    cases applied
    exact down.of_eq rfl rfl

theorem reactivate_arena : ∀ {todo : List Nat} {cs cs' : ConstraintSystem},
    reactivate todo cs = some cs' → cs'.arena = cs.arena
  | [], _, _, reactivated => by cases reactivated; rfl
  | constraint :: rest, cs, cs', reactivated => by
    obtain ⟨middle, first, second⟩ := Option.bind_eq_some.mp reactivated
    refine (reactivate_arena second).trans ?_
    split at first
    · cases first
      rfl
    · obtain ⟨-, -, rfl⟩ := activateConstraint_eq_some _ first
      rfl

/-- Destroying a scope puts back records the journal saved, and keeps the rest of the journal. -/
theorem ConstraintSystem.LinksDown.unwindScope (down : cs.LinksDown) {state : SolverState}
    (isState : cs.solverState = some state) (scope : SolverScope) (outer : List SolverScope) :
    (cs.unwindScope state scope outer).LinksDown := by
  have journal : ∀ saved ∈ state.savedBindings, Arena.LinksDownAt saved.typeVar saved.impl :=
    fun saved member => down.journal saved (by simp [savedBindings, isState, member])
  refine ⟨down.arena.restoreAll fun saved member => journal saved (List.mem_of_mem_drop member),
    fun saved member => journal saved (List.mem_of_mem_take (n := scope.numSavedBindings) ?_)⟩
  simpa [savedBindings, unwindScope, truncate] using member

theorem ConstraintSystem.LinksDown.detachSolverState (down : cs.LinksDown)
    (detached : cs.detachSolverState = some cs') : cs'.LinksDown := by
  obtain ⟨state, -, -, reactivated⟩ := detachSolverState_eq_some detached
  refine ⟨by rw [reactivate_arena reactivated]; exact down.arena, fun saved member => ?_⟩
  simp [savedBindings, reactivate_solverState reactivated] at member

/-- The links point down in the empty system and every step keeps them so. -/
theorem linksDown_invariant : Invariant ConstraintSystem.LinksDown where
  empty _ := ⟨Arena.empty_linksDown, by simp [savedBindings, ConstraintSystem.empty]⟩
  mutate mutation down applied := mutation.linksDown down applied
  openScope down opened := by
    obtain ⟨state, isState, -, rfl⟩ := openScope_eq_some opened
    exact down.of_eq rfl (by simp [savedBindings, isState])
  closeScope down closed := by
    obtain ⟨state, scope, outer, isState, -, rfl⟩ := closeScope_eq_some closed
    exact down.unwindScope isState scope outer
  attachSolverState _ down attached := by
    obtain ⟨-, rfl⟩ := attachSolverState_eq_some attached
    exact ⟨down.arena, by simp [savedBindings, SolverState.initial]⟩
  detachSolverState down detached := down.detachSolverState detached
  setPhase _ down := ⟨down.arena, down.journal⟩

/-- **Parent links point down in every reachable state.** Every parent link other than a
representative's link to itself goes to an earlier variable, so the links are acyclic, and every
variable's representative is found and is the variable itself or an earlier one. -/
theorem reachable_links_point_down {cs : ConstraintSystem} (reachable : Reachable cs) :
    (∀ v next, cs.arena.ParentLink v next → next < v) ∧ cs.arena.RepresentativesAcyclic ∧
      ∀ v, ∃ r, cs.getRepresentative v = some r ∧ r ≤ v := by
  have down := (linksDown_invariant.reachable reachable).arena
  refine ⟨fun _ _ link => down.parentLink_lt link, down.representativesAcyclic, fun v => ?_⟩
  obtain ⟨r, found⟩ := Option.isSome_iff_exists.mp
    (Arena.getRepresentative_isSome down.representativesAcyclic v)
  exact ⟨r, found, down.le_of_reflTransGen (Arena.representative_spec found).1⟩

/-- Two type variables created on an empty system and merged. -/
def mergePair : List SolverEvent :=
  [.mutate (.createTypeVariable 0 ⟨false, false, false, false⟩),
    .mutate (.createTypeVariable 1 ⟨false, false, false, false⟩),
    .mutate (.mergeEquivalenceClasses 0 1 false)]

theorem reachable_links_point_down_mergePair :
    ∃ cs, run mergePair (.empty .trivial) = some cs ∧
      (∀ v next, cs.arena.ParentLink v next → next < v) ∧ cs.arena.RepresentativesAcyclic ∧
        ∀ v, ∃ r, cs.getRepresentative v = some r ∧ r ≤ v :=
  ⟨_, rfl, reachable_links_point_down (@Reachable.run _ _ (.empty .trivial) mergePair rfl)⟩

end Mutations

/-! ## Merging and binding over acyclic links -/

namespace Arena

variable {arena : Arena} {low high : Nat}

/-- Linking the representative `high` to the representative `low`: a lookup that ended at
`high` now ends at `low`, one step later, and every other lookup is unchanged. -/
theorem representative_write_link (record : TypeVariableImpl)
    (highRoot : (arena.impl high).parentOrFixed = .parent high ∨
      ∃ type, (arena.impl high).parentOrFixed = .fixed type)
    (lowRoot : (arena.impl low).parentOrFixed = .parent low ∨
      ∃ type, (arena.impl low).parentOrFixed = .fixed type)
    (different : low ≠ high) :
    ∀ {fuel u ru}, arena.representative fuel u = some ru →
      (arena.write high { record with parentOrFixed := .parent low }).representative (fuel + 1) u =
        some (if ru = high then low else ru)
  | 0, _, _, found => by cases found
  | fuel + 1, u, ru, found => by
    by_cases here : u = high
    · subst here
      have stays : ru = u := by
        rcases highRoot with root | ⟨type, root⟩ <;>
          simpa [representative, root, eq_comm] using found
      have lowFound : (arena.write u { record with parentOrFixed := .parent low }).representative
          (fuel + 1) low = some low := by
        rcases lowRoot with root | ⟨type, root⟩ <;>
          simp [representative, Function.update_noteq different, root]
      rw [stays, if_pos rfl, representative]
      simpa [different] using lowFound
    · unfold representative at found ⊢
      rw [write_impl, Function.update_noteq here]
      cases parent : (arena.impl u).parentOrFixed with
      | parent next =>
        simp only [parent] at found ⊢
        by_cases root : next = u
        · simp only [root, ↓reduceIte, Option.some.injEq] at found ⊢
          simp [← found, here]
        · simp only [root, ↓reduceIte] at found ⊢
          exact representative_write_link record highRoot lowRoot different found
      | fixed type =>
        simp only [parent, Option.some.injEq] at found ⊢
        simp [← found, here]

end Arena

namespace ConstraintSystem

variable {cs cs' : ConstraintSystem}

theorem root_of_getRepresentative {v r : Nat} (found : cs.getRepresentative v = some r) :
    (cs.arena.impl r).parentOrFixed = .parent r ∨
      ∃ type, (cs.arena.impl r).parentOrFixed = .fixed type :=
  (Arena.representative_spec found).2

end ConstraintSystem

/-- With at most one of two classes fixed, the fixed type of their union does not depend on
which of the two comes first. -/
theorem or_min_max {f : Nat → Option Ty} {a b : Nat}
    (atMostOne : f (min a b) = none ∨ f (max a b) = none) :
    (f (min a b)).or (f (max a b)) = (f a).or (f b) := by
  rcases le_total a b with le | le
  · rw [min_eq_left le, max_eq_right le]
  · rw [min_eq_right le, max_eq_left le] at *
    rcases atMostOne with none_ | none_ <;> simp [none_]

open ConstraintSystem in
/-- What a merge does to every lookup, over acyclic links. -/
theorem mergeEquivalenceClasses_spec {cs cs' : ConstraintSystem} {typeVar1 typeVar2 : Nat}
    {updateWorkList : Bool} (acyclic : cs.arena.RepresentativesAcyclic)
    (merged : cs.mergeEquivalenceClasses typeVar1 typeVar2 updateWorkList = some cs') :
    (cs.arena.fixedTypeAt typeVar1 = none ∨ cs.arena.fixedTypeAt typeVar2 = none) ∧
    ∀ v, ∃ r, cs.getRepresentative v = some r ∧
      cs'.getRepresentative v =
        some (if r = typeVar1 ∨ r = typeVar2 then min typeVar1 typeVar2 else r) ∧
      cs'.getFixedType v = some (if r = typeVar1 ∨ r = typeVar2 then
        (cs.arena.fixedTypeAt typeVar1).or (cs.arena.fixedTypeAt typeVar2)
        else cs.arena.fixedTypeAt r) := by
  obtain ⟨found1, found2, different, impl, isImpl, arena, -⟩ := mergeEquivalenceClasses_writes merged
  have roots : ∀ t, t = typeVar1 ∨ t = typeVar2 → (cs.arena.impl t).parentOrFixed = .parent t ∨
      ∃ type, (cs.arena.impl t).parentOrFixed = .fixed type := by
    rintro t (rfl | rfl)
    exacts [root_of_getRepresentative found1, root_of_getRepresentative found2]
  -- the higher representative linked to the lower
  have linked : ∀ v, ∃ r, cs.getRepresentative v = some r ∧
      (cs.arena.write (max typeVar1 typeVar2) { cs.arena.impl (max typeVar1 typeVar2) with
        parentOrFixed := .parent (min typeVar1 typeVar2) }).getRepresentative v =
        some (if r = typeVar1 ∨ r = typeVar2 then min typeVar1 typeVar2 else r) := fun v => by
    obtain ⟨r, found⟩ := Option.isSome_iff_exists.mp (Arena.getRepresentative_isSome acyclic v)
    have moved := Arena.getRepresentative_of_representative (Arena.representative_write_link
      (cs.arena.impl (max typeVar1 typeVar2)) (roots (max typeVar1 typeVar2) (by omega))
      (roots (min typeVar1 typeVar2) (by omega)) (by omega) found)
    refine ⟨r, found, moved.trans ?_⟩
    congr 1
    split_ifs <;> omega
  have notHigh : ∀ r, ¬(r = typeVar1 ∨ r = typeVar2) → r ≠ max typeVar1 typeVar2 := fun r => by
    omega
  rcases implMergeEquivalenceClasses_eq_some _ isImpl with
    ⟨highFree, rfl⟩ | ⟨type, lowFree, highFixed, rfl⟩
  · -- only the link: the lower representative keeps its fixed type, if any
    have merged : cs.arena.fixedTypeAt (min typeVar1 typeVar2) =
        (cs.arena.fixedTypeAt typeVar1).or (cs.arena.fixedTypeAt typeVar2) := by
      rw [← @or_min_max cs.arena.fixedTypeAt typeVar1 typeVar2 (.inr highFree), highFree,
        Option.or_none]
    refine ⟨?_, fun v => ?_⟩
    · rcases le_total typeVar1 typeVar2 with le | le
      · exact .inr (by rwa [max_eq_right le] at highFree)
      · exact .inl (by rwa [max_eq_left le] at highFree)
    obtain ⟨r, found, moved⟩ := linked v
    refine ⟨r, found, ?_, ?_⟩
    · show cs'.arena.getRepresentative v = _
      rw [arena]
      exact moved
    show cs'.arena.getFixedType v = _
    rw [arena]
    simp only [writeTypeVariable, Arena.getFixedType, moved, Option.map_some']
    split_ifs with united
    · rw [Arena.fixedTypeAt_write_of_ne (by omega), merged]
    · rw [Arena.fixedTypeAt_write_of_ne (notHigh r united)]
  · -- the lower representative also takes the higher one's fixed type
    have merged : (cs.arena.fixedTypeAt typeVar1).or (cs.arena.fixedTypeAt typeVar2) = some type := by
      rw [← @or_min_max cs.arena.fixedTypeAt typeVar1 typeVar2 (.inl lowFree), lowFree, highFixed]
      rfl
    have lowKept : (cs.arena.write (max typeVar1 typeVar2) { cs.arena.impl (max typeVar1 typeVar2) with
        parentOrFixed := .parent (min typeVar1 typeVar2) }).impl (min typeVar1 typeVar2) =
        cs.arena.impl (min typeVar1 typeVar2) := by
      simp [Function.update_noteq (show min typeVar1 typeVar2 ≠ max typeVar1 typeVar2 by omega)]
    have lowRoot : (cs.arena.impl (min typeVar1 typeVar2)).parentOrFixed =
        .parent (min typeVar1 typeVar2) := by
      rcases roots (min typeVar1 typeVar2) (by omega) with root | ⟨other, fixed⟩
      · exact root
      · simp [Arena.fixedTypeAt, fixed] at lowFree
    rw [← lowKept] at lowRoot
    refine ⟨?_, fun v => ?_⟩
    · rcases le_total typeVar1 typeVar2 with le | le
      · exact .inl (by rwa [min_eq_left le] at lowFree)
      · exact .inr (by rwa [min_eq_right le] at lowFree)
    obtain ⟨r, found, moved⟩ := linked v
    have fixedWrite := @Arena.getFixedType_write_fixed _ _ lowRoot type _ _ moved
    rw [lowKept] at fixedWrite
    refine ⟨r, found, ?_, ?_⟩
    · show cs'.arena.getRepresentative v = _
      rw [arena]
      exact Arena.getRepresentative_of_representative
        (Arena.representative_write_root lowRoot (fun _ written => by cases written) moved)
    · show cs'.arena.getFixedType v = _
      rw [arena]
      refine fixedWrite.trans (congrArg some ?_)
      by_cases united : r = typeVar1 ∨ r = typeVar2
      · simp only [united, ↓reduceIte, merged]
      · have notLow : r ≠ min typeVar1 typeVar2 := by omega
        simp only [united, ↓reduceIte, notLow, Arena.fixedTypeAt_write_of_ne (notHigh r united)]

open ConstraintSystem in
/-- **Merging two representatives unites their classes.** Over acyclic links, a merge succeeds
only when at most one of the two classes has a fixed type. After it, every variable whose
representative was one of the two has the lower of the two as its representative and the fixed
type that either class had; every other variable keeps its representative and its fixed
type. -/
theorem mergeEquivalenceClasses_unites {cs cs' : ConstraintSystem} {typeVar1 typeVar2 : Nat}
    {updateWorkList : Bool} (acyclic : cs.arena.RepresentativesAcyclic)
    (merged : cs.mergeEquivalenceClasses typeVar1 typeVar2 updateWorkList = some cs') :
    (cs.arena.fixedTypeAt typeVar1 = none ∨ cs.arena.fixedTypeAt typeVar2 = none) ∧
    ∀ v, ∃ r, cs.getRepresentative v = some r ∧
      cs'.getRepresentative v =
        some (if r = typeVar1 ∨ r = typeVar2 then min typeVar1 typeVar2 else r) ∧
      cs'.getFixedType v = some (if r = typeVar1 ∨ r = typeVar2 then
        (cs.arena.fixedTypeAt typeVar1).or (cs.arena.fixedTypeAt typeVar2)
        else cs.arena.fixedTypeAt r) :=
  mergeEquivalenceClasses_spec acyclic merged

theorem mergeEquivalenceClasses_unites_fresh :
    ∃ merged, (ConstraintSystem.empty .trivial).mergeEquivalenceClasses 1 0 false = some merged ∧
      ((ConstraintSystem.empty .trivial).arena.fixedTypeAt 1 = none ∨
        (ConstraintSystem.empty .trivial).arena.fixedTypeAt 0 = none) ∧
      ∃ r, (ConstraintSystem.empty .trivial).getRepresentative 1 = some r ∧
        merged.getRepresentative 1 = some (if r = 1 ∨ r = 0 then min 1 0 else r) ∧
        merged.getFixedType 1 = some (if r = 1 ∨ r = 0 then
          (Arena.empty.fixedTypeAt 1).or (Arena.empty.fixedTypeAt 0) else Arena.empty.fixedTypeAt r) := by
  obtain ⟨atMostOne, unites⟩ := @mergeEquivalenceClasses_unites (.empty .trivial) _ 1 0 false
    Arena.empty_representativesAcyclic rfl
  exact ⟨_, rfl, atMostOne, unites 1⟩

open ConstraintSystem in
/-- What `assignFixedType` does to every lookup, over acyclic links: it binds the class of the
variable, whose representative had no fixed type. -/
theorem assignFixedType_spec {cs cs' : ConstraintSystem} {typeVar : Nat} {type : Ty}
    {updateState : Bool} (acyclic : cs.arena.RepresentativesAcyclic)
    (assigned : cs.assignFixedType typeVar type updateState = some cs') :
    ∃ r, cs.getRepresentative typeVar = some r ∧ cs.arena.fixedTypeAt r = none ∧
      ∀ v, cs'.getRepresentative v = cs.getRepresentative v ∧
        cs'.getFixedType v = (cs.getRepresentative v).map fun rv =>
          if rv = r then some type else cs.arena.fixedTypeAt rv := by
  obtain ⟨r, found, unfixed, arena, -⟩ := assignFixedType_writes assigned
  have root : (cs.arena.impl r).parentOrFixed = .parent r := by
    rcases root_of_getRepresentative found with root | ⟨other, fixed⟩
    · exact root
    · simp [Arena.fixedTypeAt, fixed] at unfixed
  refine ⟨r, found, unfixed, fun v => ?_⟩
  obtain ⟨rv, foundV⟩ := Option.isSome_iff_exists.mp (Arena.getRepresentative_isSome acyclic v)
  have heads : ∀ next, ({ cs.arena.impl r with parentOrFixed := .fixed type } :
      TypeVariableImpl).parentOrFixed = .parent next → next = r := fun _ written => by cases written
  have stays := Arena.getRepresentative_of_representative
    (Arena.representative_write_root root heads foundV)
  refine ⟨?_, ?_⟩
  · show cs'.arena.getRepresentative v = cs.arena.getRepresentative v
    rw [arena, foundV]
    exact stays
  · show cs'.arena.getFixedType v = (cs.arena.getRepresentative v).map _
    rw [arena, foundV]
    exact Arena.getFixedType_write_fixed root foundV

open ConstraintSystem in
/-- **Binding a class binds exactly that class.** Over acyclic links, after `assignFixedType`
on a variable whose class had no fixed type, no variable changes representative, the members of
the variable's class have the new type, and every other class keeps its fixed type. -/
theorem assignFixedType_binds_class {cs cs' : ConstraintSystem} {typeVar : Nat} {type : Ty}
    {updateState : Bool} (acyclic : cs.arena.RepresentativesAcyclic)
    (assigned : cs.assignFixedType typeVar type updateState = some cs') :
    ∃ r, cs.getRepresentative typeVar = some r ∧ cs.getFixedType typeVar = some none ∧
      ∀ v, cs'.getRepresentative v = cs.getRepresentative v ∧
        cs'.getFixedType v = (cs.getRepresentative v).map fun rv =>
          if rv = r then some type else cs.arena.fixedTypeAt rv := by
  obtain ⟨r, found, unfixed, lookups⟩ := assignFixedType_spec acyclic assigned
  have foundArena : cs.arena.getRepresentative typeVar = some r := found
  exact ⟨r, found, by simp [getFixedType, Arena.getFixedType, foundArena, unfixed], lookups⟩

theorem assignFixedType_binds_class_fresh :
    ∃ assigned, (ConstraintSystem.empty .trivial).assignFixedType 0 (.nominal 3) true = some assigned ∧
      ∃ r, (ConstraintSystem.empty .trivial).getRepresentative 0 = some r ∧
        (ConstraintSystem.empty .trivial).getFixedType 0 = some none ∧
        ∀ v, assigned.getRepresentative v = (ConstraintSystem.empty .trivial).getRepresentative v ∧
          assigned.getFixedType v = ((ConstraintSystem.empty .trivial).getRepresentative v).map
            fun rv => if rv = r then some (.nominal 3) else Arena.empty.fixedTypeAt rv :=
  ⟨_, rfl, @assignFixedType_binds_class (.empty .trivial) _ 0 (.nominal 3) true
    Arena.empty_representativesAcyclic rfl⟩

end Constraints
