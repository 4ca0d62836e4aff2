import ConstraintSolver.Classes

/-! # Re-applying a solution

A solution taken inside a scope can be applied again once the scope is destroyed, and
finalized again. The side tables that `finalize` copies into a solution with a keyed insertion
(`MapVector::insert`, `SetVector::insert`, or the asserting insertion of the disjunction
choices and opened existential types) then come back exactly: the system the scope was opened
on holds a prefix of what the solution was taken from, `applySolution` appends the solution's
entries to it, and inserting the first entry of each key again finds every key present. The
fixes come back too when there were none before the scope. So does every binding without type
variables of a variable whose class was free before the scope, or bound to a type without type
variables: classes only grow inside the scope, so all members of such a class carry that one
binding, and the binding loop of `applySolution` finds the class free or bound to it already
(`Constraints.reapplied_solution_agrees`).

The conversion restrictions need not come back. `finalize` records them under their simplified
types; a restriction recorded before the scope on a type variable that the scope bound to a
type with type variables keeps its old key once the scope is destroyed, since `applySolution`
binds no such variable. Nor need the binding of a variable whose class was bound before the
scope to a type with type variables: the solution binds it to what that type simplifies to
inside the scope, and once the scope is destroyed the class is bound to the old type again
(`Constraints.reapplied_solution_differs`).
-/

namespace Constraints

open ConstraintSystem

/-! ## Keyed insertion -/

section Keyed

variable {α K : Type} [DecidableEq K] (key : α → K)

/-- Add an element unless one with its key is present: `insertEntry` keyed by the first
component, `insertNew` by the element itself. -/
def insertKeyed (elements : List α) (element : α) : List α :=
  if elements.any (key · = key element) then elements else elements ++ [element]

theorem insertEntry_eq_insertKeyed {V : Type} :
    (insertEntry : List (K × V) → K × V → List (K × V)) = insertKeyed Prod.fst := rfl

theorem insertNew_eq_insertKeyed : (insertNew : List K → K → List K) = insertKeyed id := by
  funext elements element
  simp [insertNew, insertKeyed]

theorem insertKeyed_of_present {elements : List α} {element : α}
    (present : elements.any (key · = key element)) :
    insertKeyed key elements element = elements :=
  if_pos present

theorem insertKeyed_of_absent {elements : List α} {element : α}
    (absent : ¬elements.any (key · = key element)) :
    insertKeyed key elements element = elements ++ [element] :=
  if_neg absent

theorem any_insertKeyed (elements : List α) (element : α) (k : K) :
    (insertKeyed key elements element).any (key · = k) =
      (elements.any (key · = k) || decide (key element = k)) := by
  by_cases present : elements.any (key · = key element)
  · rw [insertKeyed_of_present key present]
    by_cases same : key element = k
    · subst same
      simp [present]
    · simp [same]
  · rw [insertKeyed_of_absent key present]
    simp

theorem any_foldl_insertKeyed (elements acc : List α) (k : K) :
    (elements.foldl (insertKeyed key) acc).any (key · = k) =
      (acc.any (key · = k) || elements.any (key · = k)) := by
  induction elements generalizing acc with
  | nil => simp
  | cons element rest ih => rw [List.foldl_cons, ih, any_insertKeyed]; simp [Bool.or_assoc]

/-- The keys of a deduplication are those of the list. -/
theorem any_dedup (elements : List α) (k : K) :
    (elements.foldl (insertKeyed key) []).any (key · = k) = elements.any (key · = k) := by
  rw [any_foldl_insertKeyed]
  simp

/-- Inserting elements whose keys are all present changes nothing. -/
theorem foldl_insertKeyed_of_present (elements acc : List α)
    (present : ∀ element ∈ elements, acc.any (key · = key element)) :
    elements.foldl (insertKeyed key) acc = acc := by
  induction elements with
  | nil => rfl
  | cons element rest ih =>
    rw [List.foldl_cons, insertKeyed_of_present key (present element (List.mem_cons_self _ _))]
    exact ih fun other mem => present other (List.mem_cons_of_mem _ mem)

/-- Inserting the first element of each key gives what inserting every element gives. -/
theorem foldl_insertKeyed_dedup (elements acc : List α) :
    (elements.foldl (insertKeyed key) []).foldl (insertKeyed key) acc =
      elements.foldl (insertKeyed key) acc := by
  induction elements using List.reverseRecOn with
  | nil => rfl
  | append_singleton rest element ih =>
    simp only [List.foldl_append, List.foldl_cons, List.foldl_nil]
    by_cases present : rest.any (key · = key element)
    · have inserted : (rest.foldl (insertKeyed key) acc).any (key · = key element) := by
        rw [any_foldl_insertKeyed]
        simp [present]
      rw [insertKeyed_of_present key (by rwa [any_dedup]), ih,
        insertKeyed_of_present key inserted]
    · rw [insertKeyed_of_absent key (by rwa [any_dedup]), List.foldl_append, ih]
      rfl

/-- Deduplicating after inserting into `acc` is inserting into `acc` deduplicated. -/
theorem dedup_foldl_insertKeyed (elements acc : List α) :
    (elements.foldl (insertKeyed key) acc).foldl (insertKeyed key) [] =
      elements.foldl (insertKeyed key) (acc.foldl (insertKeyed key) []) := by
  induction elements generalizing acc with
  | nil => rfl
  | cons element rest ih =>
    rw [List.foldl_cons, ih, List.foldl_cons]
    congr 1
    by_cases present : acc.any (key · = key element)
    · rw [insertKeyed_of_present key present, insertKeyed_of_present key (by rwa [any_dedup])]
    · rw [insertKeyed_of_absent key present, List.foldl_append, List.foldl_cons, List.foldl_nil]

/-- Inserting the deduplication of `base ++ added` into the deduplication of `base` gives it
back. -/
theorem foldl_dedup_append (base added : List α) :
    ((base ++ added).foldl (insertKeyed key) []).foldl (insertKeyed key)
        (base.foldl (insertKeyed key) []) =
      (base ++ added).foldl (insertKeyed key) [] := by
  rw [foldl_insertKeyed_dedup, List.foldl_append, List.foldl_append,
    foldl_insertKeyed_of_present key base (base.foldl (insertKeyed key) [])
      fun element mem => by rw [any_dedup]; exact List.any_eq_true.mpr ⟨element, mem, by simp⟩]

/-- **Appending a deduplication to a prefix of what it deduplicates, and deduplicating, gives
the same deduplication.** -/
theorem dedup_append_dedup (base added : List α) :
    (base ++ (base ++ added).foldl (insertKeyed key) []).foldl (insertKeyed key) [] =
      (base ++ added).foldl (insertKeyed key) [] := by
  rw [List.foldl_append, foldl_dedup_append]

/-- **Inserting a deduplication into a prefix of what it deduplicates, and deduplicating, gives
the same deduplication.** -/
theorem dedup_foldl_dedup (base added : List α) :
    (((base ++ added).foldl (insertKeyed key) []).foldl (insertKeyed key) base).foldl
        (insertKeyed key) [] =
      (base ++ added).foldl (insertKeyed key) [] := by
  rw [dedup_foldl_insertKeyed, foldl_dedup_append]

end Keyed

/-! ## Checked insertion -/

section Checked

variable {V : Type}

theorem lookup_isSome_eq_any (entries : List (Nat × V)) (k : Nat) :
    (entries.lookup k).isSome = entries.any (·.1 = k) := by
  induction entries with
  | nil => rfl
  | cons entry rest ih =>
    obtain ⟨a, b⟩ := entry
    by_cases same : k = a
    · simp [lookup_cons_pair, same]
    · simp [lookup_cons_pair, same, ih, Ne.symm same]

theorem lookup_append_of_isSome {entries : List (Nat × V)} {k : Nat}
    (found : (entries.lookup k).isSome) (more : List (Nat × V)) :
    (entries ++ more).lookup k = entries.lookup k := by
  induction entries with
  | nil => cases found
  | cons entry rest ih =>
    obtain ⟨a, b⟩ := entry
    by_cases same : k = a
    · simp [lookup_cons_pair, same]
    · simp only [List.cons_append, lookup_cons_pair, same, if_false] at found ⊢
      exact ih found

theorem lookup_append_of_isNone {entries : List (Nat × V)} {k : Nat} {value : V}
    (absent : entries.lookup k = none) : (entries ++ [(k, value)]).lookup k = some value := by
  induction entries with
  | nil => simp [lookup_cons_pair]
  | cons first rest ih =>
    obtain ⟨a, b⟩ := first
    by_cases same : k = a
    · simp [lookup_cons_pair, same] at absent
    · simp only [List.cons_append, lookup_cons_pair, same, if_false] at absent ⊢
      exact ih absent

/-- Inserting keeps what a present key looks up. -/
theorem lookup_foldl_insertEntry {acc : List (Nat × V)} {k : Nat} (found : (acc.lookup k).isSome) :
    ∀ entries : List (Nat × V), (entries.foldl insertEntry acc).lookup k = acc.lookup k := by
  intro entries
  induction entries generalizing acc with
  | nil => rfl
  | cons entry rest ih =>
    have kept : (insertEntry acc entry).lookup k = acc.lookup k := by
      unfold insertEntry
      split
      · rfl
      · exact lookup_append_of_isSome found _
    rw [List.foldl_cons, ih (by rwa [kept]), kept]

/-- The asserting insertion of `finalize` is `insertEntry` when it succeeds, and the entry's key
then looks up the entry's value. -/
theorem insertChecked_eq_some [DecidableEq V] {acc result : List (Nat × V)} {entry : Nat × V}
    (inserted : insertChecked acc entry = some result) :
    result = insertEntry acc entry ∧ result.lookup entry.1 = some entry.2 := by
  unfold insertChecked at inserted
  split at inserted
  · next value found =>
    split_ifs at inserted with agrees
    cases inserted
    have present : acc.any (·.1 = entry.1) := by rw [← lookup_isSome_eq_any, found]; rfl
    exact ⟨(if_pos present).symm, agrees ▸ found⟩
  · next absent =>
    cases inserted
    have missing : ¬acc.any (·.1 = entry.1) := by
      rw [← lookup_isSome_eq_any, absent]; exact Bool.false_ne_true
    exact ⟨(if_neg missing).symm, lookup_append_of_isNone absent⟩

/-- **A run of asserting insertions that succeeds is a run of `insertEntry`**, and every entry
inserted looks up its value in the result. -/
theorem foldlM_insertChecked_eq_some [DecidableEq V] : ∀ {entries acc result : List (Nat × V)},
    entries.foldlM insertChecked acc = some result →
      result = entries.foldl insertEntry acc ∧ ∀ entry ∈ entries, result.lookup entry.1 = some entry.2
  | [], _, _, inserted => by cases inserted; exact ⟨rfl, nofun⟩
  | entry :: rest, acc, result, inserted => by
    obtain ⟨middle, step, later⟩ := Option.bind_eq_some.mp inserted
    obtain ⟨rfl, found⟩ := insertChecked_eq_some step
    obtain ⟨rfl, others⟩ := foldlM_insertChecked_eq_some later
    refine ⟨rfl, fun other mem => ?_⟩
    rcases List.mem_cons.mp mem with rfl | mem
    · rw [lookup_foldl_insertEntry (by rw [found]; rfl), found]
    · exact others other mem

end Checked

/-! ## What the operations do to the side tables -/

section Tables

variable {cs cs' : ConstraintSystem}

theorem activateAll_tables : ∀ {constraints : List Nat} {cs cs' : ConstraintSystem},
    cs.activateAll constraints = some cs' → cs'.tables = cs.tables
  | [], _, _, activated => by cases activated; rfl
  | constraint :: rest, cs, cs', activated => by
    obtain ⟨middle, first, second⟩ := Option.bind_eq_some.mp activated
    refine (activateAll_tables second).trans ?_
    split at first
    · cases first; rfl
    · obtain ⟨-, -, rfl⟩ := activateConstraint_eq_some _ first; rfl

theorem assignFixedType_tables {typeVar : Nat} {type : Ty} {updateState : Bool}
    (assigned : cs.assignFixedType typeVar type updateState = some cs') : cs'.tables = cs.tables := by
  unfold ConstraintSystem.assignFixedType at assigned
  split at assigned
  · cases assigned
  obtain ⟨representative, -, bound⟩ := Option.bind_eq_some.mp assigned
  split at bound
  · cases bound
  cases updateState <;> simp only [Bool.not_false, Bool.not_true, Bool.false_eq_true,
    ↓reduceIte] at bound
  · cases bound; rfl
  · refine (activateAll_tables bound).trans ?_
    split <;> rfl

theorem bindFreeTypeVariables_tables {policy : FreeTypeVariableBinding} :
    ∀ {typeVars : List Nat} {cs cs' : ConstraintSystem},
      cs.bindFreeTypeVariables policy typeVars = some cs' → cs'.tables = cs.tables
  | [], _, _, bound => by cases bound; rfl
  | typeVar :: rest, cs, cs', bound => by
    obtain ⟨middle, first, second⟩ := Option.bind_eq_some.mp bound
    obtain ⟨fixed, -, assigned⟩ := Option.bind_eq_some.mp first
    refine (bindFreeTypeVariables_tables second).trans ?_
    split at assigned <;> first
      | (cases assigned; rfl)
      | exact assignFixedType_tables assigned
      | cases assigned

/-- The binding loop of `applySolution` changes no side table but the type variables. -/
theorem applyBindings_tables : ∀ {bindings : List (Nat × Ty)} {cs cs' : ConstraintSystem},
    ConstraintSystem.applyBindings bindings cs = some cs' →
      { cs'.tables with typeVariables := [] } = { cs.tables with typeVariables := [] }
  | [], _, _, applied => by cases applied; rfl
  | (typeVar, type) :: rest, cs, cs', applied => by
    obtain ⟨middle, first, second⟩ := Option.bind_eq_some.mp applied
    obtain ⟨fixed, -, assigned⟩ := Option.bind_eq_some.mp first
    refine (applyBindings_tables second).trans ?_
    split at assigned
    · rw [assignFixedType_tables assigned]; rfl
    · cases assigned; rfl

theorem setTypes_tables : ∀ (entries : List (Nat × Ty)) (cs : ConstraintSystem),
    (entries.foldl (fun cs entry => cs.setType entry.1 entry.2) cs).tables = cs.tables
  | [], _ => rfl
  | _ :: rest, _ => setTypes_tables rest _

/-- **What `applySolution` appends**: the solution's overload choices are inserted, and its
disjunction choices, opened types, opened existential types, defaulted constraints and fixes
are appended. -/
theorem applySolution_tables {solution : Solution} (applied : cs.applySolution solution = some cs') :
    cs'.resolvedOverloads = solution.overloadChoices.foldl insertEntry cs.resolvedOverloads ∧
      cs'.disjunctionChoices = cs.disjunctionChoices ++ solution.disjunctionChoices ∧
      cs'.openedTypes = cs.openedTypes ++ solution.openedTypes ∧
      cs'.openedExistentialTypes = cs.openedExistentialTypes ++ solution.openedExistentialTypes ∧
      cs'.defaultedConstraints = cs.defaultedConstraints ++ solution.defaultedConstraints ∧
      cs'.fixes = cs.fixes ++ solution.fixes := by
  obtain ⟨bound, boundOk, rfl⟩ := Option.map_eq_some'.mp applied
  have kept := applyBindings_tables boundOk
  have setTypes := setTypes_tables solution.nodeTypes (bound.applyRecords solution)
  simp only [ConstraintSystem.tables, Tables.mk.injEq] at kept setTypes
  obtain ⟨-, overloads, -, fixes, -, choices, -, opened, existential, defaulted, -⟩ := kept
  obtain ⟨-, overloads', -, fixes', -, choices', -, opened', existential', defaulted', -⟩ := setTypes
  refine ⟨?_, ?_, ?_, ?_, ?_, ?_⟩ <;>
    simp only [ConstraintSystem.applyTargets, overloads', fixes', choices', opened', existential',
      defaulted'] <;>
    simp only [ConstraintSystem.applyRecords, overloads, fixes, choices, opened, existential,
      defaulted]

end Tables

/-! ## The partial solution scope -/

section Partial

variable {cs cs' : ConstraintSystem}

/-- The partial solution scope of the solver state, whose fixes `finalize` leaves out. -/
def ConstraintSystem.partialSolutionScope (cs : ConstraintSystem) : Option SolverScope :=
  cs.solverState.bind (·.partialSolutionScope)

theorem keepsPartialSolutionScope_of_map {after : ConstraintSystem}
    (update : SolverState → SolverState) (state : after.solverState = cs.solverState.map update)
    (keeps : ∀ state, (update state).partialSolutionScope = state.partialSolutionScope) :
    after.partialSolutionScope = cs.partialSolutionScope := by
  cases h : cs.solverState <;> simp [ConstraintSystem.partialSolutionScope, state, h, keeps]

/-- No elementary change touches the partial solution scope. -/
theorem Change.keepsPartialSolutionScope :
    Change cs cs' → cs'.partialSolutionScope = cs.partialSolutionScope
  | .writeTypeVariable .. | .favorConstraint .. | .disableConstraint .. =>
    keepsPartialSolutionScope_of_map _ rfl fun _ => rfl
  | .extendTables _ rest | .raiseScore _ rest => by rw [rest]; rfl
  | .activateConstraint _ activated => by
    obtain ⟨-, -, rfl⟩ := activateConstraint_eq_some _ activated; rfl
  | .deactivateConstraint _ deactivated => by
    obtain ⟨-, -, rfl⟩ := deactivateConstraint_eq_some _ deactivated; rfl
  | .removeInactiveConstraint _ removed => by
    obtain ⟨-, rfl⟩ := removeInactiveConstraint_eq_some _ removed
    exact keepsPartialSolutionScope_of_map _ rfl fun _ => rfl
  | .addUnsolvedConstraint _ added => by
    obtain ⟨-, -, -, rfl⟩ := addUnsolvedConstraint_eq_some _ added
    exact keepsPartialSolutionScope_of_map _ rfl fun _ => rfl
  | .createRecord .. | .setType .. | .recordFailure .. => rfl

theorem Changes.keepsPartialSolutionScope (changes : Changes cs cs') :
    cs'.partialSolutionScope = cs.partialSolutionScope := by
  induction changes with
  | refl => rfl
  | tail _ last ih => exact last.keepsPartialSolutionScope.trans ih

theorem finalize_keepsPartialSolutionScope {solution : Solution}
    (finalized : cs.finalize = some (solution, cs')) :
    cs'.partialSolutionScope = cs.partialSolutionScope := by
  obtain ⟨state, isState, changes, -⟩ := finalize_eq_some finalized
  rw [changes.keepsPartialSolutionScope]
  simp [ConstraintSystem.partialSolutionScope, isState]

/-- No event touches the partial solution scope. -/
theorem SolverEvent.keepsPartialSolutionScope (event : SolverEvent)
    (applied : event.apply cs = some cs') : cs'.partialSolutionScope = cs.partialSolutionScope := by
  cases event with
  | mutate mutation =>
    rcases mutation.changes applied with changes | ⟨_, -, finalized⟩ | ⟨_, -, rfl⟩
    · exact changes.keepsPartialSolutionScope
    · exact finalize_keepsPartialSolutionScope finalized
    · rfl
  | openScope =>
    obtain ⟨state, isState, -, rfl⟩ := openScope_eq_some applied
    simp [ConstraintSystem.partialSolutionScope, isState]
  | closeScope =>
    obtain ⟨state, scope, outer, isState, -, rfl⟩ := closeScope_eq_some applied
    simp [ConstraintSystem.partialSolutionScope, unwindScope, rollback, isState]

theorem run_keepsPartialSolutionScope : ∀ {events : List SolverEvent} {cs cs' : ConstraintSystem},
    run events cs = some cs' → cs'.partialSolutionScope = cs.partialSolutionScope
  | [], _, _, ran => by cases ran; rfl
  | event :: rest, _, _, ran => by
    obtain ⟨middle, first, second⟩ := Option.bind_eq_some.mp ran
    exact (run_keepsPartialSolutionScope second).trans (event.keepsPartialSolutionScope first)

end Partial

/-! ## Taking a solution -/

section Taking

variable {cs cs' : ConstraintSystem} {solution : Solution}

/-- The side tables a solution takes with a keyed insertion, and the fixes it takes. -/
theorem takeSolution_tables {score : Score} {firstFixIndex : Nat}
    (taken : cs.takeSolution score firstFixIndex = some solution) :
    solution.overloadChoices = cs.resolvedOverloads.foldl insertEntry [] ∧
      cs.disjunctionChoices.foldlM insertChecked [] = some solution.disjunctionChoices ∧
      solution.openedTypes = cs.openedTypes.foldl insertEntry [] ∧
      cs.openedExistentialTypes.foldlM insertChecked [] = some solution.openedExistentialTypes ∧
      solution.defaultedConstraints = cs.defaultedConstraints.foldl insertNew [] ∧
      solution.fixes = cs.fixes.drop firstFixIndex := by
  unfold ConstraintSystem.takeSolution at taken
  obtain ⟨_, -, taken⟩ := Option.bind_eq_some.mp taken
  obtain ⟨_, -, taken⟩ := Option.bind_eq_some.mp taken
  split at taken
  · cases taken
  obtain ⟨choices, isChoices, taken⟩ := Option.bind_eq_some.mp taken
  obtain ⟨_, -, taken⟩ := Option.bind_eq_some.mp taken
  obtain ⟨existential, isExistential, rfl⟩ := Option.map_eq_some'.mp taken
  exact ⟨rfl, isChoices, rfl, isExistential, rfl, rfl⟩

/-- `finalize` takes its solution from a system with the same side tables, leaving out the
fixes the partial solution scope recorded, and keeps that scope. -/
theorem finalize_takeSolution_tables (finalized : cs.finalize = some (solution, cs')) :
    cs'.tables = cs.tables ∧
      cs'.takeSolution cs.currentScore ((cs.partialSolutionScope.map SolverScope.numFixes).getD 0) =
        some solution ∧
      cs'.partialSolutionScope = cs.partialSolutionScope := by
  unfold ConstraintSystem.finalize at finalized
  obtain ⟨state, isState, finalized⟩ := Option.bind_eq_some.mp finalized
  split at finalized
  · cases finalized
  obtain ⟨final, bound, taken⟩ := Option.bind_eq_some.mp finalized
  obtain ⟨_, isTaken, same⟩ := Option.map_eq_some'.mp taken
  cases same
  have partial_ : cs.partialSolutionScope = state.partialSolutionScope := by
    simp [ConstraintSystem.partialSolutionScope, isState]
  refine ⟨(bindFreeTypeVariables_tables bound).trans rfl, by rwa [partial_], ?_⟩
  rw [(bindFreeTypeVariables_changes bound).keepsPartialSolutionScope, partial_]
  rfl

/-- **What a solution holds**: when the partial solution scope recorded no fix, a solution
`finalize` takes holds each keyed side table with the first entry of each key, and every
fix. -/
theorem finalize_solution_tables (finalized : cs.finalize = some (solution, cs'))
    (noPartialFixes : (cs.partialSolutionScope.map SolverScope.numFixes).getD 0 = 0) :
    solution.overloadChoices = cs.resolvedOverloads.foldl (insertKeyed Prod.fst) [] ∧
      solution.disjunctionChoices = cs.disjunctionChoices.foldl (insertKeyed Prod.fst) [] ∧
      solution.openedTypes = cs.openedTypes.foldl (insertKeyed Prod.fst) [] ∧
      solution.openedExistentialTypes =
        cs.openedExistentialTypes.foldl (insertKeyed Prod.fst) [] ∧
      solution.defaultedConstraints = cs.defaultedConstraints.foldl (insertKeyed id) [] ∧
      solution.fixes = cs.fixes := by
  obtain ⟨sameTables, taken, -⟩ := finalize_takeSolution_tables finalized
  rw [noPartialFixes] at taken
  obtain ⟨overloads, choices, opened, existential, defaulted, fixes⟩ := takeSolution_tables taken
  simp only [ConstraintSystem.tables, Tables.mk.injEq] at sameTables
  obtain ⟨-, sameOverloads, -, sameFixes, -, sameChoices, -, sameOpened, sameExistential,
    sameDefaulted, -⟩ := sameTables
  rw [← insertEntry_eq_insertKeyed, ← insertNew_eq_insertKeyed, ← sameOverloads, ← sameChoices,
    ← sameOpened, ← sameExistential, ← sameDefaulted, ← sameFixes]
  exact ⟨overloads, (foldlM_insertChecked_eq_some choices).1, opened,
    (foldlM_insertChecked_eq_some existential).1, defaulted, fixes⟩

end Taking

/-! ## Re-applying the bindings -/

section Bindings

variable {cs cs' final : ConstraintSystem} {solution : Solution}

/-- The binding loop of `applySolution` keeps every type variable and adds every variable it
is given a binding of. -/
theorem applyBindings_typeVariables : ∀ {bindings : List (Nat × Ty)} {cs cs' : ConstraintSystem},
    ConstraintSystem.applyBindings bindings cs = some cs' →
      cs.typeVariables ⊆ cs'.typeVariables ∧ ∀ binding ∈ bindings, binding.1 ∈ cs'.typeVariables
  | [], _, _, applied => by cases applied; exact ⟨fun _ member => member, nofun⟩
  | (typeVar, type) :: rest, cs, cs', applied => by
    obtain ⟨middle, first, second⟩ := Option.bind_eq_some.mp applied
    obtain ⟨fixed, -, assigned⟩ := Option.bind_eq_some.mp first
    have added : middle.typeVariables = insertNew cs.typeVariables typeVar := by
      split at assigned
      · obtain ⟨-, -, -, -, same⟩ := assignFixedType_eq_some assigned
        exact same
      · cases assigned
        rfl
    obtain ⟨kept, bindings⟩ := applyBindings_typeVariables second
    refine ⟨fun u member => kept ?_, fun binding member => ?_⟩
    · rw [added]
      exact (prefix_insertNew _ _).subset member
    rcases List.mem_cons.mp member with rfl | later
    · exact kept (by rw [added]; exact mem_insertNew_self _ _)
    · exact bindings binding later

theorem applySolution_typeVariables (applied : cs.applySolution solution = some cs') :
    ∀ binding ∈ solution.typeBindings, binding.1 ∈ cs'.typeVariables := by
  obtain ⟨bound, boundOk, rfl⟩ := Option.map_eq_some'.mp applied
  have kept : ((solution.nodeTypes.foldl (fun cs entry => cs.setType entry.1 entry.2)
      (bound.applyRecords solution)).applyTargets solution).typeVariables = bound.typeVariables :=
    congrArg Tables.typeVariables (setTypes_tables solution.nodeTypes (bound.applyRecords solution))
  intro binding member
  rw [kept]
  exact (applyBindings_typeVariables boundOk).2 binding member

/-- **Applying a solution binds a class to the type its members carry**, over links that point
down: a class free or bound to `type` before, with a member the solution binds to `type` and no
member it binds to anything else. -/
theorem applySolution_binds_class (down : cs.LinksDown) {v : Nat} {type : Ty}
    (noVariables : type.hasTypeVariable = false)
    (carried : ∀ u t, (u, t) ∈ solution.typeBindings →
      cs.getRepresentative u = cs.getRepresentative v → t = type)
    (freeOrBound : cs.getFixedType v = some none ∨ cs.getFixedType v = some (some type))
    (member : (v, type) ∈ solution.typeBindings) (applied : cs.applySolution solution = some cs') :
    cs'.getFixedType v = some (some type) := by
  obtain ⟨bound, boundOk, rfl⟩ := Option.map_eq_some'.mp applied
  have scoredDown : { cs with currentScore := cs.currentScore.add solution.fixedScore }.LinksDown :=
    down.of_eq rfl rfl
  have sameArena : ((solution.nodeTypes.foldl (fun cs entry => cs.setType entry.1 entry.2)
      (bound.applyRecords solution)).applyTargets solution).arena = bound.arena :=
    (setTypes_keeps solution.nodeTypes (bound.applyRecords solution)).1
  show Arena.getFixedType _ v = _
  rw [sameArena]
  exact (applyBindings_binds_class noVariables scoredDown carried freeOrBound boundOk).2 member

/-- A binding of a solution binds a variable of the system `finalize` left to what it simplifies
to there. -/
theorem finalize_mem_typeBindings (finalized : cs.finalize = some (solution, final)) {v : Nat}
    {type : Ty} (member : (v, type) ∈ solution.typeBindings) :
    v ∈ final.typeVariables ∧ final.simplifyType (.typeVariable v) = some type := by
  obtain ⟨_, _, taken⟩ := finalize_takeSolution finalized
  exact mem_mapM_pair (takeSolution_typeBindings taken) (v, type) member

open ConstraintSystem in
/-- **Re-applying gives back a closed binding of a class left free or closed.** Take a solution
from a system whose classes coarsen those of `cs`, destroy the scope back to `cs`, apply the
solution there and finalize. A variable whose class on `cs` has no fixed type, or one without
type variables, and that the first solution binds to a type without type variables, is bound to
that type by the second: the binding loop finds its class free and binds it to the type all its
members carry, or finds it bound to that type already. -/
theorem reapplied_typeBinding {cs reached finalized restored reapplied final : ConstraintSystem}
    {solution solution' : Solution} (down : cs.LinksDown) (coarsens : Coarsens cs finalized)
    (isFinalized : reached.finalize = some (solution, finalized))
    (restoredTo : RestoredTo restored cs) (applied : restored.applySolution solution = some reapplied)
    (again : reapplied.finalize = some (solution', final)) {v : Nat} {type : Ty}
    (closedClass : ∀ fixed, cs.getFixedType v = some (some fixed) → fixed.hasTypeVariable = false)
    (bound : solution.typeBindings.lookup v = some type) (noVariables : type.hasTypeVariable = false) :
    solution'.typeBindings.lookup v = some type := by
  have restoredDown := down.restoredTo restoredTo
  have sameRepresentative : ∀ w, restored.getRepresentative w = cs.getRepresentative w :=
    Arena.getRepresentative_eq_of_sameLinks restoredTo.links
  have sameFixed : ∀ w, restored.getFixedType w = cs.getFixedType w :=
    Arena.getFixedType_eq_of_sameLinks restoredTo.links
  -- the first solution binds `v`, and every member of its class on `cs`, to `type`
  have member : (v, type) ∈ solution.typeBindings := by
    obtain ⟨before, after, isBindings, -⟩ := List.lookup_eq_some_iff.mp bound
    rw [isBindings]
    exact List.mem_append_right _ (List.mem_cons_self _ _)
  have simplifiedV := (finalize_mem_typeBindings isFinalized member).2
  have carried : ∀ u t, (u, t) ∈ solution.typeBindings →
      cs.getRepresentative u = cs.getRepresentative v → t = type := fun u t memberU same => by
    have simplifiedU := (finalize_mem_typeBindings isFinalized memberU).2
    rw [simplifyType_typeVariable_congr (coarsens.classes u v same), simplifiedV] at simplifiedU
    exact (Option.some.inj simplifiedU).symm
  -- before the scope, `v`'s class is free or bound to `type`
  have freeOrBound : restored.getFixedType v = some none ∨
      restored.getFixedType v = some (some type) := by
    rw [sameFixed]
    obtain ⟨r, found⟩ := Option.isSome_iff_exists.mp
      (Arena.getRepresentative_isSome down.arena.representativesAcyclic v)
    cases fixedAt : cs.arena.fixedTypeAt r with
    | none => exact .inl (by simp [getFixedType, Arena.getFixedType, found, fixedAt])
    | some fixed =>
      have isFixed : cs.getFixedType v = some (some fixed) := by
        simp [getFixedType, Arena.getFixedType, found, fixedAt]
      obtain rfl : fixed = type := Option.some.inj
        ((simplifyType_of_fixed (coarsens.fixed v fixed isFixed) (closedClass fixed isFixed)).symm.trans
          simplifiedV)
      exact .inr isFixed
  have reappliedFixed := applySolution_binds_class restoredDown noVariables
    (fun u t memberU same => carried u t memberU
      ((sameRepresentative u).symm.trans (same.trans (sameRepresentative v))))
    freeOrBound member applied
  -- finalizing again keeps the class bound, and `v` is a variable of the system
  have finalFixed := (finalize_coarsens (restoredDown.applySolution applied) again).fixed v type
    reappliedFixed
  have inFinal : v ∈ final.typeVariables := by
    rw [show final.typeVariables = reapplied.typeVariables from
      congrArg Tables.typeVariables (finalize_takeSolution_tables again).1]
    exact applySolution_typeVariables applied _ member
  rw [finalize_lookup again v, if_pos inFinal, simplifyType_of_fixed finalFixed noVariables]

end Bindings

/-! ## Re-applying a solution -/

/-- **Re-applying a solution gives back its keyed side tables, its fixes and its closed
bindings.** Open a scope on a system without fixes, whose partial solution scope, if any,
recorded none; run a balanced sequence of events and finalize. Destroying the scope gives back
the system's tables, and whenever applying the solution there and finalizing again succeeds, the
new solution has the same overload choices, disjunction choices, opened types, opened
existential types, defaulted constraints and fixes, entry for entry. When the links of the
system point down, as in every reachable state, it also binds every variable the first solution
bound to a type without type variables to that type, unless the variable's class on the system
was bound to a type with type variables. -/
theorem reapplied_solution_agrees {cs opened reached finalized : ConstraintSystem}
    {events : List SolverEvent} {solution : Solution} (noFixes : cs.fixes = [])
    (noPartialFixes : (cs.partialSolutionScope.map SolverScope.numFixes).getD 0 = 0)
    (isOpened : cs.openScope = some opened) (balanced : Balanced events)
    (ran : run events opened = some reached)
    (isFinalized : reached.finalize = some (solution, finalized)) :
    ∃ restored, finalized.closeScope = some restored ∧ restored.tables = cs.tables ∧
      ∀ reapplied solution' final, restored.applySolution solution = some reapplied →
        reapplied.finalize = some (solution', final) →
        solution'.overloadChoices = solution.overloadChoices ∧
        solution'.disjunctionChoices = solution.disjunctionChoices ∧
        solution'.openedTypes = solution.openedTypes ∧
        solution'.openedExistentialTypes = solution.openedExistentialTypes ∧
        solution'.defaultedConstraints = solution.defaultedConstraints ∧
        solution'.fixes = solution.fixes ∧
        (cs.LinksDown → ∀ v type,
          (∀ fixed, cs.getFixedType v = some (some fixed) → fixed.hasTypeVariable = false) →
          solution.typeBindings.lookup v = some type → type.hasTypeVariable = false →
          solution'.typeBindings.lookup v = some type) := by
  obtain ⟨state, isState, -, rfl⟩ := openScope_eq_some isOpened
  have toReached := balanced.undoable (by rfl) ran
  have toFinalized : Undoable reached finalized :=
    Mutation.undoable .finalize toReached.active (by simp [Mutation.apply, isFinalized])
  obtain ⟨restored, isClosed, restoredTo⟩ :=
    closeScope_of_undoable isOpened (toReached.trans toFinalized)
  refine ⟨restored, isClosed, restoredTo.tables, fun reapplied solution' final applied again => ?_⟩
  have partialReached : reached.partialSolutionScope = cs.partialSolutionScope :=
    (run_keepsPartialSolutionScope ran).trans (by simp [ConstraintSystem.partialSolutionScope, isState])
  have partialReapplied : reapplied.partialSolutionScope = cs.partialSolutionScope :=
    (applySolution_changes applied).keepsPartialSolutionScope.trans
      ((SolverEvent.closeScope.keepsPartialSolutionScope isClosed).trans
        ((finalize_takeSolution_tables isFinalized).2.2.trans partialReached))
  -- the first solution deduplicates tables that extend those of `cs`
  obtain ⟨overloads, choices, opened, existential, defaulted, fixes⟩ :=
    finalize_solution_tables isFinalized (by rwa [partialReached])
  obtain ⟨-, ⟨addedOverloads, grownOverloads⟩, -, ⟨addedFixes, grownFixes⟩, -,
    ⟨addedChoices, grownChoices⟩, -, ⟨addedOpened, grownOpened⟩,
    ⟨addedExistential, grownExistential⟩, ⟨addedDefaulted, grownDefaulted⟩, -⟩ := toReached.tables
  -- the second deduplicates the tables of `cs` with the first solution's entries added
  obtain ⟨overloads', choices', opened', existential', defaulted', fixes'⟩ :=
    finalize_solution_tables again (by rwa [partialReapplied])
  obtain ⟨appliedOverloads, appliedChoices, appliedOpened, appliedExistential, appliedDefaulted,
    appliedFixes⟩ := applySolution_tables applied
  have restoredTables := restoredTo.tables
  simp only [ConstraintSystem.tables, Tables.mk.injEq] at restoredTables
  obtain ⟨-, restoredOverloads, -, restoredFixes, -, restoredChoices, -, restoredOpened,
    restoredExistential, restoredDefaulted, -⟩ := restoredTables
  simp only [ConstraintSystem.tables] at grownOverloads grownFixes grownChoices grownOpened
  simp only [ConstraintSystem.tables] at grownExistential grownDefaulted
  rw [insertEntry_eq_insertKeyed] at appliedOverloads
  refine ⟨?_, ?_, ?_, ?_, ?_, ?_, fun down v type closedClass bound noVariables => ?_⟩
  · rw [overloads', appliedOverloads, restoredOverloads, overloads, ← grownOverloads,
      dedup_foldl_dedup]
  · rw [choices', appliedChoices, restoredChoices, choices, ← grownChoices, dedup_append_dedup]
  · rw [opened', appliedOpened, restoredOpened, opened, ← grownOpened, dedup_append_dedup]
  · rw [existential', appliedExistential, restoredExistential, existential, ← grownExistential,
      dedup_append_dedup]
  · rw [defaulted', appliedDefaulted, restoredDefaulted, defaulted, ← grownDefaulted,
      dedup_append_dedup]
  · rw [fixes', appliedFixes, restoredFixes, fixes, ← grownFixes, noFixes, List.nil_append,
      List.nil_append]
  · -- the classes of `cs` only grow up to the system the solution is taken from
    have toOpened : Coarsens cs
        { cs with solverState := some { state with scopes := cs.snapshot state :: state.scopes } } :=
      .of_arena rfl
    obtain ⟨toReached, reachedDown⟩ :=
      balanced.coarsens (linksDown_invariant.openScope down isOpened) ran
    exact reapplied_typeBinding down
      ((toOpened.trans toReached).trans (finalize_coarsens reachedDown isFinalized)) isFinalized
      restoredTo applied again closedClass bound noVariables

/-- Re-applying a solution that resolved an overload, chose a disjunction term and bound a new
type variable to a nominal type, taken in a scope opened on a system with a solver state, gives
back both choices and the binding. -/
theorem reapplied_solution_agrees_resolveOverload :
    ∃ opened reached solution finalized restored reapplied solution' final,
      { ConstraintSystem.empty .trivial with solverState := some (.initial .allow []) }.openScope =
        some opened ∧
      run [.mutate (.resolveOverload 3 4), .mutate (.recordDisjunctionChoice 6 1),
          .mutate (.createTypeVariable 0 ⟨false, false, false, false⟩),
          .mutate (.assignFixedType 0 (.nominal 3) false)] opened = some reached ∧
      reached.finalize = some (solution, finalized) ∧ finalized.closeScope = some restored ∧
      restored.tables =
        { ConstraintSystem.empty .trivial with solverState := some (.initial .allow []) }.tables ∧
      restored.applySolution solution = some reapplied ∧
      reapplied.finalize = some (solution', final) ∧
      solution'.overloadChoices = solution.overloadChoices ∧
      solution'.disjunctionChoices = solution.disjunctionChoices ∧
      solution'.typeBindings.lookup 0 = some (.nominal 3) := by
  obtain ⟨restored, isClosed, tables, agrees⟩ := @reapplied_solution_agrees
    { ConstraintSystem.empty .trivial with solverState := some (.initial .allow []) } _ _ _ _ _
    rfl rfl rfl (.mutate (.resolveOverload 3 4) (.mutate (.recordDisjunctionChoice 6 1)
      (.mutate (.createTypeVariable 0 _) (.mutate (.assignFixedType 0 (.nominal 3) false) .nil))))
    rfl rfl
  cases isClosed
  obtain ⟨overloads, choices, -, -, -, -, bindings⟩ := agrees _ _ _ rfl rfl
  have down : ConstraintSystem.LinksDown
      { ConstraintSystem.empty .trivial with solverState := some (.initial .allow []) } :=
    ⟨Arena.empty_linksDown, by simp [ConstraintSystem.savedBindings, SolverState.initial]⟩
  exact ⟨_, _, _, _, _, _, _, _, rfl, rfl, rfl, rfl, tables, rfl, rfl, overloads, choices,
    bindings down 0 _ (fun _ isFixed => by cases isFixed) rfl rfl⟩

/-! ## Where re-applying differs -/

/-- A conformance table in which every instance of the generic nominal `2` has the nominal `7`
as its witness for any associated type: an `Array`, whose `Index` is `Int` whatever its
element. -/
def Conformances.arrayIndex : Conformances where
  mayHaveMembers _ := true
  typeWitness
    | .boundGeneric (.nominal 2) _, _ => some (.nominal 7)
    | _, _ => none
  witness_typeVariables base _ witness found := by
    dsimp only at found
    split at found <;> cases found
    simp [Ty.typeVariables]
  witness_hasHole base _ witness found := by
    dsimp only at found
    split at found <;> cases found
    simp [Ty.hasHole]

/-- Two runs whose solution does not come back. In the first, a restriction recorded on type
variable 0 before the scope, in which 0 is bound to a generic type over the new variable 1, is
taken under the bound type; the scope destroyed, applying the solution leaves 0 unbound, since
its type mentions a type variable, and the second solution holds the restriction under both
keys. In the second, 0 is fixed before the scope to the member `Index` of variable 1, and the
scope binds 1 to an `Array` over the new variable 2: the solution binds 0 to `Int`, a type
without type variables. Once the scope is destroyed, applying the solution finds 0 fixed and
leaves 1 unbound, since its type mentions variable 2, so the second solution keeps 0 at the
unresolved member. -/
theorem reapplied_solution_differs :
    (∃ cs opened reached solution finalized restored reapplied solution' final,
      run [.mutate (.createTypeVariable 0 ⟨false, false, false, false⟩),
          .mutate (.addConversionRestriction (.typeVariable 0) (.nominal 5) 1)]
        { ConstraintSystem.empty .trivial with solverState := some (.initial .allow []) } =
        some cs ∧ cs.fixes = [] ∧
      cs.openScope = some opened ∧
      run [.mutate (.createTypeVariable 1 ⟨false, false, false, false⟩),
          .mutate (.assignFixedType 0 (.boundGeneric (.nominal 2) (.typeVariable 1)) false)]
        opened = some reached ∧
      reached.finalize = some (solution, finalized) ∧ finalized.closeScope = some restored ∧
      restored.applySolution solution = some reapplied ∧
      reapplied.finalize = some (solution', final) ∧
      solution.constraintRestrictions =
        [((.boundGeneric (.nominal 2) (.typeVariable 1), .nominal 5), 1)] ∧
      solution'.constraintRestrictions =
        ((.typeVariable 0, .nominal 5), 1) :: solution.constraintRestrictions) ∧
    (∃ cs opened reached solution finalized restored reapplied solution' final,
      run [.mutate (.createTypeVariable 0 ⟨false, false, false, false⟩),
          .mutate (.createTypeVariable 1 ⟨false, false, false, false⟩),
          .mutate (.assignFixedType 0 (.dependentMember (.typeVariable 1) 0) false)]
        { ConstraintSystem.empty ⟨.arrayIndex, fun _ => none, fun _ => [], false⟩ with
          solverState := some (.initial .allow []) } =
        some cs ∧ cs.fixes = [] ∧
      cs.openScope = some opened ∧
      run [.mutate (.createTypeVariable 2 ⟨false, false, false, false⟩),
          .mutate (.assignFixedType 1 (.boundGeneric (.nominal 2) (.typeVariable 2)) false)]
        opened = some reached ∧
      reached.finalize = some (solution, finalized) ∧ finalized.closeScope = some restored ∧
      restored.applySolution solution = some reapplied ∧
      reapplied.finalize = some (solution', final) ∧
      solution.typeBindings.lookup 0 = some (.nominal 7) ∧
      solution'.typeBindings.lookup 0 = some (.dependentMember (.typeVariable 1) 0)) :=
  ⟨⟨_, _, _, _, _, _, _, _, _, rfl, rfl, rfl, rfl, rfl, rfl, rfl, rfl, rfl, rfl⟩,
    ⟨_, _, _, _, _, _, _, _, _, rfl, rfl, rfl, rfl, rfl, rfl, rfl, rfl, rfl, rfl⟩⟩

end Constraints
