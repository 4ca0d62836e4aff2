import ConstraintSolver.Simplify
import Mathlib.Data.List.Lex
import Mathlib.Data.List.Nodup
import Mathlib.Data.List.Perm.Basic

/-! # The constraint system

The state the solver mutates while it searches: the type variables and their arena, the
active and inactive constraint lists, the side tables that record decisions (resolved
overloads, fixes, conversion restrictions, disjunction choices, opened types, node types and
the rest), the current score, and the solver state of a running attempt with its binding
journal and the stack of open scopes. A `Solution` is the snapshot `finalize` takes of it.

Side tables that the sources keep as `MapVector`, `SetVector` or `DenseMap` are lists here:
insertion keeps the first entry of a key, assignment overwrites in place, and iteration is
list order. Opaque AST payloads (locators, nodes, overload choices, conformances) are their
identities.
-/

namespace Constraints

/-! ## Association lists -/

section
variable {K V : Type} [DecidableEq K]

/-- `MapVector::insert` and `DenseMap::insert`: add the entry unless its key is present. -/
def insertEntry (entries : List (K × V)) (entry : K × V) : List (K × V) :=
  if entries.any (·.1 = entry.1) then entries else entries ++ [entry]

/-- `map[key] = value`: overwrite the entry of the key in place, or add it. -/
def assignEntry (entries : List (K × V)) (key : K) (value : V) : List (K × V) :=
  if entries.any (·.1 = key) then entries.map fun e => if e.1 = key then (key, value) else e
  else entries ++ [(key, value)]

/-- `map.erase(key)`. -/
def eraseEntry (entries : List (K × V)) (key : K) : List (K × V) :=
  entries.filter (·.1 ≠ key)

/-- `SetVector::insert`: add the element unless it is present. -/
def insertNew (elements : List K) (element : K) : List K :=
  if element ∈ elements then elements else elements ++ [element]

/-- `truncate`: keep the first `newSize` elements. -/
def truncate {α : Type} (elements : List α) (newSize : Nat) : List α :=
  elements.take newSize

theorem prefix_insertEntry (entries : List (K × V)) (entry : K × V) :
    entries <+: insertEntry entries entry := by
  unfold insertEntry
  split
  · exact List.prefix_refl _
  · exact List.prefix_append _ _

theorem prefix_insertNew (elements : List K) (element : K) :
    elements <+: insertNew elements element := by
  unfold insertNew
  split
  · exact List.prefix_refl _
  · exact List.prefix_append _ _

@[simp] theorem mem_insertNew_self (elements : List K) (element : K) :
    element ∈ insertNew elements element := by
  unfold insertNew
  split
  · assumption
  · exact List.mem_append_right _ (List.mem_singleton_self _)

theorem prefix_foldl_insertEntry (additions entries : List (K × V)) :
    entries <+: additions.foldl insertEntry entries := by
  induction additions generalizing entries with
  | nil => exact List.prefix_refl _
  | cons entry rest ih => exact (prefix_insertEntry entries entry).trans (ih _)

@[simp] theorem truncate_prefix_length {α : Type} {elements elements' : List α}
    (extends_ : elements <+: elements') : truncate elements' elements.length = elements := by
  obtain ⟨rest, rfl⟩ := extends_
  simp [truncate]

theorem lookup_cons_pair (a : K) (b : V) (rest : List (K × V)) (k : K) :
    ((a, b) :: rest).lookup k = if k = a then some b else rest.lookup k := by
  by_cases same : k = a
  · subst same
    simp
  · simp [List.lookup_cons, beq_false_of_ne same, same]

private theorem lookup_map_assign (entries : List (K × V)) (key : K) (value : V) (k : K) :
    (entries.map fun e => if e.1 = key then (key, value) else e).lookup k =
      if k = key ∧ entries.any (·.1 = key) then some value else entries.lookup k := by
  induction entries with
  | nil => simp
  | cons entry rest ih =>
    obtain ⟨a, b⟩ := entry
    by_cases here : a = key
    · subst here
      by_cases found : k = a <;> simp [lookup_cons_pair, found, ih]
    · simp only [List.map_cons, here, ↓reduceIte, lookup_cons_pair, ih, List.any_cons,
        decide_False, Bool.false_or]
      by_cases found : k = key
      · simp [found, Ne.symm here]
      · simp [found]

/-- Assignment changes the lookup of its key only. -/
@[simp] theorem lookup_assignEntry (entries : List (K × V)) (key : K) (value : V) (k : K) :
    (assignEntry entries key value).lookup k = if k = key then some value else entries.lookup k := by
  unfold assignEntry
  split
  · simp_all [lookup_map_assign]
  · rename_i absent
    by_cases found : k = key
    · subst found
      have : entries.lookup k = none := by
        simp only [List.any_eq_true, decide_eq_true_eq, not_exists, not_and] at absent
        exact List.lookup_eq_none_iff.mpr fun p member =>
          bne_iff_ne.mpr (Ne.symm (absent p member))
      simp [List.lookup_append, this]
    · simp [List.lookup_append, lookup_cons_pair, found]

/-- Erasure changes the lookup of its key only. -/
@[simp] theorem lookup_eraseEntry (entries : List (K × V)) (key k : K) :
    (eraseEntry entries key).lookup k = if k = key then none else entries.lookup k := by
  induction entries with
  | nil => simp [eraseEntry]
  | cons entry rest ih =>
    obtain ⟨a, b⟩ := entry
    simp only [eraseEntry] at ih
    by_cases here : a = key
    · subst here
      simp only [eraseEntry, List.filter_cons, ne_eq, not_true_eq_false, decide_False,
        Bool.false_eq_true, ↓reduceIte, ih, lookup_cons_pair]
      split <;> simp_all
    · simp only [eraseEntry, List.filter_cons, ne_eq, here, not_false_eq_true, decide_True,
        ↓reduceIte, lookup_cons_pair, ih]
      by_cases found : k = key
      · simp [found, Ne.symm here]
      · simp [found]

end

/-! ## Scores -/

/-- Modelled from the spec: `ScoreKind`, declared in the solver's header. The penalty
categories the sources increase, most significant first. -/
inductive ScoreKind where
  | fix
  | unavailable
  | asyncSyncMismatch
  | disfavoredOverload
  | nonDefaultLiteral
  | keyPathSubscript
  deriving DecidableEq, Repr

/-- The position of a kind's counter in a score. -/
def ScoreKind.index : ScoreKind → Nat
  | fix => 0
  | unavailable => 1
  | asyncSyncMismatch => 2
  | disfavoredOverload => 3
  | nonDefaultLiteral => 4
  | keyPathSubscript => 5

/-- The number of score kinds. -/
def numScoreKinds : Nat := 6

/-- Modelled from the spec: `Score`, one counter per kind, ordered lexicographically. -/
structure Score where
  data : List Nat
  length_data : data.length = numScoreKinds

namespace Score

theorem ext_data {left right : Score} (same : left.data = right.data) : left = right := by
  cases left
  cases right
  cases same
  rfl

instance : DecidableEq Score := fun left right =>
  decidable_of_iff (left.data = right.data) ⟨ext_data, fun same => same ▸ rfl⟩

/-- Scores are ordered as their counter lists, lexicographically. -/
instance : LinearOrder Score := LinearOrder.lift' data fun _ _ => ext_data

/-- The score of a solution with no penalties. -/
def zero : Score := ⟨List.replicate numScoreKinds 0, List.length_replicate _ _⟩

/-- `Score::operator+=`. -/
def add (score increment : Score) : Score :=
  ⟨List.zipWith (· + ·) score.data increment.data, by
    simp [List.length_zipWith, score.length_data, increment.length_data]⟩

/-- `increaseScore`: add `value` to the counter of `kind`. -/
def increase (score : Score) (kind : ScoreKind) (value : Nat) : Score :=
  ⟨score.data.modify (· + value) kind.index, by simp [score.length_data]⟩

private theorem le_zipWith_add : ∀ {data increment : List Nat}, data.length = increment.length →
    data ≤ List.zipWith (· + ·) data increment
  | [], [], _ => le_refl _
  | x :: data, y :: increment, same => by
    have rest := @le_zipWith_add data increment (by simpa using same)
    simp only [List.zipWith_cons_cons]
    rcases Nat.eq_zero_or_pos y with rfl | positive
    · rcases rest.lt_or_eq with lower | equal
      · exact le_of_lt (List.Lex.cons lower)
      · simp only [Nat.add_zero, ← equal, le_refl]
    · exact le_of_lt (List.Lex.rel (Nat.lt_add_of_pos_right positive))

/-- Adding counters never lowers a score. -/
theorem le_add (score increment : Score) : score ≤ score.add increment :=
  le_zipWith_add (by rw [score.length_data, increment.length_data])

private theorem le_modify_add (value : Nat) : ∀ (data : List Nat) (index : Nat),
    data ≤ data.modify (· + value) index
  | [], _ => by simp
  | x :: data, 0 => by
    rcases Nat.eq_zero_or_pos value with rfl | positive
    · simp
    · exact le_of_lt (by simpa using List.Lex.rel (Nat.lt_add_of_pos_right positive))
  | x :: data, index + 1 => by
    rw [List.modify_succ_cons]
    rcases (le_modify_add value data index).lt_or_eq with lower | equal
    · exact le_of_lt (List.Lex.cons lower)
    · rw [← equal]

/-- Increasing a counter never lowers a score. -/
theorem le_increase (score : Score) (kind : ScoreKind) (value : Nat) :
    score ≤ score.increase kind value :=
  le_modify_add value score.data kind.index

end Score

/-! ## Solutions, scopes and the solver state -/

/-- `FreeTypeVariableBinding`: what `finalize` does with type variables left unbound. -/
inductive FreeTypeVariableBinding where
  | disallow
  | allow
  | unresolvedType
  deriving DecidableEq, Repr

/-- `ConstraintSystem::SolutionKind`: the outcome of simplifying a constraint. -/
inductive SolutionKind where
  | error
  | solved
  | unsolved
  deriving DecidableEq, Repr

/-- `ConstraintSystemPhase`. -/
inductive ConstraintSystemPhase where
  | constraintGeneration
  | solving
  | diagnostics
  | finalization
  deriving DecidableEq, Repr

/-- `Solution`: the bindings and decisions of one leaf of the search. -/
structure Solution where
  typeBindings : List (Nat × Ty)
  overloadChoices : List (Nat × Nat)
  constraintRestrictions : List ((Ty × Ty) × Nat)
  fixes : List Nat
  disjunctionChoices : List (Nat × Nat)
  trailingClosureMatchingChoices : List (Nat × Nat)
  openedTypes : List (Nat × Nat)
  openedExistentialTypes : List (Nat × Nat)
  defaultedConstraints : List Nat
  nodeTypes : List (Nat × Ty)
  contextualTypes : List (Nat × Nat)
  solutionApplicationTargets : List (Nat × Nat)
  caseLabelItems : List (Nat × Nat)
  conformances : List (Nat × Nat)
  functionBuilderTransformed : List (Nat × Nat)
  fixedScore : Score

/-- `SolverScope`: the sizes of the journaled lists and the score when the scope was
constructed, with what `SolverState::registerScope` records next to it: how many constraints
were retired and generated. -/
structure SolverScope where
  numTypeVariables : Nat
  numSavedBindings : Nat
  numConstraintRestrictions : Nat
  numFixes : Nat
  numFixedRequirements : Nat
  numDisjunctionChoices : Nat
  numTrailingClosureMatchingChoices : Nat
  numOpenedTypes : Nat
  numOpenedExistentialTypes : Nat
  numDefaultedConstraints : Nat
  numAddedNodeTypes : Nat
  numCheckedConformances : Nat
  numDisabledConstraints : Nat
  numFavoredConstraints : Nat
  numFunctionBuilderTransformed : Nat
  numResolvedOverloads : Nat
  numInferredClosureTypes : Nat
  numContextualTypes : Nat
  numSolutionApplicationTargets : Nat
  numCaseLabelItems : Nat
  previousScore : Score
  numRetiredConstraints : Nat
  numGeneratedConstraints : Nat

/-- `SolverState`: the state of one solving attempt. The journals of retired, generated,
disabled and favored constraints are kept by the header, modelled from the spec. -/
structure SolverState where
  allowFreeTypeVariables : FreeTypeVariableBinding
  recordFixes : Bool
  bestScore : Option Score
  savedBindings : List Arena.SavedTypeVariableBinding
  /-- The constraints active when the state was constructed. -/
  activeConstraints : List Nat
  /-- Most recently retired first. -/
  retiredConstraints : List Nat
  generatedConstraints : List Nat
  /-- The constraints disabled through the state, each with the flag it had before. -/
  disabledConstraints : List (Nat × Bool)
  /-- The constraints favored through the state, each with the flag it had before. -/
  favoredConstraints : List (Nat × Bool)
  /-- The open scopes, innermost first. -/
  scopes : List SolverScope
  partialSolutionScope : Option SolverScope

/-- The flags the solver keeps on a constraint object. -/
structure ConstraintFlags where
  isActive : Bool
  isDisabled : Bool
  isFavored : Bool
  deriving DecidableEq, Repr

/-- What the solver reads of the AST and the constraint graph, which it does not own. -/
structure Environment where
  conformances : Conformances
  /-- For a type variable whose locator anchors a literal: the nominal of its literal
  protocol's default type, if it has one. -/
  literalDefault : Nat → Option (Option Nat)
  /-- `ConstraintGraph::gatherConstraints` with `AllMentions`. -/
  gatherConstraints : Nat → List Nat
  /-- `TypeCheckerOpts.DisableConstraintSolverPerformanceHacks`. -/
  disablePerformanceHacks : Bool

/-- `ConstraintSystem`. -/
structure ConstraintSystem where
  env : Environment
  phase : ConstraintSystemPhase
  typeVariables : List Nat
  arena : Arena
  resolvedOverloads : List (Nat × Nat)
  constraintRestrictions : List (Ty × Ty × Nat)
  fixes : List Nat
  fixedRequirements : List (Nat × Nat × Ty)
  disjunctionChoices : List (Nat × Nat)
  trailingClosureMatchingChoices : List (Nat × Nat)
  openedTypes : List (Nat × Nat)
  openedExistentialTypes : List (Nat × Nat)
  defaultedConstraints : List Nat
  nodeTypes : List (Nat × Ty)
  addedNodeTypes : List (Nat × Option Ty)
  checkedConformances : List (Nat × Nat)
  functionBuilderTransformed : List (Nat × Nat)
  closureTypes : List (Nat × Ty)
  contextualTypes : List (Nat × Nat)
  solutionApplicationTargets : List (Nat × Nat)
  caseLabelItems : List (Nat × Nat)
  currentScore : Score
  failedConstraint : Option Nat
  activeConstraints : List Nat
  inactiveConstraints : List Nat
  constraints : Nat → ConstraintFlags
  solverState : Option SolverState

/-- A conformance table in which no type has members. -/
def Conformances.trivial : Conformances where
  mayHaveMembers := fun _ => false
  typeWitness := fun _ _ => none
  witness_typeVariables := fun _ _ _ found => by cases found
  witness_hasHole := fun _ _ _ found => by cases found

/-- An environment without members, literals or constraint-graph edges. -/
def Environment.trivial : Environment := ⟨Conformances.trivial, fun _ => none, fun _ => [], false⟩

/-- The arena before any type variable is created. -/
def Arena.empty : Arena := ⟨TypeVariableImpl.initial, [], fun _ _ => rfl⟩

/-- `SolverState::SolverState`: the state of a new attempt, which records the active
constraints; fixes are recorded only once the caller asks. -/
def SolverState.initial (allowFreeTypeVariables : FreeTypeVariableBinding)
    (activeConstraints : List Nat) : SolverState where
  allowFreeTypeVariables := allowFreeTypeVariables
  recordFixes := false
  bestScore := none
  savedBindings := []
  activeConstraints := activeConstraints
  retiredConstraints := []
  generatedConstraints := []
  disabledConstraints := []
  favoredConstraints := []
  scopes := []
  partialSolutionScope := none

namespace ConstraintSystem

/-- A constraint system with nothing in it yet. -/
def empty (env : Environment) : ConstraintSystem where
  env := env
  phase := .constraintGeneration
  typeVariables := []
  arena := Arena.empty
  resolvedOverloads := []
  constraintRestrictions := []
  fixes := []
  fixedRequirements := []
  disjunctionChoices := []
  trailingClosureMatchingChoices := []
  openedTypes := []
  openedExistentialTypes := []
  defaultedConstraints := []
  nodeTypes := []
  addedNodeTypes := []
  checkedConformances := []
  functionBuilderTransformed := []
  closureTypes := []
  contextualTypes := []
  solutionApplicationTargets := []
  caseLabelItems := []
  currentScore := Score.zero
  failedConstraint := none
  activeConstraints := []
  inactiveConstraints := []
  constraints := fun _ => ⟨false, false, false⟩
  solverState := none

/-- `shouldAttemptFixes() && getPhase() == Solving`: whether a missing conformance makes a
hole during simplification. -/
def attemptHoles (cs : ConstraintSystem) : Bool :=
  (cs.solverState.map (·.recordFixes)).getD false && cs.phase == .solving

/-- `ConstraintSystem::simplifyType`. -/
def simplifyType (cs : ConstraintSystem) (type : Ty) : Option Ty :=
  Constraints.simplifyType cs.env.conformances cs.attemptHoles cs.arena type

/-- `ConstraintSystem::getFixedTypeRecursive`. -/
def getFixedTypeRecursive (cs : ConstraintSystem) (type : Ty) (generateConstraints wantRValue : Bool) :
    Option (Ty × Bool) :=
  Constraints.getFixedTypeRecursive cs.env.conformances cs.attemptHoles cs.arena type
    generateConstraints wantRValue

end ConstraintSystem

/-- `Solution::simplifyType`, on the constraint system the solution came from. -/
def Solution.simplifyType (solution : Solution) (cs : ConstraintSystem) (type : Ty) : Option Ty :=
  simplifyTypeWithBindings cs.env.conformances cs.attemptHoles solution.typeBindings type

/-- **Type simplification stops and is idempotent.** In a system whose representative links
and fixed-type bindings are acyclic, `simplifyType` stops on every type, with a result whose
type variables are all unbound representatives and which simplifies to itself, and
`getFixedTypeRecursive` stops on every type. -/
theorem simplifyType_terminates_idempotent (cs : ConstraintSystem)
    (representatives : cs.arena.RepresentativesAcyclic) (bindings : cs.arena.BindingsAcyclic)
    (type : Ty) :
    ∃ result, cs.simplifyType type = some result ∧
      (∀ v ∈ result.typeVariables, cs.arena.IsUnboundRepresentative v) ∧
      cs.simplifyType result = some result ∧
      ∀ generateConstraints wantRValue,
        (cs.getFixedTypeRecursive type generateConstraints wantRValue).isSome := by
  obtain ⟨result, found⟩ := Option.isSome_iff_exists.mp
    (simplifyType_isSome representatives bindings type :
      (Constraints.simplifyType cs.env.conformances cs.attemptHoles cs.arena type).isSome)
  exact ⟨result, found, unbound_of_simplifyTypeFuel found, simplifyType_idempotent found,
    getFixedTypeRecursive_isSome representatives bindings type⟩

theorem Arena.empty_representativesAcyclic : Arena.empty.RepresentativesAcyclic := fun v cycle => by
  obtain ⟨next, ⟨link, different⟩, -⟩ := Relation.TransGen.head'_iff.mp cycle
  simp [Arena.empty, TypeVariableImpl.initial] at link
  exact different link.symm

theorem Arena.empty_bindingsAcyclic : Arena.empty.BindingsAcyclic := fun v cycle => by
  obtain ⟨u, ⟨r, type, -, fixed, -⟩, -⟩ := Relation.TransGen.head'_iff.mp cycle
  simp [Arena.empty, TypeVariableImpl.initial] at fixed

theorem simplifyType_terminates_idempotent_empty :
    ∃ result, (ConstraintSystem.empty .trivial).simplifyType
        (.boundGeneric (.nominal 1) (.typeVariable 0)) = some result ∧
      (∀ v ∈ result.typeVariables, Arena.empty.IsUnboundRepresentative v) ∧
      (ConstraintSystem.empty .trivial).simplifyType result = some result ∧
      ∀ generateConstraints wantRValue, ((ConstraintSystem.empty .trivial).getFixedTypeRecursive
        (.boundGeneric (.nominal 1) (.typeVariable 0)) generateConstraints wantRValue).isSome :=
  simplifyType_terminates_idempotent (ConstraintSystem.empty .trivial)
    Arena.empty_representativesAcyclic Arena.empty_bindingsAcyclic _

end Constraints
