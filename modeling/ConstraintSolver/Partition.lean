import ConstraintSolver.Operations

/-! # Partitioning a disjunction

`ConstraintSystem::partitionDisjunction` orders the choices of a disjunction for the
disjunction step and cuts the order into partitions. It may first favor one of two generic
overloads (`tryOptimizeGenericDisjunction`). Then passes over the choices not yet taken collect
the disabled and the favored ones, the unavailable ones, the SIMD operators, and the operators
defined in designated types; a last pass takes the rest. The partitions are appended in the
order: designated types, favored, the rest, SIMD operators, unavailable, disabled, each only if
it is not empty.

Each pass takes from what the passes before it left, so over pairwise distinct choices the
ordering is a permutation of the indices, the partitions begin at strictly increasing offsets
from zero, and the disabled choices form the last partition
(`Constraints.partitionDisjunction_orders_every_choice`).
-/

namespace Constraints

open scoped List

/-- `Comparison`, what `TypeChecker::compareDeclarations` returns. -/
inductive Comparison where
  | better
  | worse
  | unordered
  deriving DecidableEq, Repr

/-- Modelled from the spec: what `partitionDisjunction` reads of a choice besides its flags. -/
structure Choice where
  /-- The constraint object; the set of taken choices is keyed by it. -/
  constraint : Nat
  /-- `getKind() == ConstraintKind::BindOverload`. -/
  isBindOverload : Bool
  /-- The declaration of the overload choice, when `isDecl()`. -/
  decl : Option Nat
  /-- What `isViable` of `tryOptimizeGenericDisjunction` says of the declaration: a generic
  function, not disfavored, whose type mentions neither `Any` nor an optional. -/
  isViableGeneric : Bool
  /-- The declaration is a `FuncDecl` that `isDeclUnavailable` at the constraint's locator. -/
  isUnavailableFunction : Bool
  /-- `isOperatorBindOverload`. -/
  isOperatorBindOverload : Bool
  /-- `isSIMDOperator` of the declaration. -/
  isSIMDOperator : Bool
  /-- The nominal type of the declaration's context, and whether that context is an
  extension. -/
  parent : Option (Nat × Bool)
  deriving DecidableEq, Repr

/-- What `partitionDisjunction` reads of the type checker. -/
structure PartitionContext where
  /-- `shouldAttemptFixes()`. -/
  shouldAttemptFixes : Bool
  /-- `TypeCheckerOpts.SolverEnableOperatorDesignatedTypes`. -/
  solverEnableOperatorDesignatedTypes : Bool
  /-- `getOperatorDesignatedNominalTypes` of a choice, in the order `sortDesignatedTypes` gives
  them. -/
  designatedNominalTypes : Choice → List Nat
  /-- `TypeChecker::compareDeclarations`. -/
  compareDeclarations : Nat → Nat → Comparison

/-! ## The model -/

/-- `tryOptimizeGenericDisjunction`: of exactly two enabled choices, both unfavored bindings of
viable generic functions, the more specialized one. The loop of the source returns early once
it has seen a third enabled choice; the outcome is the same. -/
def tryOptimizeGenericDisjunction (context : PartitionContext) (cs : ConstraintSystem)
    (choices : List Choice) : Option Choice :=
  match choices.filter fun choice => !(cs.constraints choice.constraint).isDisabled with
  | [choiceA, choiceB] =>
    if !choiceA.isBindOverload || !choiceB.isBindOverload ||
        (cs.constraints choiceA.constraint).isFavored ||
        (cs.constraints choiceB.constraint).isFavored then none
    else match choiceA.decl, choiceB.decl with
      | some declA, some declB =>
        if !choiceA.isViableGeneric || !choiceB.isViableGeneric then none
        else match context.compareDeclarations declA declB with
          | .better => some choiceA
          | .worse => some choiceB
          | .unordered => none
      | _, _ => none
  | _ => none

/-- `forEachChoice` of `partitionDisjunction`, from the choice at `index` on: offer each choice
not taken yet to `examine`, and take those it files, with the tag it files them under. -/
def forEachChoice {Tag : Type} (examine : Nat → Choice → Option Tag) :
    Nat → List Choice → List Nat → List (Nat × Tag) × List Nat
  | _, [], taken => ([], taken)
  | index, choice :: rest, taken =>
    if choice.constraint ∈ taken then forEachChoice examine (index + 1) rest taken
    else match examine index choice with
      | some tag =>
        let later := forEachChoice examine (index + 1) rest (taken ++ [choice.constraint])
        ((index, tag) :: later.1, later.2)
      | none => forEachChoice examine (index + 1) rest taken

/-- `appendPartition`: a non-empty list of choices starts a partition at the current end of
the ordering. The pair is `(Ordering, PartitionBeginning)`. -/
def appendPartition (partitions : List Nat × List Nat) (options : List Nat) :
    List Nat × List Nat :=
  if options.isEmpty then partitions
  else (partitions.1 ++ options, partitions.2 ++ [partitions.1.length])

/-- The indices filed under `tag`. -/
def filedUnder {Tag : Type} [DecidableEq Tag] (found : List (Nat × Tag)) (tag : Tag) : List Nat :=
  found.filterMap fun entry => if entry.2 = tag then some entry.1 else none

/-- The first pass: disabled choices (`true`), then favored ones (`false`). -/
def examineDisabledOrFavored (cs : ConstraintSystem) (_ : Nat) (choice : Choice) : Option Bool :=
  if (cs.constraints choice.constraint).isDisabled then some true
  else if (cs.constraints choice.constraint).isFavored then some false
  else none

/-- The pass for unavailable choices. -/
def examineUnavailable (_ : Nat) (choice : Choice) : Option Unit :=
  if choice.isBindOverload && choice.isUnavailableFunction then some () else none

/-- The pass for SIMD operators. -/
def examineSIMDOperator (_ : Nat) (choice : Choice) : Option Unit :=
  if choice.isOperatorBindOverload && choice.isSIMDOperator then some () else none

/-- `examineConstraint` of `partitionForDesignatedTypes`: a choice defined in a designated type
is filed under the first index of that type, and under whether it is defined in an extension. -/
def examineDesignated (designatedNominalTypes : List Nat) (_ : Nat) (choice : Choice) :
    Option (Nat × Bool) :=
  match choice.parent with
  | some (parentDecl, inExtension) =>
    (designatedNominalTypes.indexOf? parentDecl).map (·, inExtension)
  | none => none

/-- `partitionForDesignatedTypes`: file the choices defined in designated types, then append,
for each designated type, the partition of those defined in it and the partition of those
defined in its extensions. -/
def partitionForDesignatedTypes (designatedNominalTypes : List Nat) (choices : List Choice)
    (taken : List Nat) (partitions : List Nat × List Nat) : List Nat × (List Nat × List Nat) :=
  if designatedNominalTypes.isEmpty then (taken, partitions) else
  let found := forEachChoice (examineDesignated designatedNominalTypes) 0 choices taken
  (found.2, (List.range designatedNominalTypes.length).foldl
    (fun partitions index => appendPartition
      (appendPartition partitions (filedUnder found.1 (index, false)))
      (filedUnder found.1 (index, true))) partitions)

/-- `ConstraintSystem::partitionDisjunction`: the ordering, the partition beginnings, and the
system with the choice `tryOptimizeGenericDisjunction` favors. It indexes the first choice,
so it has no result on an empty disjunction, nor when its closing assertion, that the ordering
has one entry per choice, fails. -/
def partitionDisjunction (context : PartitionContext) (cs : ConstraintSystem)
    (choices : List Choice) : Option (List Nat × List Nat × ConstraintSystem) := do
  let first ← choices.head?
  let cs := match tryOptimizeGenericDisjunction context cs choices with
    | some favored => cs.favorConstraint favored.constraint
    | none => cs
  let disabledOrFavored := forEachChoice (examineDisabledOrFavored cs) 0 choices []
  let unavailable := if !context.shouldAttemptFixes then
      forEachChoice examineUnavailable 0 choices disabledOrFavored.2
    else ([], disabledOrFavored.2)
  let simdOperators :=
    if !context.solverEnableOperatorDesignatedTypes && first.isOperatorBindOverload then
      forEachChoice examineSIMDOperator 0 choices unavailable.2
    else ([], unavailable.2)
  let designated :=
    if context.solverEnableOperatorDesignatedTypes && first.isOperatorBindOverload then
      partitionForDesignatedTypes (context.designatedNominalTypes first) choices simdOperators.2
        ([], [])
    else (simdOperators.2, ([], []))
  let everythingElse := forEachChoice (fun _ _ => some ()) 0 choices designated.1
  let partitions := [filedUnder disabledOrFavored.1 false, everythingElse.1.map (·.1),
    simdOperators.1.map (·.1), unavailable.1.map (·.1),
    filedUnder disabledOrFavored.1 true].foldl appendPartition designated.2
  if partitions.1.length = choices.length then some (partitions.1, partitions.2, cs) else none

/-- The indices of the disabled choices, in order. -/
def disabledChoices (cs : ConstraintSystem) (choices : List Choice) : List Nat :=
  (choices.enum.filter fun entry => (cs.constraints entry.2.constraint).isDisabled).map (·.1)

/-! ## One pass of `forEachChoice` -/

/-- The choices from `index` on whose constraint `taken` does not hold, with their indices. -/
def untaken (index : Nat) (choices : List Choice) (taken : List Nat) : List (Nat × Choice) :=
  (choices.enumFrom index).filter fun entry => entry.2.constraint ∉ taken

theorem untaken_cons_of_mem {index : Nat} {choice : Choice} {rest : List Choice}
    {taken : List Nat} (isTaken : choice.constraint ∈ taken) :
    untaken index (choice :: rest) taken = untaken (index + 1) rest taken := by
  simp [untaken, List.enumFrom_cons, isTaken]

theorem untaken_cons_of_not_mem {index : Nat} {choice : Choice} {rest : List Choice}
    {taken : List Nat} (notTaken : choice.constraint ∉ taken) :
    untaken index (choice :: rest) taken = (index, choice) :: untaken (index + 1) rest taken := by
  simp [untaken, List.enumFrom_cons, notTaken]

/-- Taking a constraint that no later choice has leaves the later choices as they were. -/
theorem untaken_append_of_not_mem {index constraint : Nat} {rest : List Choice}
    {taken : List Nat} (fresh : constraint ∉ rest.map (·.constraint)) :
    untaken index rest (taken ++ [constraint]) = untaken index rest taken := by
  refine List.filter_congr fun entry mem => ?_
  have : entry.2.constraint ≠ constraint := fun same =>
    fresh (List.mem_map.mpr ⟨_, List.snd_mem_of_mem_enumFrom mem, same⟩)
  simp [this]

section Pass

variable {Tag : Type} (examine : Nat → Choice → Option Tag)

theorem forEachChoice_taken_mono (index : Nat) (choices : List Choice) (taken : List Nat) :
    taken ⊆ (forEachChoice examine index choices taken).2 := by
  induction choices generalizing index taken with
  | nil => exact List.Subset.refl _
  | cons choice rest ih =>
    rw [forEachChoice]
    split
    · exact ih _ _
    · split
      · exact (List.subset_append_left _ _).trans (ih _ _)
      · exact ih _ _

/-- A pass takes only constraints of the choices it walks. -/
theorem not_mem_forEachChoice_taken {constraint : Nat} (index : Nat) (choices : List Choice)
    (taken : List Nat) (notTaken : constraint ∉ taken)
    (notChoice : constraint ∉ choices.map (·.constraint)) :
    constraint ∉ (forEachChoice examine index choices taken).2 := by
  induction choices generalizing index taken with
  | nil => exact notTaken
  | cons choice rest ih =>
    simp only [List.map_cons, List.mem_cons, not_or] at notChoice
    rw [forEachChoice]
    split
    · exact ih _ _ notTaken notChoice.2
    · split
      · exact ih _ _ (by simpa [notTaken] using notChoice.1) notChoice.2
      · exact ih _ _ notTaken notChoice.2

/-- Every tag a pass files under is one `examine` gives. -/
theorem forEachChoice_tags {property : Tag → Prop}
    (examined : ∀ index choice tag, examine index choice = some tag → property tag)
    (index : Nat) (choices : List Choice) (taken : List Nat) :
    ∀ entry ∈ (forEachChoice examine index choices taken).1, property entry.2 := by
  induction choices generalizing index taken with
  | nil => simp [forEachChoice]
  | cons choice rest ih =>
    rw [forEachChoice]
    split
    · exact ih _ _
    · split
      · next tag found =>
        simpa only [List.mem_cons, forall_eq_or_imp] using ⟨examined _ _ _ found, ih _ _⟩
      · exact ih _ _

/-- Over distinct choices, a pass files what `examine` accepts among the choices not taken yet,
and leaves the others. -/
theorem forEachChoice_spec (index : Nat) (choices : List Choice) (taken : List Nat)
    (distinct : (choices.map (·.constraint)).Nodup) :
    (forEachChoice examine index choices taken).1 = (untaken index choices taken).filterMap
        (fun entry => (examine entry.1 entry.2).map (entry.1, ·)) ∧
      untaken index choices (forEachChoice examine index choices taken).2 =
        (untaken index choices taken).filter fun entry => (examine entry.1 entry.2).isNone := by
  induction choices generalizing index taken with
  | nil => simp [forEachChoice, untaken]
  | cons choice rest ih =>
    rw [List.map_cons, List.nodup_cons] at distinct
    obtain ⟨fresh, distinct⟩ := distinct
    by_cases isTaken : choice.constraint ∈ taken
    · rw [forEachChoice, if_pos isTaken, untaken_cons_of_mem isTaken,
        untaken_cons_of_mem (forEachChoice_taken_mono examine _ rest taken isTaken)]
      exact ih _ _ distinct
    · rw [forEachChoice, if_neg isTaken, untaken_cons_of_not_mem isTaken]
      cases found : examine index choice with
      | none =>
        rw [untaken_cons_of_not_mem
          (not_mem_forEachChoice_taken examine _ rest taken isTaken fresh)]
        simp [found, ih _ _ distinct]
      | some tag =>
        rw [untaken_cons_of_mem (forEachChoice_taken_mono examine _ rest _
          (List.mem_append_right _ (List.mem_singleton_self _)))]
        simp [found, ih _ _ distinct, untaken_append_of_not_mem fresh]

/-- What `examine` accepts and what it leaves make up, together, what it was offered. -/
theorem filterMap_append_filter_perm (entries : List (Nat × Choice)) :
    ((entries.filterMap fun entry => (examine entry.1 entry.2).map (entry.1, ·)).map (·.1) ++
      (entries.filter fun entry => (examine entry.1 entry.2).isNone).map (·.1)).Perm
      (entries.map (·.1)) := by
  induction entries with
  | nil => exact .nil
  | cons entry rest ih =>
    cases found : examine entry.1 entry.2 with
    | none => simpa [found] using List.perm_middle.trans (ih.cons _)
    | some tag => simpa [found] using ih

/-- One pass: the indices it takes and those it leaves are the indices it was offered. -/
theorem forEachChoice_perm (choices : List Choice) (taken : List Nat)
    (distinct : (choices.map (·.constraint)).Nodup) :
    ((forEachChoice examine 0 choices taken).1.map (·.1) ++
      (untaken 0 choices (forEachChoice examine 0 choices taken).2).map (·.1)).Perm
      ((untaken 0 choices taken).map (·.1)) := by
  obtain ⟨found, left⟩ := forEachChoice_spec examine 0 choices taken distinct
  rw [found, left]
  exact filterMap_append_filter_perm examine _

/-- A pass that `partitionDisjunction` runs only under a condition. -/
theorem ite_forEachChoice_perm (condition : Prop) [Decidable condition] (choices : List Choice)
    (taken : List Nat) (distinct : (choices.map (·.constraint)).Nodup) :
    ((if condition then forEachChoice examine 0 choices taken else ([], taken)).1.map (·.1) ++
      (untaken 0 choices
        (if condition then forEachChoice examine 0 choices taken else ([], taken)).2).map
          (·.1)).Perm
      ((untaken 0 choices taken).map (·.1)) := by
  split
  · exact forEachChoice_perm examine choices taken distinct
  · exact .refl _

end Pass

/-- The last pass takes everything left. -/
theorem everythingElse_perm (choices : List Choice) (taken : List Nat)
    (distinct : (choices.map (·.constraint)).Nodup) :
    ((forEachChoice (fun _ _ => some ()) 0 choices taken).1.map (·.1)).Perm
      ((untaken 0 choices taken).map (·.1)) := by
  have pass := forEachChoice_perm (fun _ _ => some ()) choices taken distinct
  simpa [(forEachChoice_spec (fun _ _ => some ()) 0 choices taken distinct).2] using pass

/-! ## Partitions -/

/-- What appending partitions keeps: the beginnings increase, lie inside the ordering, and
start at zero once the ordering is not empty. -/
structure Partitioned (partitions : List Nat × List Nat) : Prop where
  increasing : partitions.2.Pairwise (· < ·)
  bounded : ∀ beginning ∈ partitions.2, beginning < partitions.1.length
  startsAtZero : partitions.1 ≠ [] → partitions.2.head? = some 0

theorem Partitioned.empty : Partitioned ([], []) :=
  ⟨.nil, nofun, fun nonempty => absurd rfl nonempty⟩

theorem appendPartition_fst (partitions : List Nat × List Nat) (options : List Nat) :
    (appendPartition partitions options).1 = partitions.1 ++ options := by
  unfold appendPartition
  split_ifs with empty
  · rw [List.isEmpty_iff.mp empty, List.append_nil]
  · rfl

theorem Partitioned.appendPartition {partitions : List Nat × List Nat}
    (partitioned : Partitioned partitions) (options : List Nat) :
    Partitioned (appendPartition partitions options) := by
  unfold Constraints.appendPartition
  split_ifs with empty
  · exact partitioned
  · obtain ⟨increasing, bounded, startsAtZero⟩ := partitioned
    have grows : 0 < options.length := by
      simpa [List.isEmpty_iff, ← List.length_pos] using empty
    refine ⟨List.pairwise_append.mpr ⟨increasing, List.pairwise_singleton _ _, ?_⟩, ?_, ?_⟩
    · simpa using bounded
    · simpa [or_imp, forall_and] using
        ⟨fun beginning mem => Nat.lt_add_right _ (bounded beginning mem), grows⟩
    · intro _
      by_cases ordering : partitions.1 = []
      · have : partitions.2 = [] := List.eq_nil_iff_forall_not_mem.mpr fun beginning mem => by
          simpa [ordering] using bounded beginning mem
        simp [this, ordering]
      · simp [List.head?_append, startsAtZero ordering]

theorem foldl_appendPartition (lists : List (List Nat)) {partitions : List Nat × List Nat}
    (partitioned : Partitioned partitions) :
    Partitioned (lists.foldl appendPartition partitions) ∧
      (lists.foldl appendPartition partitions).1 = partitions.1 ++ lists.flatten := by
  induction lists generalizing partitions with
  | nil => exact ⟨partitioned, (List.append_nil _).symm⟩
  | cons options rest ih =>
    obtain ⟨partitioned', ordering⟩ := ih (partitioned.appendPartition options)
    exact ⟨partitioned', by rw [List.foldl_cons, ordering, appendPartition_fst, List.flatten_cons,
      List.append_assoc]⟩

theorem filedUnder_eq {Tag : Type} [DecidableEq Tag] (found : List (Nat × Tag)) (tag : Tag) :
    filedUnder found tag = (found.filter fun entry => entry.2 = tag).map (·.1) := by
  induction found with
  | nil => rfl
  | cons entry rest ih => by_cases filed : entry.2 = tag <;> simp [filedUnder, filed, ← ih]

/-- Filing under distinct tags that cover every entry loses and duplicates no entry. -/
theorem flatten_filedUnder_perm {Tag : Type} [DecidableEq Tag] (tags : List Tag)
    (found : List (Nat × Tag)) (distinct : tags.Nodup) (covered : ∀ entry ∈ found, entry.2 ∈ tags) :
    (tags.map (filedUnder found)).flatten.Perm (found.map (·.1)) := by
  induction tags generalizing found with
  | nil =>
    have : found = [] := List.eq_nil_iff_forall_not_mem.mpr fun entry mem => by
      simpa using covered entry mem
    simp [this]
  | cons tag rest ih =>
    rw [List.nodup_cons] at distinct
    have others : rest.map (filedUnder found) =
        rest.map (filedUnder (found.filter fun entry => !decide (entry.2 = tag))) :=
      List.map_congr_left fun other mem => by
        have : other ≠ tag := fun same => distinct.1 (same ▸ mem)
        simp only [filedUnder_eq, List.filter_filter]
        congr 2
        funext entry
        by_cases filed : entry.2 = other <;> simp [filed, this]
    rw [List.map_cons, List.flatten_cons, others, filedUnder_eq]
    refine ((ih _ distinct.2 fun entry mem => ?_).append_left _).trans ?_
    · simp only [List.mem_filter, Bool.not_eq_true', decide_eq_false_iff_not] at mem
      simpa [mem.2] using covered entry mem.1
    · rw [← List.map_append]
      exact (List.filter_append_perm _ found).map _

/-- The pass for designated types appends partitions, keeping them well formed, whose entries
and the choices it leaves are the choices it was offered. -/
theorem partitionForDesignatedTypes_spec (designatedNominalTypes : List Nat)
    (choices : List Choice) (taken : List Nat) {partitions : List Nat × List Nat}
    (partitioned : Partitioned partitions) (distinct : (choices.map (·.constraint)).Nodup) :
    Partitioned (partitionForDesignatedTypes designatedNominalTypes choices taken partitions).2 ∧
      ∃ found, (partitionForDesignatedTypes designatedNominalTypes choices taken
          partitions).2.1 = partitions.1 ++ found ∧
        (found ++ (untaken 0 choices (partitionForDesignatedTypes designatedNominalTypes choices
          taken partitions).1).map (·.1)).Perm ((untaken 0 choices taken).map (·.1)) := by
  unfold partitionForDesignatedTypes
  split_ifs with empty
  · exact ⟨partitioned, [], (List.append_nil _).symm, .refl _⟩
  · let pass := forEachChoice (examineDesignated designatedNominalTypes) 0 choices taken
    let tags := (List.range designatedNominalTypes.length).flatMap fun index =>
      [(index, false), (index, true)]
    have fold : (List.range designatedNominalTypes.length).foldl
        (fun partitions index => appendPartition
          (appendPartition partitions (filedUnder pass.1 (index, false)))
          (filedUnder pass.1 (index, true))) partitions =
        (tags.map (filedUnder pass.1)).foldl appendPartition partitions := by
      simp [tags, List.flatMap, List.foldl_flatten, List.foldl_map]
    have tagsDistinct : tags.Nodup := List.nodup_flatMap.mpr ⟨fun _ _ => by simp,
      (List.nodup_range _).pairwise_of_forall_ne fun _ _ _ _ differ tag first second => by
        simp only [List.mem_cons, List.not_mem_nil, or_false] at first second
        rcases first with rfl | rfl <;> rcases second with same | same <;>
          exact differ (Prod.ext_iff.mp same).1⟩
    have covered : ∀ entry ∈ pass.1, entry.2 ∈ tags :=
      @forEachChoice_tags _ _ (· ∈ tags) (fun _ choice tag examined => by
        unfold examineDesignated at examined
        split at examined
        · obtain ⟨index, found, rfl⟩ := Option.map_eq_some'.mp examined
          have bound : index < designatedNominalTypes.length := by
            unfold List.indexOf? at found
            exact (List.findIdx?_eq_some_iff_getElem.mp found).1
          simp only [tags, List.mem_flatMap, List.mem_range]
          exact ⟨index, bound, by cases ‹Bool› <;> simp⟩
        · cases examined) 0 choices taken
    obtain ⟨partitioned', ordering⟩ := foldl_appendPartition (tags.map (filedUnder pass.1))
      partitioned
    dsimp only
    rw [fold]
    refine ⟨partitioned', _, ordering, ?_⟩
    exact ((flatten_filedUnder_perm tags pass.1 tagsDistinct covered).append_right _).trans
      (forEachChoice_perm _ choices taken distinct)

/-! ## The ordering -/

theorem untaken_nil_map (choices : List Choice) :
    (untaken 0 choices []).map (·.1) = List.range choices.length := by
  simp [untaken, List.enumFrom_map_fst, List.range_eq_range']

theorem isDisabled_favorConstraint (cs : ConstraintSystem) (favored constraint : Nat) :
    ((cs.favorConstraint favored).constraints constraint).isDisabled =
      (cs.constraints constraint).isDisabled := by
  by_cases same : constraint = favored <;>
    simp [ConstraintSystem.favorConstraint, ConstraintSystem.setFlags, same]

/-- The first pass files as disabled exactly the disabled choices. -/
theorem filedUnder_disabled (cs : ConstraintSystem) (choices : List Choice)
    (distinct : (choices.map (·.constraint)).Nodup) :
    filedUnder (forEachChoice (examineDisabledOrFavored cs) 0 choices []).1 true =
      disabledChoices cs choices := by
  have entries : untaken 0 choices [] = choices.enum := by simp [untaken, List.enum_eq_enumFrom]
  rw [(forEachChoice_spec _ 0 choices [] distinct).1, disabledChoices, entries]
  induction choices.enum with
  | nil => rfl
  | cons entry rest ih =>
    simp only [filedUnder, examineDisabledOrFavored, List.filterMap_cons, List.filter_cons] at ih ⊢
    split_ifs <;> simp_all

theorem partitionDisjunction_orders_every_choice (context : PartitionContext)
    (cs : ConstraintSystem) (choices : List Choice) (nonempty : choices ≠ [])
    (distinct : (choices.map (·.constraint)).Nodup) :
    ∃ ordering partitionBeginning favoredSystem,
      partitionDisjunction context cs choices = some (ordering, partitionBeginning, favoredSystem) ∧
      ordering.Perm (List.range choices.length) ∧
      partitionBeginning.Pairwise (· < ·) ∧ partitionBeginning.head? = some 0 ∧
      (∀ beginning ∈ partitionBeginning, beginning < choices.length) ∧
      (disabledChoices cs choices ≠ [] → ∃ enabled,
        ordering = enabled ++ disabledChoices cs choices ∧
          partitionBeginning.getLast? = some enabled.length) := by
  obtain ⟨first, rest, rfl⟩ := List.exists_cons_of_ne_nil nonempty
  let favoredSystem := match tryOptimizeGenericDisjunction context cs (first :: rest) with
    | some favored => cs.favorConstraint favored.constraint
    | none => cs
  let disabledOrFavored :=
    forEachChoice (examineDisabledOrFavored favoredSystem) 0 (first :: rest) []
  let unavailable := if !context.shouldAttemptFixes then
      forEachChoice examineUnavailable 0 (first :: rest) disabledOrFavored.2
    else ([], disabledOrFavored.2)
  let simdOperators :=
    if !context.solverEnableOperatorDesignatedTypes && first.isOperatorBindOverload then
      forEachChoice examineSIMDOperator 0 (first :: rest) unavailable.2
    else ([], unavailable.2)
  let designated :=
    if context.solverEnableOperatorDesignatedTypes && first.isOperatorBindOverload then
      partitionForDesignatedTypes (context.designatedNominalTypes first) (first :: rest)
        simdOperators.2 ([], [])
    else (simdOperators.2, ([], []))
  let everythingElse := forEachChoice (fun _ _ => some ()) 0 (first :: rest) designated.1
  let partitions := [filedUnder disabledOrFavored.1 false, everythingElse.1.map (·.1),
    simdOperators.1.map (·.1), unavailable.1.map (·.1),
    filedUnder disabledOrFavored.1 true].foldl appendPartition designated.2
  have result : partitionDisjunction context cs (first :: rest) =
      if partitions.1.length = (first :: rest).length then
        some (partitions.1, partitions.2, favoredSystem) else none := rfl
  let enabledPartitions := [filedUnder disabledOrFavored.1 false, everythingElse.1.map (·.1),
    simdOperators.1.map (·.1), unavailable.1.map (·.1)].foldl appendPartition designated.2
  have lastAppended : partitions =
      appendPartition enabledPartitions (filedUnder disabledOrFavored.1 true) := rfl
  -- each pass takes what it files out of what the passes before it left
  have byFirstPass : (disabledOrFavored.1.map (·.1) ++
      (untaken 0 (first :: rest) disabledOrFavored.2).map (·.1)).Perm
      ((untaken 0 (first :: rest) []).map (·.1)) :=
    forEachChoice_perm _ _ [] distinct
  have byUnavailable : (unavailable.1.map (·.1) ++
      (untaken 0 (first :: rest) unavailable.2).map (·.1)).Perm
      ((untaken 0 (first :: rest) disabledOrFavored.2).map (·.1)) :=
    ite_forEachChoice_perm examineUnavailable _ _ _ distinct
  have bySIMD : (simdOperators.1.map (·.1) ++
      (untaken 0 (first :: rest) simdOperators.2).map (·.1)).Perm
      ((untaken 0 (first :: rest) unavailable.2).map (·.1)) :=
    ite_forEachChoice_perm examineSIMDOperator _ _ _ distinct
  have byDesignated : Partitioned designated.2 ∧ ∃ found, designated.2.1 = found ∧
      (found ++ (untaken 0 (first :: rest) designated.1).map (·.1)).Perm
        ((untaken 0 (first :: rest) simdOperators.2).map (·.1)) := by
    by_cases designatedTypes :
        (context.solverEnableOperatorDesignatedTypes && first.isOperatorBindOverload) = true
    · simpa [designated, designatedTypes] using partitionForDesignatedTypes_spec
        (context.designatedNominalTypes first) _ simdOperators.2 Partitioned.empty distinct
    · simpa [designated, designatedTypes] using Partitioned.empty
  obtain ⟨partitioned, found, designatedOrdering, byDesignatedTypes⟩ := byDesignated
  have byEverythingElse : (everythingElse.1.map (·.1)).Perm
      ((untaken 0 (first :: rest) designated.1).map (·.1)) :=
    everythingElse_perm _ _ distinct
  have byTag : (filedUnder disabledOrFavored.1 false ++ filedUnder disabledOrFavored.1 true).Perm
      (disabledOrFavored.1.map (·.1)) := by
    simpa using flatten_filedUnder_perm [false, true] disabledOrFavored.1 (by decide)
      fun entry _ => by cases entry.2 <;> simp
  obtain ⟨partitioned', ordering⟩ := foldl_appendPartition [filedUnder disabledOrFavored.1 false,
    everythingElse.1.map (·.1), simdOperators.1.map (·.1), unavailable.1.map (·.1),
    filedUnder disabledOrFavored.1 true] partitioned
  have permutation : partitions.1.Perm (List.range (first :: rest).length) := by
    rw [← untaken_nil_map, show partitions.1 = _ from ordering, designatedOrdering,
      List.perm_iff_count]
    intro index
    replace byFirstPass := byFirstPass.count_eq index
    replace byUnavailable := byUnavailable.count_eq index
    replace bySIMD := bySIMD.count_eq index
    replace byDesignatedTypes := byDesignatedTypes.count_eq index
    replace byEverythingElse := byEverythingElse.count_eq index
    replace byTag := byTag.count_eq index
    simp only [List.count_append, List.flatten_cons, List.flatten_nil, List.append_nil] at *
    omega
  have length : partitions.1.length = (first :: rest).length := by
    simpa using permutation.length_eq
  -- the first pass files the disabled choices, which the favoring leaves as they are
  have lastPartition : filedUnder disabledOrFavored.1 true = disabledChoices cs (first :: rest) := by
    refine (filedUnder_disabled favoredSystem _ distinct).trans ?_
    simp only [favoredSystem]
    split <;> simp [disabledChoices, isDisabled_favorConstraint]
  have orderingNonempty : partitions.1 ≠ [] := fun empty => by simp [empty] at length
  rw [result, if_pos length]
  refine ⟨_, _, _, rfl, permutation, partitioned'.increasing,
    partitioned'.startsAtZero orderingNonempty,
    fun beginning mem => length ▸ partitioned'.bounded beginning mem,
    fun disabled => ⟨enabledPartitions.1, ?_⟩⟩
  have nonempty : (disabledChoices cs (first :: rest)).isEmpty = false := by
    simpa [List.isEmpty_iff] using disabled
  simp [lastAppended, appendPartition, lastPartition, nonempty]

/-- A disabled, a favored and a plain choice: the favored one comes first, the disabled one
last. -/
theorem partitionDisjunction_orders_favored_disabled :
    [(⟨1, true, none, false, false, false, false, none⟩ : Choice),
      ⟨2, true, none, false, false, false, false, none⟩,
      ⟨3, true, none, false, false, false, false, none⟩] ≠ [] ∧
    ([(⟨1, true, none, false, false, false, false, none⟩ : Choice),
      ⟨2, true, none, false, false, false, false, none⟩,
      ⟨3, true, none, false, false, false, false, none⟩].map (·.constraint)).Nodup ∧
    ∃ ordering partitionBeginning favoredSystem,
      partitionDisjunction ⟨false, false, fun _ => [], fun _ _ => .unordered⟩
        { ConstraintSystem.empty .trivial with
          constraints := fun constraint => ⟨false, constraint == 1, constraint == 2⟩ }
        [⟨1, true, none, false, false, false, false, none⟩,
          ⟨2, true, none, false, false, false, false, none⟩,
          ⟨3, true, none, false, false, false, false, none⟩] =
        some (ordering, partitionBeginning, favoredSystem) ∧
      ordering.Perm (List.range 3) ∧
      partitionBeginning.Pairwise (· < ·) ∧ partitionBeginning.head? = some 0 ∧
      (∀ beginning ∈ partitionBeginning, beginning < 3) ∧
      (disabledChoices { ConstraintSystem.empty .trivial with
          constraints := fun constraint => ⟨false, constraint == 1, constraint == 2⟩ }
          [⟨1, true, none, false, false, false, false, none⟩,
            ⟨2, true, none, false, false, false, false, none⟩,
            ⟨3, true, none, false, false, false, false, none⟩] ≠ [] →
        ∃ enabled, ordering = enabled ++ disabledChoices { ConstraintSystem.empty .trivial with
          constraints := fun constraint => ⟨false, constraint == 1, constraint == 2⟩ }
          [⟨1, true, none, false, false, false, false, none⟩,
            ⟨2, true, none, false, false, false, false, none⟩,
            ⟨3, true, none, false, false, false, false, none⟩] ∧
          partitionBeginning.getLast? = some enabled.length) :=
  ⟨by decide, by decide, partitionDisjunction_orders_every_choice _ _ _ (by decide) (by decide)⟩

example : (partitionDisjunction ⟨false, false, fun _ => [], fun _ _ => .unordered⟩
    { ConstraintSystem.empty .trivial with
      constraints := fun constraint => ⟨false, constraint == 1, constraint == 2⟩ }
    [⟨1, true, none, false, false, false, false, none⟩,
      ⟨2, true, none, false, false, false, false, none⟩,
      ⟨3, true, none, false, false, false, false, none⟩]).map (fun result => (result.1, result.2.1)) =
    some ([1, 2, 0], [0, 1, 2]) := rfl

end Constraints
