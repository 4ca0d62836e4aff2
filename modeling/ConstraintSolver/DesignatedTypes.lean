import ConstraintSolver.GraphWalk
import ConstraintSolver.Partition

/-! # Sorting the designated types of an operator

`ConstraintSystem::sortDesignatedTypes` reorders the designated nominal types of an operator
before `partitionForDesignatedTypes` files its overloads under them. It takes the argument
information of the first application of the operator that has argument types or literal
protocols. A first loop moves, for each argument type in turn, the first designated type that
is the argument's nominal type or a protocol it conforms to into the next front position. Unless
at most one position is left, a second loop does the same for the nominal default type of each
literal protocol, searching from one past the next front position.

Both loops only swap a position at or after the next front position into it, so the sort is a
permutation and never moves what it already placed. The designated-type pass of
`partitionDisjunction` therefore takes the same choices in whatever order the sort leaves the
types (`Constraints.sortDesignatedTypes_reorders_only`), and the first designated type matched
by the first argument type comes first (`Constraints.sortDesignatedTypes_first_argument`). The
second loop never looks at the next front position itself, so a literal's default type that
already stands there is overtaken by the default type of a later literal
(`Constraints.literalLoop_overtakes_placed_default`).
-/

namespace Constraints

open scoped List

/-- What `sortDesignatedTypes` reads of the type checker; declarations are ids. -/
structure DesignatedTypeContext where
  /-- `isa<ProtocolDecl>` of a nominal type declaration. -/
  isProtocol : Nat → Bool
  /-- `TypeChecker::conformsToProtocol(type, protocol, DC)` finds a conformance. -/
  conformsToProtocol : Ty → Nat → Bool
  /-- `TypeChecker::getDefaultType(protocol, DC)`, `none` for a null type. -/
  defaultType : Nat → Option Ty

/-! ## The model -/

/-- `std::swap(nominalTypes[i], nominalTypes[j])`, for positions in bounds. -/
def swapAt (types : List Nat) (i j : Nat) : List Nat :=
  (types.set i (types.getD j 0)).set j (types.getD i 0)

/-- The inner loop of both loops of `sortDesignatedTypes` on the pair `(nominalTypes, nextType)`:
the first position `i` from `start` on whose designated type `isMatch` is swapped into position
`nextType`, which then advances, and the loop breaks; without a match nothing changes. -/
def swapFirstMatch (isMatch : Nat → Bool) (start : Nat) (sorted : List Nat × Nat) :
    List Nat × Nat :=
  match (List.range' start (sorted.1.length - start)).find? fun i => isMatch (sorted.1.getD i 0) with
  | some i => (swapAt sorted.1 sorted.2 i, sorted.2 + 1)
  | none => sorted

/-- The test of the first loop: the argument type's nominal type is the designated type, or the
designated type is a protocol the argument type conforms to. -/
def matchesArgumentType (context : DesignatedTypeContext) (argType : Ty) (decl : Nat) : Bool :=
  argType.anyNominal == some decl ||
    (context.isProtocol decl && context.conformsToProtocol argType decl)

/-- One iteration of the second loop: a literal protocol without a default type is skipped;
otherwise the search for its default type's nominal starts one past `nextType`. -/
def swapDefaultType (context : DesignatedTypeContext) (sorted : List Nat × Nat) (protocol : Nat) :
    List Nat × Nat :=
  match context.defaultType protocol with
  | none => sorted
  | some defaultType =>
    swapFirstMatch (fun decl => defaultType.anyNominal == some decl) (sorted.2 + 1) sorted

/-- `ConstraintSystem::sortDesignatedTypes`, given what `ArgumentInfoCollector` collects for each
applicable function `gatherConstraints` finds for the operator's type variable, in its order. -/
def sortDesignatedTypes (context : DesignatedTypeContext) (applicableFns : List ArgumentInfo)
    (nominalTypes : List Nat) : List Nat :=
  match applicableFns.find? fun argInfo =>
      !argInfo.types.isEmpty || !argInfo.literalProtocols.isEmpty with
  | none => nominalTypes
  | some argInfo =>
    let byArguments := argInfo.types.foldl (fun sorted argType =>
      swapFirstMatch (matchesArgumentType context argType) sorted.2 sorted) (nominalTypes, 0)
    if byArguments.2 + 1 ≥ byArguments.1.length then byArguments.1
    else (argInfo.literalProtocols.foldl (swapDefaultType context) byArguments).1

/-! ## Swapping two positions -/

section
variable {types : List Nat} {i j : Nat}

@[simp] theorem swapAt_length : (swapAt types i j).length = types.length := by
  simp [swapAt]

theorem swapAt_getElem?_of_ne {k : Nat} (left : k ≠ i) (right : k ≠ j) :
    (swapAt types i j)[k]? = types[k]? := by
  simp [swapAt, List.getElem?_set, Ne.symm left, Ne.symm right]

theorem swapAt_getElem?_left (front : i < types.length) :
    (swapAt types i j)[i]? = some (types.getD j 0) := by
  by_cases same : j = i
  · subst same
    simp [swapAt, List.getElem?_set, front, List.getD_eq_getElem?_getD]
  · rw [swapAt, List.getElem?_set, if_neg same, List.getElem?_set, if_pos rfl, if_pos front]

theorem swapAt_getElem?_right (back : j < types.length) :
    (swapAt types i j)[j]? = some (types.getD i 0) := by
  simp [swapAt, List.getElem?_set, back]

/-- Swapping two positions in bounds is a permutation: each value loses one occurrence and gains
one back. -/
theorem swapAt_perm (left : i < types.length) (right : j < types.length) :
    (swapAt types i j).Perm types := by
  have valueI : types.getD i 0 = types[i] := by simp [List.getD_eq_getElem?_getD, left]
  have valueJ : types.getD j 0 = types[j] := by simp [List.getD_eq_getElem?_getD, right]
  have rightSet : j < (types.set i types[j]).length := by simpa using right
  have atJ : (types.set i types[j])[j] = types[j] := by
    rw [List.getElem_set]
    split <;> simp_all
  refine List.perm_iff_count.mpr fun value => ?_
  have presentI : (if types[i] == value then 1 else 0) ≤ types.count value := by
    split
    · exact List.count_pos_iff.mpr (beq_iff_eq.mp ‹_› ▸ List.getElem_mem left)
    · exact Nat.zero_le _
  rw [swapAt, valueI, valueJ, List.count_set _ _ _ _ rightSet, atJ, List.count_set _ _ _ _ left]
  omega

end

/-! ## What one search does -/

/-- What an iteration of either loop keeps: it permutes the types, advances `nextType` within
bounds, and leaves the positions before `nextType` alone. -/
structure Keeps (sorted sorted' : List Nat × Nat) : Prop where
  perm : sorted'.1.Perm sorted.1
  advances : sorted.2 ≤ sorted'.2
  inBounds : sorted'.2 ≤ sorted'.1.length
  placed : ∀ k < sorted.2, sorted'.1[k]? = sorted.1[k]?

theorem Keeps.refl {sorted : List Nat × Nat} (inBounds : sorted.2 ≤ sorted.1.length) :
    Keeps sorted sorted :=
  ⟨.refl _, le_rfl, inBounds, fun _ _ => rfl⟩

theorem Keeps.trans {sorted sorted' sorted'' : List Nat × Nat} (first : Keeps sorted sorted')
    (second : Keeps sorted' sorted'') : Keeps sorted sorted'' where
  perm := second.perm.trans first.perm
  advances := first.advances.trans second.advances
  inBounds := second.inBounds
  placed k below := (second.placed k (Nat.lt_of_lt_of_le below first.advances)).trans
    (first.placed k below)

/-- The position a search finds lies in its range and matches. -/
theorem find?_range'_spec {isMatch : Nat → Bool} {types : List Nat} {start i : Nat}
    (found : (List.range' start (types.length - start)).find?
      (fun i => isMatch (types.getD i 0)) = some i) :
    start ≤ i ∧ i < types.length ∧ isMatch (types.getD i 0) = true := by
  have member := List.mem_range'_1.mp (List.mem_of_find?_eq_some found)
  have isMatched := List.find?_some found
  exact ⟨member.1, by omega, isMatched⟩

/-- **Step lemma**: a search from `nextType` or later keeps the sort's invariant, and a match
lands at the old `nextType`. -/
theorem swapFirstMatch_keeps {isMatch : Nat → Bool} {start : Nat} {sorted : List Nat × Nat}
    (after : sorted.2 ≤ start) (inBounds : sorted.2 ≤ sorted.1.length) :
    Keeps sorted (swapFirstMatch isMatch start sorted) := by
  unfold swapFirstMatch
  split
  next i found =>
    obtain ⟨fromStart, below, _⟩ := find?_range'_spec found
    exact ⟨swapAt_perm (by omega) below, Nat.le_succ _, by simp only [swapAt_length]; omega,
      fun k front => swapAt_getElem?_of_ne (by omega) (by omega)⟩
  next => exact .refl inBounds

/-- **Run lemma**: a loop whose every iteration keeps the invariant keeps it. -/
theorem foldl_keeps {α : Type} (step : List Nat × Nat → α → List Nat × Nat)
    (keeps : ∀ sorted element, sorted.2 ≤ sorted.1.length → Keeps sorted (step sorted element)) :
    ∀ (elements : List α) (sorted : List Nat × Nat), sorted.2 ≤ sorted.1.length →
      Keeps sorted (elements.foldl step sorted)
  | [], _, inBounds => .refl inBounds
  | element :: rest, sorted, inBounds =>
    have first := keeps sorted element inBounds
    first.trans (foldl_keeps step keeps rest _ first.inBounds)

section
variable (context : DesignatedTypeContext)

theorem argumentLoop_keeps (types : List Ty) (sorted : List Nat × Nat)
    (inBounds : sorted.2 ≤ sorted.1.length) :
    Keeps sorted (types.foldl (fun sorted argType =>
      swapFirstMatch (matchesArgumentType context argType) sorted.2 sorted) sorted) :=
  foldl_keeps _ (fun _ _ inBounds => swapFirstMatch_keeps le_rfl inBounds) types sorted inBounds

theorem literalLoop_keeps (protocols : List Nat) (sorted : List Nat × Nat)
    (inBounds : sorted.2 ≤ sorted.1.length) :
    Keeps sorted (protocols.foldl (swapDefaultType context) sorted) :=
  foldl_keeps _ (fun sorted protocol inBounds => by
    unfold swapDefaultType
    split
    · exact .refl inBounds
    · exact swapFirstMatch_keeps (Nat.le_succ _) inBounds) protocols sorted inBounds

/-- The sort is a permutation of the designated types. -/
theorem sortDesignatedTypes_perm (applicableFns : List ArgumentInfo) (nominalTypes : List Nat) :
    (sortDesignatedTypes context applicableFns nominalTypes).Perm nominalTypes := by
  unfold sortDesignatedTypes
  split
  · exact .refl _
  · next argInfo _ =>
    have byArguments := argumentLoop_keeps context argInfo.types (nominalTypes, 0)
      (Nat.zero_le _)
    dsimp only
    split
    · exact byArguments.perm
    · exact (literalLoop_keeps context _ _ byArguments.inBounds).perm.trans byArguments.perm

end

/-! ## The designated-type pass does not depend on the order -/

/-- Which choices a pass takes depends only on whether `examine` files them, not on the tag. -/
theorem forEachChoice_taken_congr {Tag Tag' : Type} {examine : Nat → Choice → Option Tag}
    {examine' : Nat → Choice → Option Tag'}
    (same : ∀ index choice, (examine index choice).isSome = (examine' index choice).isSome) :
    ∀ (index : Nat) (choices : List Choice) (taken : List Nat),
      (forEachChoice examine index choices taken).2 = (forEachChoice examine' index choices taken).2
  | _, [], _ => rfl
  | index, choice :: rest, taken => by
    have sameHere := same index choice
    simp only [forEachChoice]
    split
    · exact forEachChoice_taken_congr same _ rest taken
    · cases examined : examine index choice <;> cases examined' : examine' index choice <;>
        simp only [examined, examined', Option.isSome_none, Option.isSome_some, reduceCtorEq]
          at sameHere ⊢
      · exact forEachChoice_taken_congr same _ rest taken
      · exact forEachChoice_taken_congr same _ rest _

theorem isSome_indexOf? {types : List Nat} {decl : Nat} :
    (types.indexOf? decl).isSome = decide (decl ∈ types) := by
  cases found : types.indexOf? decl
  · simp only [Option.isSome_none, Bool.false_eq, decide_eq_false_iff_not]
    exact fun member => List.indexOf?_eq_none_iff.mp found decl member (beq_self_eq_true decl)
  · simp only [Option.isSome_some, true_eq_decide_iff]
    by_contra missing
    have absent : types.indexOf? decl = none := List.indexOf?_eq_none_iff.mpr fun x member same =>
      missing (by rwa [beq_iff_eq.mp same] at member)
    simp [absent] at found

/-- A designated type files a choice under some index exactly when it is among the types. -/
theorem examineDesignated_isSome_of_perm {designated designated' : List Nat}
    (perm : designated.Perm designated') (index : Nat) (choice : Choice) :
    (examineDesignated designated index choice).isSome =
      (examineDesignated designated' index choice).isSome := by
  unfold examineDesignated
  split
  · simp only [Option.isSome_map', isSome_indexOf?, perm.mem_iff]
  · rfl

/-- **Sorting only reorders.** `sortDesignatedTypes` returns a permutation of the designated
types, so the designated-type pass of `partitionDisjunction` takes the same choices whatever order
the sort leaves them in: the sort moves overloads between the designated partitions, never into
or out of them. -/
theorem sortDesignatedTypes_reorders_only (context : DesignatedTypeContext)
    (applicableFns : List ArgumentInfo) (nominalTypes : List Nat) :
    (sortDesignatedTypes context applicableFns nominalTypes).Perm nominalTypes ∧
      ∀ choices taken partitions,
        (partitionForDesignatedTypes (sortDesignatedTypes context applicableFns nominalTypes)
          choices taken partitions).1 =
          (partitionForDesignatedTypes nominalTypes choices taken partitions).1 := by
  have perm := sortDesignatedTypes_perm context applicableFns nominalTypes
  refine ⟨perm, fun choices taken partitions => ?_⟩
  unfold partitionForDesignatedTypes
  rw [perm.isEmpty_eq]
  split
  · rfl
  · exact forEachChoice_taken_congr (examineDesignated_isSome_of_perm perm) 0 choices taken

/-! ## The first argument type goes first -/

/-- The first position matched from zero on holds the first type that matches. -/
theorem find?_range'_zero (isMatch : Nat → Bool) :
    ∀ types : List Nat, ((List.range' 0 types.length).find? fun i => isMatch (types.getD i 0)).map
      (types.getD · 0) = types.find? isMatch
  | [] => rfl
  | decl :: rest => by
    have shifted := find?_range'_zero isMatch rest
    have shift : List.range' 1 rest.length = (List.range' 0 rest.length).map (· + 1) := by
      simp [List.range'_eq_map_range, Function.comp_def, Nat.add_comm]
    rw [List.length_cons, List.range'_succ, List.find?_cons]
    simp only [List.getD_cons_zero, List.find?_cons]
    split
    · rfl
    · rw [Nat.zero_add, shift, List.find?_map, Option.map_map]
      simpa [Function.comp_def, List.getD_cons_succ] using shifted

/-- **The first argument type goes first.** When the applicable function the sort reads has a
first argument type and some designated type matches it, the sorted list begins with the first
designated type that matches: later argument types and the literal protocols only swap at later
positions. -/
theorem sortDesignatedTypes_first_argument {context : DesignatedTypeContext}
    {applicableFns : List ArgumentInfo} {nominalTypes : List Nat} {argInfo : ArgumentInfo}
    {argType : Ty} {laterTypes : List Ty} {decl : Nat}
    (found : applicableFns.find? (fun argInfo =>
      !argInfo.types.isEmpty || !argInfo.literalProtocols.isEmpty) = some argInfo)
    (firstType : argInfo.types = argType :: laterTypes)
    (firstMatch : nominalTypes.find? (matchesArgumentType context argType) = some decl) :
    (sortDesignatedTypes context applicableFns nominalTypes).head? = some decl := by
  obtain ⟨i, foundAt, rfl⟩ := Option.map_eq_some'.mp
    ((find?_range'_zero (matchesArgumentType context argType) nominalTypes).trans firstMatch)
  have first : swapFirstMatch (matchesArgumentType context argType) 0 (nominalTypes, 0) =
      (swapAt nominalTypes 0 i, 1) := by
    simp only [swapFirstMatch, Nat.sub_zero, foundAt]
  have inBounds := (@find?_range'_spec _ _ 0 _ (by simpa using foundAt)).2.1
  have atFront : (swapAt nominalTypes 0 i)[0]? = some (nominalTypes.getD i 0) :=
    swapAt_getElem?_left (Nat.lt_of_le_of_lt (Nat.zero_le _) inBounds)
  have later := argumentLoop_keeps context laterTypes (swapAt nominalTypes 0 i, 1)
    (by simp only [swapAt_length]; omega)
  have byArguments := later.placed 0 Nat.one_pos
  rw [List.head?_eq_getElem?, sortDesignatedTypes, found]
  simp only [firstType, List.foldl_cons, first]
  split
  · rw [byArguments, atFront]
  · rw [(literalLoop_keeps context _ _ later.inBounds).placed 0 (Nat.lt_of_lt_of_le Nat.one_pos
      later.advances), byArguments, atFront]

/-- Integer and floating-point literals: `ExpressibleByIntegerLiteral` (protocol 10) defaults to
`Int` (1) and `ExpressibleByFloatLiteral` (protocol 11) to `Double` (3). -/
def integerThenFloat : DesignatedTypeContext where
  isProtocol := fun _ => false
  conformsToProtocol := fun _ _ => false
  defaultType := fun protocol => if protocol = 10 then some (.nominal 1)
    else if protocol = 11 then some (.nominal 3) else none

theorem sortDesignatedTypes_first_argument_double :
    (sortDesignatedTypes integerThenFloat [⟨[.nominal 3], [10], [], []⟩] [1, 2, 3]).head? = some 3 :=
  @sortDesignatedTypes_first_argument integerThenFloat [⟨[.nominal 3], [10], [], []⟩] [1, 2, 3]
    ⟨[.nominal 3], [10], [], []⟩ (.nominal 3) [] 3 rfl rfl rfl

/-! ## The literal loop skips the next front position -/

/-- A search over positions finds the first position that matches. -/
theorem find?_range'_eq_some {isMatch : Nat → Bool} {j : Nat} :
    ∀ {start n : Nat}, start ≤ j → j < start + n → isMatch j = true →
      (∀ i, start ≤ i → i < j → isMatch i = false) → (List.range' start n).find? isMatch = some j
  | _, 0, low, high, _, _ => absurd high (by omega)
  | start, n + 1, low, high, found, before => by
    rw [List.range'_succ, List.find?_cons]
    rcases Nat.eq_or_lt_of_le low with rfl | later
    · rw [found]
    · rw [before start le_rfl later]
      exact find?_range'_eq_some later (by omega) found fun i low' => before i (by omega)

/-- A search over positions of which none matches finds nothing. -/
theorem find?_range'_eq_none {isMatch : Nat → Bool} {start n : Nat}
    (noMatch : ∀ i, start ≤ i → i < start + n → isMatch i = false) :
    (List.range' start n).find? isMatch = none :=
  List.find?_eq_none.mpr fun i member => by
    obtain ⟨low, high⟩ := List.mem_range'_1.mp member
    simp [noMatch i low high]

/-- **A placed literal default is overtaken.** An iteration of the literal loop searches from one
past `nextType`, so a literal whose default type's nominal stands at `nextType` and nowhere after
it leaves the types and `nextType` as they are. A later literal whose default type's nominal
stands after `nextType` is then swapped into position `nextType`, moving the earlier literal's
default type to where it stood, and the rest of the loop keeps it there. -/
theorem literalLoop_overtakes_placed_default {context : DesignatedTypeContext}
    {types : List Nat} {next firstProtocol secondProtocol first second j : Nat}
    {firstDefault secondDefault : Ty} (rest : List Nat)
    (firstIsDefault : context.defaultType firstProtocol = some firstDefault)
    (firstNominal : firstDefault.anyNominal = some first)
    (secondIsDefault : context.defaultType secondProtocol = some secondDefault)
    (secondNominal : secondDefault.anyNominal = some second)
    (atNext : types[next]? = some first)
    (firstNotAfter : ∀ i < types.length, next < i → types[i]? ≠ some first)
    (after : next < j) (secondAt : types[j]? = some second)
    (secondFirstAt : ∀ i < j, next < i → types[i]? ≠ some second) :
    swapDefaultType context (types, next) firstProtocol = (types, next) ∧
      ([firstProtocol, secondProtocol].foldl (swapDefaultType context) (types, next)).1[j]? =
        some first ∧
      ((firstProtocol :: secondProtocol :: rest).foldl (swapDefaultType context)
        (types, next)).1[next]? = some second := by
  have value : ∀ {i}, i < types.length → types[i]? = some (types.getD i 0) := fun inBounds => by
    simp [List.getD_eq_getElem?_getD, inBounds]
  have inBounds : j < types.length := (List.getElem?_eq_some_iff.mp secondAt).1
  have skips : swapDefaultType context (types, next) firstProtocol = (types, next) := by
    simp only [swapDefaultType, firstIsDefault, swapFirstMatch, firstNominal]
    rw [find?_range'_eq_none fun i low high => ?_]
    have differs := firstNotAfter i (by omega) low
    rw [value (by omega)] at differs
    simpa using differs.symm
  have found : swapDefaultType context (types, next) secondProtocol =
      (swapAt types next j, next + 1) := by
    simp only [swapDefaultType, secondIsDefault, swapFirstMatch, secondNominal]
    rw [find?_range'_eq_some after (by omega) ?_ fun i low high => ?_]
    · rw [value inBounds] at secondAt
      simpa using secondAt.symm
    · have differs := secondFirstAt i high low
      rw [value (by omega)] at differs
      simpa using differs.symm
  have placed := (literalLoop_keeps context rest (swapAt types next j, next + 1)
    (by simp only [swapAt_length]; omega)).placed next (Nat.lt_succ_self _)
  refine ⟨skips, ?_, ?_⟩
  · rw [List.foldl_cons, List.foldl_cons, skips, found, List.foldl_nil, swapAt_getElem?_right inBounds,
      ← value (by omega), atNext]
  · rw [List.foldl_cons, List.foldl_cons, skips, found, placed, swapAt_getElem?_left (by omega),
      ← value inBounds, secondAt]

theorem literalLoop_overtakes_placed_default_integerThenFloat :
    swapDefaultType integerThenFloat ([1, 2, 3], 0) 10 = ([1, 2, 3], 0) ∧
      ([10, 11].foldl (swapDefaultType integerThenFloat) ([1, 2, 3], 0)).1[2]? = some 1 ∧
      ([10, 11].foldl (swapDefaultType integerThenFloat) ([1, 2, 3], 0)).1[0]? = some 3 :=
  @literalLoop_overtakes_placed_default integerThenFloat [1, 2, 3] 0 10 11 1 3 2 (.nominal 1)
    (.nominal 3) [] rfl rfl rfl rfl rfl (by decide) (by decide) rfl (by decide)

end Constraints
