import ConstraintSolver.Operations

/-! # Walks over the constraint graph

Two functions walk the constraint graph from a type variable. `ArgumentInfoCollector::walk`
collects the types converted to an argument type and the literal protocols it conforms to.
It keeps a worklist of types and expands the equivalence class of each type variable it pops
once, through the constraints gathered for its representative. `findConstraintThroughOptionals`
looks for a constraint accepted by a predicate, and follows `OptionalObject` constraints from
one representative to the next, counting them.

Both keep a set of the representatives they have expanded, so cycles among type variables
(through `Bind`, conversion or `OptionalObject` constraints) do not make them loop. Every
representative they meet is a type variable of the argument, of a constraint, or of a fixed
type, or the parent of an allocated type variable. So the walks stop once fuel covers each of
those once (`Constraints.constraintGraph_walks_terminate`). The constraint graph is the list
of the system's constraints; gathering for a representative keeps those that mention a member
of its class, in the list's order.
-/

namespace Constraints

/-- The kinds of constraint the walks tell apart; every other kind is `other`. -/
inductive GraphConstraintKind where
  | literalConformsTo
  | bind
  | equal
  | subtype
  | operatorArgumentConversion
  | argumentConversion
  | conversion
  | bridgingConversion
  | bindParam
  | opaqueUnderlyingType
  | dynamicTypeOf
  | escapableFunctionOf
  | optionalObject
  | keyPathApplication
  | keyPath
  | other (kind : Nat)
  deriving DecidableEq, Repr

/-- A constraint of the graph, with the types and the protocol the walks read. -/
structure GraphConstraint where
  id : Nat
  kind : GraphConstraintKind
  firstType : Ty
  secondType : Ty
  thirdType : Ty
  protocol : Nat
  deriving DecidableEq, Repr

/-- The type variables a constraint mentions. -/
def GraphConstraint.typeVariables (constraint : GraphConstraint) : List Nat :=
  constraint.firstType.typeVariables ++ constraint.secondType.typeVariables ++
    constraint.thirdType.typeVariables

theorem GraphConstraint.firstType_subset (constraint : GraphConstraint) :
    constraint.firstType.typeVariables ⊆ constraint.typeVariables :=
  (List.subset_append_left _ _).trans (List.subset_append_left _ _)

theorem GraphConstraint.secondType_subset (constraint : GraphConstraint) :
    constraint.secondType.typeVariables ⊆ constraint.typeVariables :=
  (List.subset_append_right _ _).trans (List.subset_append_left _ _)

theorem GraphConstraint.thirdType_subset (constraint : GraphConstraint) :
    constraint.thirdType.typeVariables ⊆ constraint.typeVariables :=
  List.subset_append_right _ _

/-- `Type::getAs<TypeVariableType>`. -/
def Ty.asTypeVariable : Ty → Option Nat
  | .typeVariable v => some v
  | _ => none

/-- `TypeBase::getRValueType`: `@lvalue` types replaced by their object types. -/
def Ty.getRValueType : Ty → Ty
  | .lvalue objectType => objectType
  | .boundGeneric base argument => .boundGeneric base.getRValueType argument.getRValueType
  | .function input result => .function input.getRValueType result.getRValueType
  | .dependentMember base assocType => .dependentMember base.getRValueType assocType
  | .inOut objectType => .inOut objectType.getRValueType
  | .dynamicSelf selfType => .dynamicSelf selfType.getRValueType
  | type => type

/-- `TypeBase::getOptionalObjectType`, for the declaration of `Optional`. -/
def Ty.getOptionalObjectType (optionalDecl : Nat) : Ty → Option Ty
  | .boundGeneric (.nominal decl) objectType => if decl = optionalDecl then some objectType else none
  | _ => none

section
variable (cs : ConstraintSystem) (constraints : List GraphConstraint) (optionalDecl : Nat)

/-- Whether a constraint mentions a member of the class of `rep`. -/
def mentionsClassOf (rep : Nat) (constraint : GraphConstraint) : Bool :=
  constraint.typeVariables.any fun v => cs.getRepresentative v == some rep

/-- `ConstraintGraph::gatherConstraints` with `EquivalenceClass`. -/
def gatherEquivalenceClass (rep : Nat) : List GraphConstraint :=
  constraints.filter (mentionsClassOf cs rep)

/-! ## `ArgumentInfoCollector::walk` -/

/-- The state of `ArgumentInfoCollector::walk`: the types and literal protocols collected
(`SetVector`s), the representatives expanded, and the worklist with its back first. -/
structure ArgumentInfo where
  types : List Ty
  literalProtocols : List Nat
  visited : List Nat
  worklist : List Ty
  deriving DecidableEq, Repr

/-- `addType`. -/
def ArgumentInfo.addType (info : ArgumentInfo) (type : Ty) : ArgumentInfo :=
  { info with types := insertNew info.types type }

/-- `worklist.push_back`. -/
def ArgumentInfo.push (info : ArgumentInfo) (type : Ty) : ArgumentInfo :=
  { info with worklist := type :: info.worklist }

/-- The tests `otherRep->isEqual(rep)`: `pushed` goes on the worklist when `tested` is a type
variable of the class of `rep`. -/
def pushIfInClass (rep : Nat) (tested pushed : Ty) (info : ArgumentInfo) : Option ArgumentInfo :=
  match tested with
  | .typeVariable v =>
    (cs.getRepresentative v).map fun otherRep => if otherRep = rep then info.push pushed else info
  | _ => some info

/-- The `fixedTy` of the `OptionalObject` case of `walk`: the first type, or the fixed type of
the type variable it is. -/
def optionalObjectFixedType (firstTy : Ty) : Option (Option Ty) :=
  match firstTy with
  | .typeVariable firstVar => cs.getFixedType firstVar
  | firstTy => some (some firstTy)

/-- The switch of `walk` on one gathered constraint. -/
def collectConstraint (rep : Nat) (info : ArgumentInfo) (constraint : GraphConstraint) :
    Option ArgumentInfo :=
  match constraint.kind with
  | .literalConformsTo =>
    some { info with literalProtocols := insertNew info.literalProtocols constraint.protocol }
  | .bind | .equal =>
    (pushIfInClass cs rep constraint.firstType constraint.secondType info).bind
      (pushIfInClass cs rep constraint.secondType constraint.firstType)
  | .subtype | .operatorArgumentConversion | .argumentConversion | .conversion
  | .bridgingConversion | .bindParam | .opaqueUnderlyingType =>
    pushIfInClass cs rep constraint.secondType constraint.firstType info
  | .dynamicTypeOf | .escapableFunctionOf =>
    pushIfInClass cs rep constraint.firstType constraint.secondType info
  | .optionalObject =>
    match constraint.secondType with
    | .typeVariable secondVar => do
      let otherRep ← cs.getRepresentative secondVar
      if otherRep ≠ rep then some info
      else
        let fixedTy ← optionalObjectFixedType cs constraint.firstType
        match fixedTy.bind (Ty.getOptionalObjectType optionalDecl) with
        | some objectType => some (info.push objectType)
        | none => some info
    | _ => some info
  | .keyPathApplication | .keyPath =>
    pushIfInClass cs rep constraint.firstType constraint.thirdType info
  | .other _ => some info

/-- One iteration of `walk` on the type it popped. -/
def walkItem (info : ArgumentInfo) (item : Ty) : Option ArgumentInfo :=
  match item.getRValueType with
  | .typeVariable tyvar => do
    match ← cs.getFixedType tyvar with
    | some fixedTy => some (info.addType fixedTy)
    | none =>
      let rep ← cs.getRepresentative tyvar
      if rep ∈ info.visited then some info
      else
        (gatherEquivalenceClass cs constraints rep).foldlM (collectConstraint cs optionalDecl rep)
          { info with visited := info.visited ++ [rep] }
  | itemTy => some (info.addType itemTy)

/-- The loop of `walk`, with fuel. -/
def walkLoop : Nat → ArgumentInfo → Option ArgumentInfo
  | 0, _ => none
  | fuel + 1, info =>
    match info.worklist with
    | [] => some info
    | item :: rest => (walkItem cs constraints optionalDecl { info with worklist := rest } item).bind
        (walkLoop fuel)

/-- `ArgumentInfoCollector::walk`, with fuel; `none` when the fuel runs out. -/
def ArgumentInfoCollector.walk (fuel : Nat) (argType : Ty) : Option ArgumentInfo :=
  walkLoop cs constraints optionalDecl fuel ⟨[], [], [], [argType]⟩

/-! ## `findConstraintThroughOptionals` -/

/-- `OptionalWrappingDirection`. -/
inductive OptionalWrappingDirection where
  | promote
  | unwrap
  deriving DecidableEq, Repr

/-- One case of the switch on `optionalDirection`: when `fromType` is a type variable of the
class of `rep`, `optionalObjectTypeVar` becomes `toType` if it is a type variable, and null
otherwise. -/
def followOptional (rep : Nat) (fromType toType : Ty) (optionalObjectTypeVar : Option Nat) :
    Option (Option Nat) :=
  match fromType with
  | .typeVariable fromVar =>
    (cs.getRepresentative fromVar).map fun fromRep =>
      if fromRep = rep then toType.asTypeVariable else optionalObjectTypeVar
  | _ => some optionalObjectTypeVar

/-- The callback of `gatherConstraints` in `findConstraintThroughOptionals` on one constraint,
with the constraints accepted so far and `optionalObjectTypeVar`. -/
def acceptConstraint (direction : OptionalWrappingDirection)
    (predicate : GraphConstraint → Nat → Bool) (rep : Nat)
    (state : List GraphConstraint × Option Nat) (constraint : GraphConstraint) :
    Option (List GraphConstraint × Option Nat) :=
  if constraint.kind ≠ .optionalObject then
    some (if predicate constraint rep then state.1 ++ [constraint] else state.1, state.2)
  else
    let followed := match direction with
      | .promote => followOptional cs rep constraint.secondType constraint.firstType state.2
      | .unwrap => followOptional cs rep constraint.firstType constraint.secondType state.2
    followed.map fun optionalObjectTypeVar => (state.1, optionalObjectTypeVar)

/-- The gathering at one representative: the constraints accepted, and the type variable the
last `OptionalObject` constraint that leads out of the class points to. -/
def gatherThroughOptional (direction : OptionalWrappingDirection)
    (predicate : GraphConstraint → Nat → Bool) (rep : Nat) :
    Option (List GraphConstraint × Option Nat) :=
  (gatherEquivalenceClass cs constraints rep).foldlM (acceptConstraint cs direction predicate rep)
    ([], none)

/-- The loop of `findConstraintThroughOptionals` from `rep`, with `numOptionals` and
`visitedVars`, with fuel: the result, and the representatives expanded. -/
def findThroughOptionals (direction : OptionalWrappingDirection)
    (predicate : GraphConstraint → Nat → Bool) :
    Nat → Nat → Nat → List Nat → Option (Option (GraphConstraint × Nat) × List Nat)
  | 0, _, _, _ => none
  | fuel + 1, numOptionals, rep, visitedVars =>
    if rep ∈ visitedVars then some (none, visitedVars)
    else
      let visitedVars := visitedVars ++ [rep]
      (gatherThroughOptional cs constraints direction predicate rep).bind fun
        | (first :: _, _) => some (some (first, numOptionals), visitedVars)
        | ([], some optionalObjectTypeVar) => do
          match ← cs.getFixedType optionalObjectTypeVar with
          | none =>
            let next ← cs.getRepresentative optionalObjectTypeVar
            findThroughOptionals direction predicate fuel (numOptionals + 1) next visitedVars
          | some _ => some (none, visitedVars)
        | ([], none) => some (none, visitedVars)

/-- `ConstraintSystem::findConstraintThroughOptionals`, with fuel: the constraint found, with the
number of `OptionalObject` constraints followed to it. -/
def findConstraintThroughOptionals (fuel typeVar : Nat) (direction : OptionalWrappingDirection)
    (predicate : GraphConstraint → Nat → Bool) : Option (Option (GraphConstraint × Nat)) :=
  (cs.getRepresentative typeVar).bind fun rep =>
    (findThroughOptionals cs constraints direction predicate fuel 0 rep []).map (·.1)

end

/-! ## The representatives a walk can meet -/

@[simp] theorem Ty.typeVariables_getRValueType (type : Ty) :
    type.getRValueType.typeVariables = type.typeVariables := by
  induction type <;> simp [Ty.getRValueType, Ty.typeVariables, *]

theorem Ty.typeVariables_of_getOptionalObjectType {optionalDecl : Nat} {type objectType : Ty}
    (found : type.getOptionalObjectType optionalDecl = some objectType) :
    objectType.typeVariables ⊆ type.typeVariables := by
  unfold Ty.getOptionalObjectType at found
  split at found
  · split at found
    · cases found
      exact List.subset_append_right _ _
    · cases found
  · cases found

theorem Ty.mem_typeVariables_of_asTypeVariable {type : Ty} {v : Nat}
    (found : type.asTypeVariable = some v) : v ∈ type.typeVariables := by
  unfold Ty.asTypeVariable at found
  split at found <;> simp_all [Ty.typeVariables]

/-- The parents the allocated records link to. -/
def Arena.parentTargets (arena : Arena) : List Nat :=
  arena.allocated.filterMap fun u =>
    match (arena.impl u).parentOrFixed with
    | .parent next => some next
    | .fixed _ => none

/-- The type variables of the fixed types the allocated records carry. -/
def Arena.fixedTypeVariables (arena : Arena) : List Nat :=
  arena.allocated.flatMap fun u =>
    match (arena.impl u).parentOrFixed with
    | .fixed type => type.typeVariables
    | .parent _ => []

theorem Arena.getRepresentative_mem_parentTargets {arena : Arena} {v r : Nat}
    (found : arena.getRepresentative v = some r) : r = v ∨ r ∈ arena.parentTargets := by
  rcases (getRepresentative_spec found).1.cases_tail with same | ⟨last, -, link⟩
  · exact .inl same
  · exact .inr (List.mem_filterMap.mpr ⟨last, allocated_of_parentLink link, by simp [link.1]⟩)

theorem Arena.getFixedType_subset_fixedTypeVariables {arena : Arena} {v : Nat} {type : Ty}
    (found : arena.getFixedType v = some (some type)) :
    type.typeVariables ⊆ arena.fixedTypeVariables := by
  obtain ⟨r, -, atRepresentative⟩ := Option.map_eq_some'.mp found
  have fixed := fixedTypeAt_eq_some.mp atRepresentative
  have allocated : r ∈ arena.allocated := by
    by_contra outside
    simp [arena.unallocated r outside, TypeVariableImpl.initial] at fixed
  intro u member
  exact List.mem_flatMap.mpr ⟨r, allocated, by simpa [fixed] using member⟩

section
variable {cs : ConstraintSystem} (representatives : cs.arena.RepresentativesAcyclic)
include representatives

theorem ConstraintSystem.getRepresentative_exists (v : Nat) : ∃ r, cs.getRepresentative v = some r :=
  Option.isSome_iff_exists.mp (Arena.getRepresentative_isSome representatives v)

theorem ConstraintSystem.getFixedType_exists (v : Nat) : ∃ fixedTy, cs.getFixedType v = some fixedTy := by
  obtain ⟨r, found⟩ := ConstraintSystem.getRepresentative_exists representatives v
  exact ⟨_, Option.map_eq_some'.mpr ⟨r, found, rfl⟩⟩

end

theorem nodup_append_singleton {visited : List Nat} {rep : Nat} (unique : visited.Nodup)
    (fresh : rep ∉ visited) : (visited ++ [rep]).Nodup := by
  refine List.pairwise_append.mpr ⟨unique, List.pairwise_singleton _ _, ?_⟩
  rintro r member _ single rfl
  exact fresh (List.mem_singleton.mp single ▸ member)

/-- Marking a representative of `reps` as expanded leaves fewer of `reps` to expand. -/
theorem length_filter_not_mem_append_lt {reps visited : List Nat} {rep : Nat} (member : rep ∈ reps)
    (fresh : rep ∉ visited) :
    (reps.filter fun r => r ∉ visited ++ [rep]).length < (reps.filter fun r => r ∉ visited).length :=
  Arena.length_filter_lt_of_mono (by simp +contextual) ⟨rep, member, by simpa using fresh, by simp⟩

/-! ## `walk` stops -/

/-- `after` keeps the representatives `before` expanded, and adds to its worklist at most `bound`
types, all over `vars`. -/
def ArgumentInfo.PushesAtMost (vars : List Nat) (bound : Nat) (before after : ArgumentInfo) : Prop :=
  after.visited = before.visited ∧ after.worklist.length ≤ before.worklist.length + bound ∧
    ∀ type ∈ after.worklist, type ∈ before.worklist ∨ type.typeVariables ⊆ vars

namespace ArgumentInfo.PushesAtMost

variable {vars : List Nat} {a b : Nat} {info next last : ArgumentInfo}

theorem refl (visited : next.visited = info.visited) (worklist : next.worklist = info.worklist) :
    info.PushesAtMost vars a next :=
  ⟨visited, by simp [worklist], fun type member => .inl (worklist ▸ member)⟩

theorem push {type : Ty} (covered : type.typeVariables ⊆ vars) :
    info.PushesAtMost vars 1 (info.push type) :=
  ⟨rfl, by simp [ArgumentInfo.push], by simp +contextual [ArgumentInfo.push, covered]⟩

theorem trans (first : info.PushesAtMost vars a next) (second : next.PushesAtMost vars b last) :
    info.PushesAtMost vars (a + b) last := by
  refine ⟨second.1.trans first.1, by have := first.2.1; have := second.2.1; omega, fun type member => ?_⟩
  rcases second.2.2 type member with earlier | covered
  · exact first.2.2 type earlier
  · exact .inr covered

theorem mono (pushes : info.PushesAtMost vars a next) (le : a ≤ b) : info.PushesAtMost vars b next :=
  ⟨pushes.1, by have := pushes.2.1; omega, pushes.2.2⟩

theorem covered (pushes : info.PushesAtMost vars a next)
    (covered : ∀ type ∈ info.worklist, type.typeVariables ⊆ vars) :
    ∀ type ∈ next.worklist, type.typeVariables ⊆ vars := fun type member =>
  (pushes.2.2 type member).elim (covered type) id

end ArgumentInfo.PushesAtMost

section
variable {cs : ConstraintSystem} {constraints : List GraphConstraint} {optionalDecl : Nat}
  {vars : List Nat} (representatives : cs.arena.RepresentativesAcyclic)
include representatives

theorem pushIfInClass_pushesAtMost (rep : Nat) (tested : Ty) {pushed : Ty} (info : ArgumentInfo)
    (covered : pushed.typeVariables ⊆ vars) :
    ∃ next, pushIfInClass cs rep tested pushed info = some next ∧ info.PushesAtMost vars 1 next := by
  unfold pushIfInClass
  split
  · next v =>
    obtain ⟨otherRep, found⟩ := ConstraintSystem.getRepresentative_exists representatives v
    simp only [found, Option.map_some', Option.some.injEq, exists_eq_left']
    split_ifs
    · exact .push covered
    · exact .refl rfl rfl
  · exact ⟨info, rfl, .refl rfl rfl⟩

theorem optionalObjectFixedType_exists (firstTy : Ty) :
    ∃ fixedTy, optionalObjectFixedType cs firstTy = some fixedTy ∧
      ∀ type ∈ fixedTy, type.typeVariables ⊆ firstTy.typeVariables ++ cs.arena.fixedTypeVariables := by
  unfold optionalObjectFixedType
  split
  · next firstVar =>
    obtain ⟨fixedTy, found⟩ := ConstraintSystem.getFixedType_exists representatives firstVar
    refine ⟨fixedTy, found, fun type member => ?_⟩
    cases Option.mem_def.mp member
    exact (Arena.getFixedType_subset_fixedTypeVariables found).trans (List.subset_append_right _ _)
  · exact ⟨_, rfl, fun type member => by cases member; exact List.subset_append_left _ _⟩

theorem collectConstraint_pushesAtMost (fixed : cs.arena.fixedTypeVariables ⊆ vars)
    {constraint : GraphConstraint} (mentioned : constraint.typeVariables ⊆ vars) (rep : Nat)
    (info : ArgumentInfo) :
    ∃ next, collectConstraint cs optionalDecl rep info constraint = some next ∧
      info.PushesAtMost vars 2 next := by
  have first := constraint.firstType_subset.trans mentioned
  have second := constraint.secondType_subset.trans mentioned
  have idle : info.PushesAtMost vars 2 info := .refl rfl rfl
  unfold collectConstraint
  split
  case h_1 => exact ⟨_, rfl, .refl rfl rfl⟩
  case h_2 | h_3 =>
    obtain ⟨next, found, pushes⟩ := pushIfInClass_pushesAtMost representatives rep _ info second
    obtain ⟨last, found', pushes'⟩ := pushIfInClass_pushesAtMost representatives rep _ next first
    exact ⟨last, by rw [found]; exact found', pushes.trans pushes'⟩
  case h_4 | h_5 | h_6 | h_7 | h_8 | h_9 | h_10 =>
    obtain ⟨next, found, pushes⟩ := pushIfInClass_pushesAtMost representatives rep _ info first
    exact ⟨next, found, pushes.mono (by decide)⟩
  case h_11 | h_12 =>
    obtain ⟨next, found, pushes⟩ := pushIfInClass_pushesAtMost representatives rep _ info second
    exact ⟨next, found, pushes.mono (by decide)⟩
  case h_13 =>
    split
    · next secondVar _ =>
      obtain ⟨otherRep, found⟩ := ConstraintSystem.getRepresentative_exists representatives secondVar
      obtain ⟨fixedTy, fixedFound, fixedCovered⟩ :=
        optionalObjectFixedType_exists representatives constraint.firstType
      simp only [found, fixedFound, Option.bind_eq_bind, Option.some_bind]
      split_ifs
      · exact ⟨info, rfl, idle⟩
      · split
        · next objectType object =>
          obtain ⟨fixedType, fixedSome, optional⟩ := Option.bind_eq_some.mp object
          have covered : objectType.typeVariables ⊆ vars :=
            (Ty.typeVariables_of_getOptionalObjectType optional).trans
              ((fixedCovered fixedType fixedSome).trans (List.append_subset.mpr ⟨first, fixed⟩))
          exact ⟨_, rfl, (ArgumentInfo.PushesAtMost.push covered).mono (by decide)⟩
        · exact ⟨info, rfl, idle⟩
    · exact ⟨info, rfl, idle⟩
  case h_14 | h_15 =>
    obtain ⟨next, found, pushes⟩ := pushIfInClass_pushesAtMost representatives rep _ info
      (constraint.thirdType_subset.trans mentioned)
    exact ⟨next, found, pushes.mono (by decide)⟩
  case h_16 => exact ⟨info, rfl, idle⟩

theorem foldlM_collectConstraint_pushesAtMost (fixed : cs.arena.fixedTypeVariables ⊆ vars)
    (rep : Nat) :
    ∀ (gathered : List GraphConstraint) (info : ArgumentInfo),
      (∀ constraint ∈ gathered, constraint.typeVariables ⊆ vars) →
      ∃ next, gathered.foldlM (collectConstraint cs optionalDecl rep) info = some next ∧
        info.PushesAtMost vars (2 * gathered.length) next
  | [], info, _ => ⟨info, rfl, .refl rfl rfl⟩
  | constraint :: rest, info, mentioned => by
    obtain ⟨next, found, pushes⟩ : ∃ next, collectConstraint cs optionalDecl rep info constraint =
        some next ∧ info.PushesAtMost vars 2 next := collectConstraint_pushesAtMost representatives
      fixed (mentioned constraint (List.mem_cons_self _ _)) rep info
    obtain ⟨last, run, pushes'⟩ := foldlM_collectConstraint_pushesAtMost fixed rep rest next
      fun other member => mentioned other (List.mem_cons_of_mem _ member)
    refine ⟨last, by simp [found, run], (pushes.trans pushes').mono ?_⟩
    simp only [List.length_cons]
    omega

/-- One iteration of `walk` either expands nothing, or expands one representative of
`vars ++ parentTargets` it had not expanded, pushing at most two types per constraint. -/
theorem walkItem_pushesAtMost (fixed : cs.arena.fixedTypeVariables ⊆ vars)
    (mentioned : ∀ constraint ∈ constraints, constraint.typeVariables ⊆ vars) (info : ArgumentInfo)
    {item : Ty} (covered : item.typeVariables ⊆ vars) :
    ∃ next, walkItem cs constraints optionalDecl info item = some next ∧
      (info.PushesAtMost vars 0 next ∨
        ∃ rep ∈ vars ++ cs.arena.parentTargets, rep ∉ info.visited ∧
          { info with visited := info.visited ++ [rep] }.PushesAtMost vars (2 * constraints.length)
            next) := by
  unfold walkItem
  split
  · next tyvar rvalue =>
    have member : tyvar ∈ vars :=
      covered (by simp [← Ty.typeVariables_getRValueType item, rvalue, Ty.typeVariables])
    obtain ⟨fixedTy, fixedFound⟩ := ConstraintSystem.getFixedType_exists representatives tyvar
    obtain ⟨rep, found⟩ := ConstraintSystem.getRepresentative_exists representatives tyvar
    simp only [fixedFound, found, Option.bind_eq_bind, Option.some_bind]
    split
    · exact ⟨_, rfl, .inl (.refl rfl rfl)⟩
    · split_ifs with visited
      · exact ⟨info, rfl, .inl (.refl rfl rfl)⟩
      · obtain ⟨next, run, pushes⟩ := foldlM_collectConstraint_pushesAtMost representatives fixed rep
          (gatherEquivalenceClass cs constraints rep) { info with visited := info.visited ++ [rep] }
          fun constraint gathered => mentioned constraint (List.mem_of_mem_filter gathered)
        refine ⟨next, run, .inr ⟨rep, ?_, visited, pushes.mono ?_⟩⟩
        · rcases Arena.getRepresentative_mem_parentTargets found with rfl | parent
          · exact List.mem_append_left _ member
          · exact List.mem_append_right _ parent
        · exact Nat.mul_le_mul_left 2 (List.length_filter_le _ _)
  · exact ⟨_, rfl, .inl (.refl rfl rfl)⟩

end

/-- The measure every iteration of `walk` lowers: the worklist, and for each representative of
`reps` not expanded yet, room for the `width` types its expansion may push and one more. -/
def walkMeasure (reps : List Nat) (width : Nat) (info : ArgumentInfo) : Nat :=
  info.worklist.length + (width + 1) * (reps.filter fun r => r ∉ info.visited).length

theorem walkMeasure_lt {vars reps : List Nat} {width : Nat} {info next : ArgumentInfo} {item : Ty}
    {rest : List Ty} (popped : info.worklist = item :: rest)
    (pushes : { info with worklist := rest }.PushesAtMost vars 0 next ∨
      ∃ rep ∈ reps, rep ∉ info.visited ∧
        { info with worklist := rest, visited := info.visited ++ [rep] }.PushesAtMost vars width next) :
    walkMeasure reps width next < walkMeasure reps width info := by
  unfold walkMeasure
  rcases pushes with ⟨visited, shorter, -⟩ | ⟨rep, member, fresh, visited, shorter, -⟩
  · simp only at visited shorter
    rw [visited, popped, List.length_cons]
    omega
  · simp only at visited shorter
    have fewer : (reps.filter fun r => r ∉ next.visited).length <
        (reps.filter fun r => r ∉ info.visited).length :=
      visited ▸ length_filter_not_mem_append_lt member fresh
    have room := Nat.mul_le_mul_left (width + 1) fewer
    rw [Nat.mul_succ] at room
    rw [popped, List.length_cons]
    omega

section
variable {cs : ConstraintSystem} {constraints : List GraphConstraint} {optionalDecl : Nat}
  {vars : List Nat} (representatives : cs.arena.RepresentativesAcyclic)
  (fixed : cs.arena.fixedTypeVariables ⊆ vars)
  (mentioned : ∀ constraint ∈ constraints, constraint.typeVariables ⊆ vars)
include representatives fixed mentioned

/-- The loop of `walk` stops, with an empty worklist and no representative expanded twice, when
the fuel exceeds its measure. -/
theorem walkLoop_terminates :
    ∀ (fuel : Nat) (info : ArgumentInfo), (∀ type ∈ info.worklist, type.typeVariables ⊆ vars) →
      info.visited.Nodup →
      walkMeasure (vars ++ cs.arena.parentTargets) (2 * constraints.length) info < fuel →
      ∃ last, walkLoop cs constraints optionalDecl fuel info = some last ∧ last.worklist = [] ∧
        last.visited.Nodup
  | 0, _, _, _, bound => absurd bound (Nat.not_lt_zero _)
  | fuel + 1, info, covered, unique, bound => by
    rw [walkLoop]
    split
    · next empty => exact ⟨info, rfl, empty, unique⟩
    · next item rest popped =>
      obtain ⟨next, step, pushes⟩ := walkItem_pushesAtMost representatives fixed mentioned
        { info with worklist := rest } (covered item (popped ▸ List.mem_cons_self _ _))
      have coveredRest : ∀ type ∈ rest, type.typeVariables ⊆ vars :=
        fun type member => covered type (popped ▸ List.mem_cons_of_mem _ member)
      have lower := walkMeasure_lt popped pushes
      have ⟨stillCovered, stillUnique⟩ :
          (∀ type ∈ next.worklist, type.typeVariables ⊆ vars) ∧ next.visited.Nodup := by
        rcases pushes with pushes | ⟨rep, -, fresh, pushes⟩
        · exact ⟨pushes.covered coveredRest, pushes.1 ▸ unique⟩
        · exact ⟨pushes.covered coveredRest, pushes.1 ▸ nodup_append_singleton unique fresh⟩
      rw [step, Option.some_bind]
      exact walkLoop_terminates fuel next stillCovered stillUnique (by omega)

end

theorem typeVariables_subset_flatMap {constraints : List GraphConstraint}
    {constraint : GraphConstraint} (member : constraint ∈ constraints) :
    constraint.typeVariables ⊆ constraints.flatMap GraphConstraint.typeVariables :=
  fun _ mentioned => List.mem_flatMap.mpr ⟨constraint, member, mentioned⟩

/-- The type variables `walk` can meet: those of the argument type, of the constraints, and of
the fixed types. -/
def walkVariables (cs : ConstraintSystem) (constraints : List GraphConstraint) (argType : Ty) :
    List Nat :=
  argType.typeVariables ++ constraints.flatMap GraphConstraint.typeVariables ++
    cs.arena.fixedTypeVariables

/-- Fuel enough for `walk`: one iteration per pushed type, and each representative of a type
variable it can meet pushes at most two types per constraint. -/
def walkFuel (cs : ConstraintSystem) (constraints : List GraphConstraint) (argType : Ty) : Nat :=
  (2 * constraints.length + 1) * (walkVariables cs constraints argType ++ cs.arena.parentTargets).length + 2

theorem walk_terminates {cs : ConstraintSystem} (representatives : cs.arena.RepresentativesAcyclic)
    (constraints : List GraphConstraint) (optionalDecl : Nat) (argType : Ty) {fuel : Nat}
    (enough : walkFuel cs constraints argType ≤ fuel) :
    ∃ info, ArgumentInfoCollector.walk cs constraints optionalDecl fuel argType = some info ∧
      info.worklist = [] ∧ info.visited.Nodup := by
  have fixed : cs.arena.fixedTypeVariables ⊆ walkVariables cs constraints argType :=
    List.subset_append_right _ _
  refine walkLoop_terminates representatives fixed (fun constraint member v mentioned => ?_) fuel _
    (fun type member v occurs => ?_) List.nodup_nil ?_
  · exact List.mem_append_left _ (List.mem_append_right _ (typeVariables_subset_flatMap member mentioned))
  · simp only [List.mem_singleton] at member
    subst member
    exact List.mem_append_left _ (List.mem_append_left _ occurs)
  · simp only [walkFuel] at enough
    simp only [walkMeasure, List.length_singleton, List.not_mem_nil, not_false_eq_true,
      decide_True, List.filter_true]
    omega

/-! ## `findConstraintThroughOptionals` stops, and counts the optionals it follows -/

/-- The constraints `findConstraintThroughOptionals` accepts at `rep`: those of its class, other
than `OptionalObject` constraints, that the predicate accepts, in gathering order. -/
def acceptedConstraints (cs : ConstraintSystem) (constraints : List GraphConstraint)
    (predicate : GraphConstraint → Nat → Bool) (rep : Nat) : List GraphConstraint :=
  (gatherEquivalenceClass cs constraints rep).filter fun constraint =>
    constraint.kind != .optionalObject && predicate constraint rep

/-- An iteration of `findConstraintThroughOptionals` that follows an `OptionalObject` constraint:
the gathering at `rep` accepts nothing and leads to an unbound type variable whose representative
is `next`. -/
def FollowsOptional (cs : ConstraintSystem) (constraints : List GraphConstraint)
    (direction : OptionalWrappingDirection) (predicate : GraphConstraint → Nat → Bool)
    (rep next : Nat) : Prop :=
  ∃ optionalObjectTypeVar,
    gatherThroughOptional cs constraints direction predicate rep = some ([], some optionalObjectTypeVar) ∧
      cs.getFixedType optionalObjectTypeVar = some none ∧
      cs.getRepresentative optionalObjectTypeVar = some next

section
variable {cs : ConstraintSystem} {constraints : List GraphConstraint} {vars : List Nat}
  (representatives : cs.arena.RepresentativesAcyclic)
include representatives

theorem followOptional_eq_some (rep : Nat) (fromType : Ty) {toType : Ty}
    {optionalObjectTypeVar : Option Nat} (toCovered : toType.typeVariables ⊆ vars)
    (covered : ∀ v ∈ optionalObjectTypeVar, v ∈ vars) :
    ∃ next, followOptional cs rep fromType toType optionalObjectTypeVar = some next ∧
      ∀ v ∈ next, v ∈ vars := by
  unfold followOptional
  split
  · next fromVar =>
    obtain ⟨fromRep, found⟩ := ConstraintSystem.getRepresentative_exists representatives fromVar
    refine ⟨_, by rw [found]; rfl, ?_⟩
    dsimp only
    split_ifs
    · exact fun v found => toCovered (Ty.mem_typeVariables_of_asTypeVariable found)
    · exact covered
  · exact ⟨_, rfl, covered⟩

theorem acceptConstraint_eq_some (direction : OptionalWrappingDirection)
    (predicate : GraphConstraint → Nat → Bool) (rep : Nat) (state : List GraphConstraint × Option Nat)
    {constraint : GraphConstraint} (mentioned : constraint.typeVariables ⊆ vars)
    (covered : ∀ v ∈ state.2, v ∈ vars) :
    ∃ next, acceptConstraint cs direction predicate rep state constraint =
      some (if (constraint.kind != .optionalObject && predicate constraint rep) = true then
        state.1 ++ [constraint] else state.1, next) ∧ ∀ v ∈ next, v ∈ vars := by
  unfold acceptConstraint
  by_cases optional : constraint.kind = .optionalObject
  · have first := constraint.firstType_subset.trans mentioned
    have second := constraint.secondType_subset.trans mentioned
    simp only [optional, ne_eq, not_true_eq_false, ite_false, bne_self_eq_false, Bool.false_and,
      Bool.false_eq_true]
    cases direction
    · obtain ⟨next, followed, stillCovered⟩ :=
        followOptional_eq_some representatives rep constraint.secondType first covered
      exact ⟨next, by simp only [followed, Option.map_some'], stillCovered⟩
    · obtain ⟨next, followed, stillCovered⟩ :=
        followOptional_eq_some representatives rep constraint.firstType second covered
      exact ⟨next, by simp only [followed, Option.map_some'], stillCovered⟩
  · exact ⟨state.2, by simp [optional], covered⟩

theorem foldlM_acceptConstraint_eq_some (direction : OptionalWrappingDirection)
    (predicate : GraphConstraint → Nat → Bool) (rep : Nat) :
    ∀ (gathered : List GraphConstraint) (state : List GraphConstraint × Option Nat),
      (∀ constraint ∈ gathered, constraint.typeVariables ⊆ vars) → (∀ v ∈ state.2, v ∈ vars) →
      ∃ last, gathered.foldlM (acceptConstraint cs direction predicate rep) state =
        some (state.1 ++ gathered.filter (fun constraint =>
          constraint.kind != .optionalObject && predicate constraint rep), last) ∧
        ∀ v ∈ last, v ∈ vars
  | [], state, _, covered => ⟨state.2, by simp, covered⟩
  | constraint :: rest, state, mentioned, covered => by
    obtain ⟨next, step, stillCovered⟩ := acceptConstraint_eq_some representatives direction predicate
      rep state (mentioned constraint (List.mem_cons_self _ _)) covered
    obtain ⟨last, run, lastCovered⟩ := foldlM_acceptConstraint_eq_some direction predicate rep rest
      (if (constraint.kind != .optionalObject && predicate constraint rep) = true then
        state.1 ++ [constraint] else state.1, next)
      (fun other member => mentioned other (List.mem_cons_of_mem _ member)) stillCovered
    refine ⟨last, ?_, lastCovered⟩
    simp only [List.foldlM_cons, step, Option.bind_eq_bind, Option.some_bind, run, List.filter_cons]
    split <;> simp

/-- The gathering at `rep` accepts exactly `acceptedConstraints`, and leads to a type variable of
the constraints, if any. -/
theorem gatherThroughOptional_eq_some
    (mentioned : ∀ constraint ∈ constraints, constraint.typeVariables ⊆ vars)
    (direction : OptionalWrappingDirection) (predicate : GraphConstraint → Nat → Bool) (rep : Nat) :
    ∃ optionalObjectTypeVar, gatherThroughOptional cs constraints direction predicate rep =
      some (acceptedConstraints cs constraints predicate rep, optionalObjectTypeVar) ∧
      ∀ v ∈ optionalObjectTypeVar, v ∈ vars :=
  foldlM_acceptConstraint_eq_some representatives direction predicate rep _ ([], none)
    (fun constraint gathered => mentioned constraint (List.mem_of_mem_filter gathered)) (by simp)

/-- The loop of `findConstraintThroughOptionals` stops, expanding no representative twice, when
the fuel exceeds the number of representatives it can still expand. -/
theorem findThroughOptionals_terminates
    (mentioned : ∀ constraint ∈ constraints, constraint.typeVariables ⊆ vars)
    (direction : OptionalWrappingDirection) (predicate : GraphConstraint → Nat → Bool) :
    ∀ (fuel numOptionals rep : Nat) (visitedVars : List Nat), rep ∈ vars ++ cs.arena.parentTargets →
      visitedVars.Nodup →
      ((vars ++ cs.arena.parentTargets).filter fun r => r ∉ visitedVars).length < fuel →
      ∃ result visitedVars', findThroughOptionals cs constraints direction predicate fuel
        numOptionals rep visitedVars = some (result, visitedVars') ∧ visitedVars'.Nodup
  | 0, _, _, _, _, _, bound => absurd bound (Nat.not_lt_zero _)
  | fuel + 1, numOptionals, rep, visitedVars, member, unique, bound => by
    rw [findThroughOptionals]
    split_ifs with visited
    · exact ⟨none, visitedVars, rfl, unique⟩
    have stillUnique := nodup_append_singleton unique visited
    obtain ⟨optionalObjectTypeVar, gathered, covered⟩ :=
      gatherThroughOptional_eq_some representatives mentioned direction predicate rep
    rw [gathered, Option.some_bind]
    split
    · exact ⟨_, _, rfl, stillUnique⟩
    · next v pair =>
      obtain ⟨fixedTy, fixedFound⟩ := ConstraintSystem.getFixedType_exists representatives v
      obtain ⟨next, found⟩ := ConstraintSystem.getRepresentative_exists representatives v
      simp only [fixedFound, found, Option.bind_eq_bind, Option.some_bind]
      split
      · have typeVar : v ∈ vars := covered v (Prod.mk.inj pair).2
        refine findThroughOptionals_terminates mentioned direction predicate fuel _ next _ ?_ stillUnique ?_
        · rcases Arena.getRepresentative_mem_parentTargets found with rfl | parent
          · exact List.mem_append_left _ typeVar
          · exact List.mem_append_right _ parent
        · have := length_filter_not_mem_append_lt member visited
          omega
      · exact ⟨_, _, rfl, stillUnique⟩
    · exact ⟨_, _, rfl, stillUnique⟩

/-- What the loop of `findConstraintThroughOptionals` returns is the first constraint accepted at
the end of a path of `OptionalObject` steps through distinct representatives it had not
expanded, and the count it returns grows by the length of that path. -/
theorem findThroughOptionals_found {direction : OptionalWrappingDirection}
    {predicate : GraphConstraint → Nat → Bool} :
    ∀ {fuel numOptionals rep : Nat} {visitedVars : List Nat} {constraint : GraphConstraint}
      {count : Nat} {visitedVars' : List Nat},
      findThroughOptionals cs constraints direction predicate fuel numOptionals rep visitedVars =
        some (some (constraint, count), visitedVars') →
      ∃ path : List Nat, count = numOptionals + path.length ∧
        List.Chain (FollowsOptional cs constraints direction predicate) rep path ∧
        (∀ r ∈ rep :: path, r ∉ visitedVars) ∧ (rep :: path).Nodup ∧
        (acceptedConstraints cs constraints predicate
          ((rep :: path).getLast (List.cons_ne_nil _ _))).head? = some constraint
  | 0, _, _, _, _, _, _, found => by cases found
  | fuel + 1, numOptionals, rep, visitedVars, constraint, count, visitedVars', found => by
    rw [findThroughOptionals] at found
    split_ifs at found with visited
    · simp at found
    obtain ⟨optionalObjectTypeVar, gathered, -⟩ := gatherThroughOptional_eq_some representatives
      (fun (other : GraphConstraint) (member : other ∈ constraints) =>
        typeVariables_subset_flatMap member) direction predicate rep
    rw [gathered, Option.some_bind] at found
    split at found
    · next first rest _ pair =>
      simp only [Option.some.injEq, Prod.mk.injEq] at found pair
      refine ⟨[], by rw [List.length_nil]; omega, .nil, by simpa using visited,
        List.pairwise_singleton _ rep, ?_⟩
      simp [pair.1, found.1.1]
    · next v pair =>
      obtain ⟨fixedTy, fixedFound⟩ := ConstraintSystem.getFixedType_exists representatives v
      obtain ⟨next, nextFound⟩ := ConstraintSystem.getRepresentative_exists representatives v
      simp only [fixedFound, nextFound, Option.bind_eq_bind, Option.some_bind] at found
      split at found
      · obtain ⟨path, counted, chain, unvisited, unique, first⟩ := findThroughOptionals_found found
        simp only [Prod.mk.injEq] at pair
        have follows : FollowsOptional cs constraints direction predicate rep next :=
          ⟨v, by rw [gathered, pair.1, pair.2], fixedFound, nextFound⟩
        refine ⟨next :: path, by simp only [List.length_cons]; omega, .cons follows chain, ?_, ?_, ?_⟩
        · intro r member
          rcases List.mem_cons.mp member with rfl | later
          · exact visited
          · exact fun earlier => unvisited r later (List.mem_append_left _ earlier)
        · exact List.nodup_cons.mpr
            ⟨fun later => unvisited rep later (List.mem_append_right _ (List.mem_singleton_self _)), unique⟩
        · simpa only [List.getLast_cons_cons] using first
      · cases found
    · cases found

end

/-- A `Bind` and a `Subtype` constraint in a cycle: each of the two classes is expanded once. -/
example : (ArgumentInfoCollector.walk (ConstraintSystem.empty .trivial)
    [⟨0, .bind, .typeVariable 0, .typeVariable 1, .unresolved, 0⟩,
     ⟨1, .subtype, .typeVariable 1, .typeVariable 0, .unresolved, 0⟩] 0 10 (.typeVariable 0)).map
      ArgumentInfo.visited = some [0, 1] := by decide

/-- The type variables `findConstraintThroughOptionals` can meet: the one it starts from, and
those of the constraints. -/
def findVariables (constraints : List GraphConstraint) (typeVar : Nat) : List Nat :=
  typeVar :: constraints.flatMap GraphConstraint.typeVariables

/-- Fuel enough for `findConstraintThroughOptionals`: one iteration per representative of a type
variable it can meet, and one more. -/
def findFuel (cs : ConstraintSystem) (constraints : List GraphConstraint) (typeVar : Nat) : Nat :=
  (findVariables constraints typeVar ++ cs.arena.parentTargets).length + 1

theorem findConstraintThroughOptionals_terminates {cs : ConstraintSystem}
    (representatives : cs.arena.RepresentativesAcyclic) (constraints : List GraphConstraint)
    (typeVar : Nat) (direction : OptionalWrappingDirection)
    (predicate : GraphConstraint → Nat → Bool) {fuel : Nat}
    (enough : findFuel cs constraints typeVar ≤ fuel) :
    ∃ rep result visitedVars, cs.getRepresentative typeVar = some rep ∧
      findThroughOptionals cs constraints direction predicate fuel 0 rep [] =
        some (result, visitedVars) ∧ visitedVars.Nodup ∧
      findConstraintThroughOptionals cs constraints fuel typeVar direction predicate = some result := by
  obtain ⟨rep, found⟩ := ConstraintSystem.getRepresentative_exists representatives typeVar
  have member : rep ∈ findVariables constraints typeVar ++ cs.arena.parentTargets := by
    rcases Arena.getRepresentative_mem_parentTargets found with rfl | parent
    · exact List.mem_append_left _ (List.mem_cons_self _ _)
    · exact List.mem_append_right _ parent
  obtain ⟨result, visitedVars, run, unique⟩ := findThroughOptionals_terminates representatives
    (fun _ mentioned => (typeVariables_subset_flatMap mentioned).trans (List.subset_cons_self _ _))
    direction predicate fuel 0 rep [] member List.nodup_nil
    (by simp only [findFuel, findVariables] at enough; simp only [List.not_mem_nil, not_false_eq_true,
      decide_True, List.filter_true]; omega)
  exact ⟨rep, result, visitedVars, found, run, unique,
    by simp only [findConstraintThroughOptionals, found, run, Option.some_bind, Option.map_some']⟩

/-- Unwrapping one `OptionalObject` constraint finds a constraint of the next class with the
count 1; around a cycle of `OptionalObject` constraints the search gives up. -/
example : findConstraintThroughOptionals (ConstraintSystem.empty .trivial)
    [⟨0, .optionalObject, .typeVariable 0, .typeVariable 1, .unresolved, 0⟩,
     ⟨1, .other 0, .typeVariable 1, .unresolved, .unresolved, 0⟩] 5 0 .unwrap (fun _ _ => true) =
      some (some (⟨1, .other 0, .typeVariable 1, .unresolved, .unresolved, 0⟩, 1)) ∧
    findConstraintThroughOptionals (ConstraintSystem.empty .trivial)
    [⟨0, .optionalObject, .typeVariable 0, .typeVariable 1, .unresolved, 0⟩,
     ⟨1, .optionalObject, .typeVariable 1, .typeVariable 0, .unresolved, 0⟩] 5 0 .unwrap
      (fun _ _ => true) = some none := by decide

/-- **The constraint-graph walks stop.** In a system whose representative links are acyclic,
whatever cycles its constraints form among type variables, `walk` stops on every argument type
and `findConstraintThroughOptionals` on every type variable, direction and predicate, neither
expands a representative twice, and the count the latter returns is the number of
`OptionalObject` steps it followed to the class where it found its constraint. -/
theorem constraintGraph_walks_terminate (cs : ConstraintSystem) (constraints : List GraphConstraint)
    (optionalDecl : Nat) (representatives : cs.arena.RepresentativesAcyclic) :
    (∀ argType fuel, walkFuel cs constraints argType ≤ fuel →
      ∃ info, ArgumentInfoCollector.walk cs constraints optionalDecl fuel argType = some info ∧
        info.worklist = [] ∧ info.visited.Nodup) ∧
    ∀ typeVar direction predicate fuel, findFuel cs constraints typeVar ≤ fuel →
      ∃ rep result visitedVars, cs.getRepresentative typeVar = some rep ∧
        findThroughOptionals cs constraints direction predicate fuel 0 rep [] =
          some (result, visitedVars) ∧ visitedVars.Nodup ∧
        findConstraintThroughOptionals cs constraints fuel typeVar direction predicate = some result ∧
        ∀ constraint numOptionals, result = some (constraint, numOptionals) →
          ∃ path : List Nat, path.length = numOptionals ∧
            List.Chain (FollowsOptional cs constraints direction predicate) rep path ∧
            (rep :: path).Nodup ∧
            (acceptedConstraints cs constraints predicate
              ((rep :: path).getLast (List.cons_ne_nil _ _))).head? = some constraint := by
  refine ⟨fun argType _ enough => walk_terminates representatives constraints optionalDecl argType enough,
    fun typeVar direction predicate _ enough => ?_⟩
  obtain ⟨rep, result, visitedVars, found, run, unique, returned⟩ :=
    findConstraintThroughOptionals_terminates representatives constraints typeVar direction predicate
      enough
  refine ⟨rep, result, visitedVars, found, run, unique, returned, fun constraint numOptionals reported => ?_⟩
  subst reported
  obtain ⟨path, counted, chain, -, distinct, first⟩ := findThroughOptionals_found representatives run
  exact ⟨path, by omega, chain, distinct, first⟩

/-- Constraints whose `Bind`, `Subtype` and `OptionalObject` constraints form cycles between the
type variables 0 and 1. -/
def cyclicGraphConstraints : List GraphConstraint :=
  [⟨0, .bind, .typeVariable 0, .typeVariable 1, .unresolved, 0⟩,
   ⟨1, .subtype, .typeVariable 0, .typeVariable 1, .unresolved, 0⟩,
   ⟨2, .subtype, .typeVariable 1, .typeVariable 0, .unresolved, 0⟩,
   ⟨3, .optionalObject, .typeVariable 0, .typeVariable 1, .unresolved, 0⟩,
   ⟨4, .optionalObject, .typeVariable 1, .typeVariable 0, .unresolved, 0⟩]

theorem constraintGraph_walks_terminate_cyclic :
    (ConstraintSystem.empty .trivial).arena.RepresentativesAcyclic ∧
    (∀ argType fuel, walkFuel (ConstraintSystem.empty .trivial) cyclicGraphConstraints argType ≤ fuel →
      ∃ info, ArgumentInfoCollector.walk (ConstraintSystem.empty .trivial) cyclicGraphConstraints 0 fuel
          argType = some info ∧
        info.worklist = [] ∧ info.visited.Nodup) ∧
    ∀ typeVar direction predicate fuel,
      findFuel (ConstraintSystem.empty .trivial) cyclicGraphConstraints typeVar ≤ fuel →
      ∃ rep result visitedVars, (ConstraintSystem.empty .trivial).getRepresentative typeVar = some rep ∧
        findThroughOptionals (ConstraintSystem.empty .trivial) cyclicGraphConstraints direction predicate
          fuel 0 rep [] = some (result, visitedVars) ∧ visitedVars.Nodup ∧
        findConstraintThroughOptionals (ConstraintSystem.empty .trivial) cyclicGraphConstraints fuel
          typeVar direction predicate = some result ∧
        ∀ constraint numOptionals, result = some (constraint, numOptionals) →
          ∃ path : List Nat, path.length = numOptionals ∧
            List.Chain (FollowsOptional (ConstraintSystem.empty .trivial) cyclicGraphConstraints direction
              predicate) rep path ∧
            (rep :: path).Nodup ∧
            (acceptedConstraints (ConstraintSystem.empty .trivial) cyclicGraphConstraints predicate
              ((rep :: path).getLast (List.cons_ne_nil _ _))).head? = some constraint :=
  ⟨Arena.empty_representativesAcyclic, constraintGraph_walks_terminate _ _ 0 Arena.empty_representativesAcyclic⟩

end Constraints
