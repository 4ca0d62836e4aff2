import ConstraintSolver.TypeVariable

/-! # Type simplification

`ConstraintSystem::simplifyTypeImpl` rewrites a type by `Type::transform`: each type variable
becomes what a lookup function gives for it, and a dependent member type whose base changed is
resolved again through conformance lookup, stays a dependent member type, or becomes a hole.
`ConstraintSystem::simplifyType` looks type variables up in the constraint system, through
their representatives and fixed types; `Solution::simplifyType` looks them up in a solution's
bindings and turns holes into the unresolved type.

The recursion through fixed types is not structural, so `simplifyTypeFuel` runs on fuel and
`simplifyType` gives it one step more than there are allocated type variables. With acyclic
representatives and bindings that is always enough (`Constraints.simplifyType_isSome`), the
result mentions only unbound representatives, and simplifying it again changes nothing
(`Constraints.simplifyType_idempotent`).
-/

namespace Constraints

open Relation

/-- The conformance table of the module, consulted when a dependent member type is resolved.
It is an external collaborator; its one contract is the one substitution guarantees: a type
witness found for a base mentions no type variable and no hole the base does not. -/
structure Conformances where
  /-- `mayHaveMembers`. -/
  mayHaveMembers : Ty → Bool
  /-- `lookupConformance` for the associated type's protocol, followed by substituting the
  conformance into the associated type; `none` when the base does not conform. -/
  typeWitness : Ty → Nat → Option Ty
  witness_typeVariables : ∀ base assocType witness, typeWitness base assocType = some witness →
    ∀ v ∈ witness.typeVariables, v ∈ base.typeVariables
  witness_hasHole : ∀ base assocType witness, typeWitness base assocType = some witness →
    witness.hasHole = true → base.hasHole = true

section
variable (conformances : Conformances) (attemptHoles : Bool)

/-- The type member lookup runs on: `newBase` without its specifier, and the `Self` type of
a dynamic `Self`. -/
def lookupBaseType (newBase : Ty) : Ty :=
  match newBase.withoutSpecifierType with
  | .dynamicSelf selfType => selfType
  | type => type

/-- The lookup of `simplifyTypeImpl` for a dependent member type whose base simplified to
`newBase`. `attemptHoles` is `shouldAttemptFixes() && getPhase() == Solving`. -/
def resolveDependentMember (newBase : Ty) (assocType : Nat) : Ty :=
  let base := lookupBaseType newBase
  if conformances.mayHaveMembers base then
    match conformances.typeWitness base assocType with
    | none =>
      if attemptHoles then .hole (.dependentMember base assocType)
      else .dependentMember base assocType
    | some result =>
      if result.hasError then .dependentMember base assocType else result
  else .dependentMember base assocType

/-- `ConstraintSystem::simplifyTypeImpl`, the transform written out node by node: where the
rewrite leaves a node as it is, the transform rewrites the node's children. A `none` from
the lookup is the null type. -/
def simplifyTypeImpl (getFixedTypeFn : Nat → Option Ty) : Ty → Option Ty
  | .typeVariable v => getFixedTypeFn v
  | .dependentMember base assocType => do
    let newBase ← simplifyTypeImpl getFixedTypeFn base
    if newBase = base then
      pure (.dependentMember base assocType)
    else
      let resolved := resolveDependentMember conformances attemptHoles newBase assocType
      pure (if resolved = .dependentMember base assocType then .dependentMember newBase assocType
        else resolved)
  | .boundGeneric base argument => do
    pure (.boundGeneric (← simplifyTypeImpl getFixedTypeFn base)
      (← simplifyTypeImpl getFixedTypeFn argument))
  | .function input result => do
    pure (.function (← simplifyTypeImpl getFixedTypeFn input)
      (← simplifyTypeImpl getFixedTypeFn result))
  | .lvalue objectType => .lvalue <$> simplifyTypeImpl getFixedTypeFn objectType
  | .inOut objectType => .inOut <$> simplifyTypeImpl getFixedTypeFn objectType
  | .dynamicSelf selfType => .dynamicSelf <$> simplifyTypeImpl getFixedTypeFn selfType
  | type => pure type

/-- `ConstraintSystem::simplifyType` with `fuel` fixed-type lookups: type variables map to
the simplified fixed type of their representative, or to the representative. -/
def simplifyTypeFuel (arena : Arena) : Nat → Ty → Option Ty
  | 0, type => if type.hasTypeVariable then none else some type
  | fuel + 1, type =>
    if type.hasTypeVariable then
      simplifyTypeImpl conformances attemptHoles (fun v => do
        let representative ← arena.getRepresentative v
        match arena.fixedTypeAt representative with
        | some fixed => simplifyTypeFuel arena fuel fixed
        | none => pure (.typeVariable representative)) type
    else some type

/-- `ConstraintSystem::simplifyType`; `none` where the C++ recursion would not stop. -/
def simplifyType (arena : Arena) (type : Ty) : Option Ty :=
  simplifyTypeFuel conformances attemptHoles arena (arena.allocated.length + 1) type

/-- `ConstraintSystem::getFixedTypeRecursive` with `fuel` steps. The flag is
`TMF_GenerateConstraints`, the one bit of the match options the function sets. -/
def getFixedTypeRecursiveFuel (arena : Arena) (wantRValue : Bool) :
    Nat → Ty → Bool → Option (Ty × Bool)
  | 0, _, _ => none
  | fuel + 1, type, generateConstraints =>
    match if wantRValue then type.rvalueType else type with
    | .dependentMember base assocType =>
      if base.isTypeVariableOrMember then do
        let newType ← simplifyType conformances attemptHoles arena (.dependentMember base assocType)
        if newType = .dependentMember base assocType then
          pure (.dependentMember base assocType, generateConstraints)
        else getFixedTypeRecursiveFuel arena wantRValue fuel newType true
      else pure (.dependentMember base assocType, generateConstraints)
    | .typeVariable v => do
      let representative ← arena.getRepresentative v
      match arena.fixedTypeAt representative with
      | some fixed => getFixedTypeRecursiveFuel arena wantRValue fuel fixed generateConstraints
      | none => pure (.typeVariable representative, generateConstraints)
    | other => pure (other, generateConstraints)

/-- `ConstraintSystem::getFixedTypeRecursive`; `none` where the C++ recursion would not stop. -/
def getFixedTypeRecursive (arena : Arena) (type : Ty) (generateConstraints wantRValue : Bool) :
    Option (Ty × Bool) :=
  getFixedTypeRecursiveFuel conformances attemptHoles arena wantRValue
    (arena.allocated.length + 4) type generateConstraints

/-- `Solution::simplifyType`: look type variables up in the solution's bindings, then turn
holes into the unresolved type. A variable without a binding fails the lookup's assertion. -/
def simplifyTypeWithBindings (typeBindings : List (Nat × Ty)) (type : Ty) : Option Ty :=
  if type.hasTypeVariable || type.hasHole then
    (simplifyTypeImpl conformances attemptHoles (fun v => typeBindings.lookup v) type).map
      fun resolved => if resolved.hasHole then resolved.replaceHoles else resolved
  else some type

end

/-! ## The transform -/

section
variable {conformances : Conformances} {attemptHoles : Bool}

theorem typeVariables_lookupBaseType {newBase : Ty} {v : Nat}
    (member : v ∈ (lookupBaseType newBase).typeVariables) : v ∈ newBase.typeVariables := by
  apply Ty.mem_typeVariables_withoutSpecifierType
  unfold lookupBaseType at member
  split at member <;> simp_all [Ty.typeVariables]

theorem hasHole_lookupBaseType {newBase : Ty} (holeFree : newBase.hasHole = false) :
    (lookupBaseType newBase).hasHole = false := by
  have := Ty.hasHole_withoutSpecifierType holeFree
  unfold lookupBaseType
  split <;> simp_all [Ty.hasHole]

theorem typeVariables_resolveDependentMember {newBase : Ty} {assocType v : Nat}
    (member : v ∈ (resolveDependentMember conformances attemptHoles newBase assocType).typeVariables) :
    v ∈ newBase.typeVariables := by
  apply typeVariables_lookupBaseType
  unfold resolveDependentMember at member
  generalize lookupBaseType newBase = base at member ⊢
  by_cases mayHave : conformances.mayHaveMembers base
  · cases found : conformances.typeWitness base assocType with
    | none => cases attemptHoles <;> simp_all [Ty.typeVariables]
    | some witness =>
      by_cases erroneous : witness.hasError
      · simp_all [Ty.typeVariables]
      · simp only [mayHave, found, erroneous, ↓reduceIte, Bool.false_eq_true] at member
        exact conformances.witness_typeVariables _ _ _ found v member
  · simp_all [Ty.typeVariables]

theorem hasHole_resolveDependentMember {newBase : Ty} {assocType : Nat}
    (noHoles : attemptHoles = false) (holeFree : newBase.hasHole = false) :
    (resolveDependentMember conformances attemptHoles newBase assocType).hasHole = false := by
  have base := hasHole_lookupBaseType holeFree
  unfold resolveDependentMember
  generalize lookupBaseType newBase = lookupBase at base ⊢
  subst noHoles
  by_cases mayHave : conformances.mayHaveMembers lookupBase
  · cases found : conformances.typeWitness lookupBase assocType with
    | none => simp_all [Ty.hasHole]
    | some witness =>
      cases witnessHole : witness.hasHole
      · by_cases erroneous : witness.hasError <;> simp_all [Ty.hasHole]
      · simp [conformances.witness_hasHole _ _ _ found witnessHole] at base
  · simp_all [Ty.hasHole]

/-- The transform succeeds when the lookup succeeds on every type variable it meets. -/
theorem simplifyTypeImpl_isSome {lookup : Nat → Option Ty} :
    ∀ {type : Ty}, (∀ v ∈ type.typeVariables, (lookup v).isSome) →
      (simplifyTypeImpl conformances attemptHoles lookup type).isSome := by
  intro type found
  induction type with
  | typeVariable v => exact found v (by simp [Ty.typeVariables])
  | dependentMember base assocType ih =>
    obtain ⟨newBase, hBase⟩ := Option.isSome_iff_exists.mp (ih found)
    simp only [simplifyTypeImpl, hBase, Option.bind_eq_bind, Option.some_bind]
    split <;> rfl
  | boundGeneric base argument ihB ihA | function base argument ihB ihA =>
    obtain ⟨b, hb⟩ := Option.isSome_iff_exists.mp (ihB fun v m => found v (by simp [Ty.typeVariables, m]))
    obtain ⟨a, ha⟩ := Option.isSome_iff_exists.mp (ihA fun v m => found v (by simp [Ty.typeVariables, m]))
    simp [simplifyTypeImpl, hb, ha]
  | lvalue o ih | inOut o ih | dynamicSelf o ih =>
    obtain ⟨x, hx⟩ := Option.isSome_iff_exists.mp (ih found)
    simp [simplifyTypeImpl, hx]
  | nominal | hole | unresolved | error => rfl

/-- The transform reads the lookup only at the type variables of the type. -/
theorem simplifyTypeImpl_congr {lookup lookup' : Nat → Option Ty} :
    ∀ {type : Ty}, (∀ v ∈ type.typeVariables, lookup v = lookup' v) →
      simplifyTypeImpl conformances attemptHoles lookup type =
        simplifyTypeImpl conformances attemptHoles lookup' type := by
  intro type agree
  induction type with
  | typeVariable v => exact agree v (by simp [Ty.typeVariables])
  | dependentMember base assocType ih => simp only [simplifyTypeImpl, ih agree]
  | boundGeneric base argument ihB ihA | function base argument ihB ihA =>
    simp only [simplifyTypeImpl, ihB fun v m => agree v (by simp [Ty.typeVariables, m]),
      ihA fun v m => agree v (by simp [Ty.typeVariables, m])]
  | lvalue o ih | inOut o ih | dynamicSelf o ih => simp only [simplifyTypeImpl, ih agree]
  | nominal | hole | unresolved | error => rfl

/-- Where every type variable maps to itself, the transform changes nothing: the
"nothing changed" check keeps dependent member types as they are. -/
theorem simplifyTypeImpl_eq_self {lookup : Nat → Option Ty} :
    ∀ {type : Ty}, (∀ v ∈ type.typeVariables, lookup v = some (.typeVariable v)) →
      simplifyTypeImpl conformances attemptHoles lookup type = some type := by
  intro type fixed
  induction type with
  | typeVariable v => exact fixed v (by simp [Ty.typeVariables])
  | dependentMember base assocType ih => simp [simplifyTypeImpl, ih fixed]
  | boundGeneric base argument ihB ihA | function base argument ihB ihA =>
    simp [simplifyTypeImpl, ihB fun v m => fixed v (by simp [Ty.typeVariables, m]),
      ihA fun v m => fixed v (by simp [Ty.typeVariables, m])]
  | lvalue o ih | inOut o ih | dynamicSelf o ih => simp [simplifyTypeImpl, ih fixed]
  | nominal | hole | unresolved | error => rfl

/-- Every type variable of the result comes from what the lookup returned. -/
theorem typeVariables_simplifyTypeImpl {lookup : Nat → Option Ty} {P : Nat → Prop}
    (good : ∀ v x, lookup v = some x → ∀ u ∈ x.typeVariables, P u) :
    ∀ {type result : Ty}, simplifyTypeImpl conformances attemptHoles lookup type = some result →
      ∀ u ∈ result.typeVariables, P u := by
  intro type
  induction type with
  | typeVariable v => exact fun {result} found => good v result found
  | dependentMember base assocType ih =>
    intro result found u member
    simp only [simplifyTypeImpl, Option.bind_eq_bind] at found
    obtain ⟨newBase, hBase, rest⟩ := Option.bind_eq_some.mp found
    split at rest
    · cases rest
      subst newBase
      exact ih hBase u (by simpa [Ty.typeVariables] using member)
    · cases rest
      split at member
      · exact ih hBase u (by simpa [Ty.typeVariables] using member)
      · exact ih hBase u (typeVariables_resolveDependentMember member)
  | boundGeneric base argument ihB ihA | function base argument ihB ihA =>
    intro result found u member
    simp only [simplifyTypeImpl, Option.bind_eq_bind, Option.bind_eq_some, Option.pure_def,
      Option.some.injEq] at found
    obtain ⟨b, hb, a, ha, rfl⟩ := found
    simp only [Ty.typeVariables, List.mem_append] at member
    exact member.elim (ihB hb u) (ihA ha u)
  | lvalue o ih | inOut o ih | dynamicSelf o ih =>
    intro result found u member
    simp only [simplifyTypeImpl, Option.map_eq_map, Option.map_eq_some'] at found
    obtain ⟨x, hx, rfl⟩ := found
    exact ih hx u (by simpa [Ty.typeVariables] using member)
  | nominal | hole | unresolved | error =>
    intro result found u member
    simp only [simplifyTypeImpl, Option.pure_def, Option.some.injEq] at found
    subst found
    simp [Ty.typeVariables] at member

/-- Without holes in the type or in what the lookup returns, and with holes not attempted,
the result has no hole. -/
theorem hasHole_simplifyTypeImpl {lookup : Nat → Option Ty} (noHoles : attemptHoles = false)
    (holeFree : ∀ v x, lookup v = some x → x.hasHole = false) :
    ∀ {type result : Ty}, type.hasHole = false →
      simplifyTypeImpl conformances attemptHoles lookup type = some result →
        result.hasHole = false := by
  intro type
  induction type with
  | typeVariable v => exact fun _ found => holeFree v _ found
  | dependentMember base assocType ih =>
    intro result typeFree found
    simp only [simplifyTypeImpl, Option.bind_eq_bind] at found
    obtain ⟨newBase, hBase, rest⟩ := Option.bind_eq_some.mp found
    have baseFree := ih (by simpa [Ty.hasHole] using typeFree) hBase
    split at rest
    · cases rest
      simpa [Ty.hasHole] using typeFree
    · cases rest
      split
      · simpa [Ty.hasHole] using baseFree
      · exact hasHole_resolveDependentMember noHoles baseFree
  | boundGeneric base argument ihB ihA | function base argument ihB ihA =>
    intro result typeFree found
    simp only [simplifyTypeImpl, Option.bind_eq_bind, Option.bind_eq_some, Option.pure_def,
      Option.some.injEq] at found
    obtain ⟨b, hb, a, ha, rfl⟩ := found
    simp only [Ty.hasHole, Bool.or_eq_false_iff] at typeFree ⊢
    exact ⟨ihB typeFree.1 hb, ihA typeFree.2 ha⟩
  | lvalue o ih | inOut o ih | dynamicSelf o ih =>
    intro result typeFree found
    simp only [simplifyTypeImpl, Option.map_eq_map, Option.map_eq_some'] at found
    obtain ⟨x, hx, rfl⟩ := found
    simpa only [Ty.hasHole] using ih typeFree hx
  | nominal | hole | unresolved | error =>
    intro result typeFree found
    simp only [simplifyTypeImpl, Option.pure_def, Option.some.injEq] at found
    exact found ▸ typeFree

end

/-! ## Simplification in the constraint system -/

section
variable {conformances : Conformances} {attemptHoles : Bool} {arena : Arena}

theorem getRepresentative_spec {v r : Nat} (found : arena.getRepresentative v = some r) :
    ReflTransGen arena.ParentLink v r ∧
      ((arena.impl r).parentOrFixed = .parent r ∨ ∃ type, (arena.impl r).parentOrFixed = .fixed type) :=
  Arena.representative_spec found

theorem getRepresentative_of_unbound {v : Nat} (unbound : arena.IsUnboundRepresentative v) :
    arena.getRepresentative v = some v := by
  simp only [Arena.IsUnboundRepresentative] at unbound
  simp [Arena.getRepresentative, Arena.representative, unbound]

theorem fixedTypeAt_of_unbound {v : Nat} (unbound : arena.IsUnboundRepresentative v) :
    arena.fixedTypeAt v = none := by
  simp only [Arena.IsUnboundRepresentative] at unbound
  simp [Arena.fixedTypeAt, unbound]

/-- A representative without a fixed type is an unbound representative. -/
theorem unbound_of_getRepresentative {v r : Nat} (found : arena.getRepresentative v = some r)
    (unfixed : arena.fixedTypeAt r = none) : arena.IsUnboundRepresentative r := by
  rcases (getRepresentative_spec found).2 with root | ⟨type, fixed⟩
  · exact root
  · simp [Arena.fixedTypeAt, fixed] at unfixed

/-- Every type variable a simplification returns is an unbound representative. -/
theorem unbound_of_simplifyTypeFuel :
    ∀ {fuel : Nat} {type result : Ty},
      simplifyTypeFuel conformances attemptHoles arena fuel type = some result →
        ∀ u ∈ result.typeVariables, arena.IsUnboundRepresentative u
  | 0, type, result, found => by
    unfold simplifyTypeFuel at found
    split at found
    · cases found
    · cases found
      simp_all
  | fuel + 1, type, result, found => by
    unfold simplifyTypeFuel at found
    split at found
    · refine typeVariables_simplifyTypeImpl (fun v x lookedUp => ?_) found
      obtain ⟨r, hr, rest⟩ := Option.bind_eq_some.mp lookedUp
      split at rest
      · exact unbound_of_simplifyTypeFuel rest
      · cases rest
        intro u member
        simp only [Ty.typeVariables, List.mem_singleton] at member
        exact member ▸ unbound_of_getRepresentative hr ‹_›
    · cases found
      simp_all

/-- A type whose type variables are all unbound representatives simplifies to itself. -/
theorem simplifyTypeFuel_eq_self {fuel : Nat} {type : Ty}
    (unbound : ∀ v ∈ type.typeVariables, arena.IsUnboundRepresentative v) :
    simplifyTypeFuel conformances attemptHoles arena (fuel + 1) type = some type := by
  unfold simplifyTypeFuel
  split
  · refine simplifyTypeImpl_eq_self fun v member => ?_
    simp [getRepresentative_of_unbound (unbound v member),
      fixedTypeAt_of_unbound (unbound v member)]
  · rfl

/-- Simplification stops when a rank decreases from each variable to those in its fixed
type and the fuel exceeds the rank of every variable met. -/
theorem simplifyTypeFuel_isSome_of_rank (representatives : arena.RepresentativesAcyclic)
    {rank : Nat → Nat} (decreasing : ∀ v u, arena.FixedLink v u → rank u < rank v) :
    ∀ fuel type, (∀ v ∈ type.typeVariables, rank v < fuel) →
      (simplifyTypeFuel conformances attemptHoles arena fuel type).isSome
  | 0, type, bounded => by
    have none : type.typeVariables = [] :=
      List.eq_nil_iff_forall_not_mem.mpr fun v member => Nat.not_lt_zero _ (bounded v member)
    simp [simplifyTypeFuel, none]
  | fuel + 1, type, bounded => by
    unfold simplifyTypeFuel
    split
    · refine simplifyTypeImpl_isSome fun v member => ?_
      obtain ⟨r, hr⟩ := Option.isSome_iff_exists.mp (Arena.getRepresentative_isSome representatives v)
      simp only [hr, Option.bind_eq_bind, Option.some_bind]
      split
      · rename_i fixed found
        refine simplifyTypeFuel_isSome_of_rank representatives decreasing fuel fixed fun u inFixed => ?_
        have link : arena.FixedLink v u :=
          ⟨r, fixed, (getRepresentative_spec hr).1, Arena.fixedTypeAt_eq_some.mp found, inFixed⟩
        have := bounded v member
        have := decreasing v u link
        omega
      · rfl
    · rfl

/-- With acyclic representatives and bindings, `simplifyType` stops on every type. -/
theorem simplifyType_isSome (representatives : arena.RepresentativesAcyclic)
    (bindings : arena.BindingsAcyclic) (type : Ty) :
    (simplifyType conformances attemptHoles arena type).isSome := by
  obtain ⟨rank, bounded, decreasing⟩ :=
    Arena.exists_rank_of_acyclic arena.allocated (fun _ _ => Arena.allocated_of_fixedLink) bindings
  exact simplifyTypeFuel_isSome_of_rank representatives decreasing _ type
    fun v _ => Nat.lt_succ_of_le (bounded v)

/-- A simplified type simplifies to itself. -/
theorem simplifyType_idempotent {type result : Ty}
    (found : simplifyType conformances attemptHoles arena type = some result) :
    simplifyType conformances attemptHoles arena result = some result :=
  simplifyTypeFuel_eq_self (unbound_of_simplifyTypeFuel found)

/-- `getFixedTypeRecursive` stops at once on a type whose variables are unbound
representatives. -/
theorem getFixedTypeRecursiveFuel_isSome_of_unbound {fuel : Nat} {type : Ty}
    {generate wantRValue : Bool}
    (unbound : ∀ v ∈ type.typeVariables, arena.IsUnboundRepresentative v) :
    (getFixedTypeRecursiveFuel conformances attemptHoles arena wantRValue (fuel + 1) type
      generate).isSome := by
  have strippedUnbound : ∀ v ∈ (if wantRValue then type.rvalueType else type).typeVariables,
      arena.IsUnboundRepresentative v := by
    split <;> simpa using unbound
  unfold getFixedTypeRecursiveFuel
  generalize (if wantRValue then type.rvalueType else type) = stripped at strippedUnbound ⊢
  cases stripped with
  | dependentMember base assocType =>
    simp only
    split
    · simp [simplifyType, simplifyTypeFuel_eq_self strippedUnbound]
    · rfl
  | typeVariable v =>
    have root := strippedUnbound v (by simp [Ty.typeVariables])
    simp [getRepresentative_of_unbound root, fixedTypeAt_of_unbound root]
  | _ => rfl

/-- Where the stripped type is not a type variable, `getFixedTypeRecursive` stops within two
steps: a dependent member type is simplified once, and its simplification is final. -/
theorem getFixedTypeRecursiveFuel_isSome_of_not_typeVariable
    (representatives : arena.RepresentativesAcyclic) (bindings : arena.BindingsAcyclic)
    {fuel : Nat} {type : Ty} {generate wantRValue : Bool}
    (notVariable : ∀ v, (if wantRValue then type.rvalueType else type) ≠ .typeVariable v) :
    (getFixedTypeRecursiveFuel conformances attemptHoles arena wantRValue (fuel + 1 + 1) type
      generate).isSome := by
  unfold getFixedTypeRecursiveFuel
  generalize (if wantRValue then type.rvalueType else type) = stripped at notVariable ⊢
  cases stripped with
  | dependentMember base assocType =>
    simp only
    split
    · obtain ⟨simplified, found⟩ := Option.isSome_iff_exists.mp
        (simplifyType_isSome representatives bindings (.dependentMember base assocType) :
          (simplifyType conformances attemptHoles arena _).isSome)
      simp only [found, Option.bind_eq_bind, Option.some_bind]
      split
      · rfl
      · exact getFixedTypeRecursiveFuel_isSome_of_unbound (unbound_of_simplifyTypeFuel found)
    · rfl
  | typeVariable v => exact absurd rfl (notVariable v)
  | _ => rfl

/-- Following fixed types from a type variable stops when the fuel exceeds the rank of the
variable by three. -/
theorem getFixedTypeRecursiveFuel_isSome_of_rank (representatives : arena.RepresentativesAcyclic)
    (bindings : arena.BindingsAcyclic) {rank : Nat → Nat}
    (decreasing : ∀ v u, arena.FixedLink v u → rank u < rank v) {wantRValue : Bool} :
    ∀ n type v, (if wantRValue then type.rvalueType else type) = .typeVariable v → rank v < n →
      ∀ generate, (getFixedTypeRecursiveFuel conformances attemptHoles arena wantRValue
        (n + 2 + 1) type generate).isSome
  | 0, _, _, _, bound, _ => absurd bound (Nat.not_lt_zero _)
  | n + 1, type, v, stripped, bound, generate => by
    unfold getFixedTypeRecursiveFuel
    rw [stripped]
    obtain ⟨r, hr⟩ := Option.isSome_iff_exists.mp (Arena.getRepresentative_isSome representatives v)
    simp only [hr, Option.bind_eq_bind, Option.some_bind]
    split
    · rename_i fixed found
      by_cases isVariable : ∃ u, (if wantRValue then fixed.rvalueType else fixed) = .typeVariable u
      · obtain ⟨u, strippedFixed⟩ := isVariable
        have inFixed : u ∈ fixed.typeVariables := by
          have : u ∈ (if wantRValue then fixed.rvalueType else fixed).typeVariables := by
            simp [strippedFixed, Ty.typeVariables]
          split at this <;> simpa using this
        have link : arena.FixedLink v u :=
          ⟨r, fixed, (getRepresentative_spec hr).1, Arena.fixedTypeAt_eq_some.mp found, inFixed⟩
        have := decreasing v u link
        exact getFixedTypeRecursiveFuel_isSome_of_rank representatives bindings decreasing n fixed u
          strippedFixed (by omega) generate
      · exact getFixedTypeRecursiveFuel_isSome_of_not_typeVariable representatives bindings
          fun u same => isVariable ⟨u, same⟩
    · rfl

/-- With acyclic representatives and bindings, `getFixedTypeRecursive` stops on every type. -/
theorem getFixedTypeRecursive_isSome (representatives : arena.RepresentativesAcyclic)
    (bindings : arena.BindingsAcyclic) (type : Ty) (generate wantRValue : Bool) :
    (getFixedTypeRecursive conformances attemptHoles arena type generate wantRValue).isSome := by
  obtain ⟨rank, bounded, decreasing⟩ :=
    Arena.exists_rank_of_acyclic arena.allocated (fun _ _ => Arena.allocated_of_fixedLink) bindings
  by_cases isVariable : ∃ v, (if wantRValue then type.rvalueType else type) = .typeVariable v
  · obtain ⟨v, stripped⟩ := isVariable
    exact getFixedTypeRecursiveFuel_isSome_of_rank representatives bindings decreasing
      (arena.allocated.length + 1) type v stripped (Nat.lt_succ_of_le (bounded v)) generate
  · exact getFixedTypeRecursiveFuel_isSome_of_not_typeVariable representatives bindings
      fun v same => isVariable ⟨v, same⟩

end

end Constraints
