import ConstraintSolver.Locator

/-! # Requirement locators

`openGenericRequirements` adds one constraint for each requirement of a generic signature, at
the locator of the reference with two more elements: `OpenedGeneric` for the signature and
`TypeParameterRequirement` for the requirement's position. The protocol `Self` conformance can
be skipped; the loop then goes on to the next position, so positions are never renumbered
(`Constraints.openGenericRequirements_eq`).

`getRequirement` reads a requirement locator back: the last element gives the position and the
last `OpenedGeneric` the signature, so it finds the requirement the constraint was opened for
whatever the base path holds (`Constraints.getRequirement_requirementLocator`).
`getRequirementInfo` drops the path back to before that `OpenedGeneric`, which is the base
locator exactly, and reads the first `OpenedTypes` entry of that locator
(`Constraints.getRequirementInfo_requirementLocator`), or gives no key when the requirement's
first type is not a generic parameter. `recordOpenedTypes` does not check that
the locator has no entry yet (its assertion is compiled out), so after a second recording for
the same locator the first entry is still the one read
(`Constraints.getRequirementInfo_reads_first_record`). `isFixedRequirement` and
`recordFixedRequirement` compute their key by the same `getRequirementInfo`.
-/

namespace Constraints

/-- `ProtocolConformanceRef`: concrete, with its conditional requirements, or abstract. -/
inductive ConformanceRef where
  | concrete (conditionalRequirements : List (Requirement InterfaceType))
  | abstract (proto : Nat)
  deriving DecidableEq, Repr

/-- The parts of the constraint system that requirement locators are read against, keyed by
interned locators. -/
structure RequirementTables where
  /-- `OpenedTypes`: for a locator, each generic parameter with the type variable opened for
  it. -/
  openedTypes : List (Locator × List (GenericParam × Nat))
  /-- `CheckedConformances`. -/
  checkedConformances : List (Locator × ConformanceRef)
  /-- `FixedRequirements`: a set of generic parameters (the null one is `none`), kinds and
  types. -/
  fixedRequirements : List (Option GenericParam × RequirementKind × Ty)
  /-- `getImpl().getGenericParameter()` of each type variable. -/
  genericParameter : Nat → Option GenericParam
  /-- The type variables' implementations, for `getRepresentative`. -/
  arena : Arena

/-! ## Opening a signature's requirements -/

/-- The opened form of a requirement, with `substFn` applied to its types. -/
def Requirement.map {α β : Type} (f : α → β) : Requirement α → Requirement β
  | .conformance first proto => .conformance (f first) proto
  | .superclass first second => .superclass (f first) (f second)
  | .sameType first second => .sameType (f first) (f second)
  | .layout first layoutConstraint => .layout (f first) layoutConstraint

@[simp] theorem Requirement.kind_map {α β : Type} (f : α → β) (requirement : Requirement α) :
    (requirement.map f).kind = requirement.kind := by
  cases requirement <;> rfl

/-- The switch of `openGenericRequirements` on one requirement: the opened requirement, or
`none` for the protocol `Self` conformance it skips. -/
def openRequirement (outerDC : Nat) (skipProtocolSelfConstraint : Bool)
    (substFn : InterfaceType → Ty) (req : Requirement InterfaceType) : Option (Requirement Ty) :=
  let openedFirst := substFn req.firstType
  match req with
  | .conformance first proto =>
    if skipProtocolSelfConstraint && proto == outerDC && first == selfInterfaceType then none
    else some (.conformance openedFirst proto)
  | .superclass _ second => some (.superclass openedFirst (substFn second))
  | .sameType _ second => some (.sameType openedFirst (substFn second))
  | .layout _ layoutConstraint => some (.layout openedFirst layoutConstraint)

/-- Whether `openGenericRequirements` skips a requirement: the conformance of the protocol's own
`Self`, when asked to. -/
def skipsRequirement (outerDC : Nat) (skipProtocolSelfConstraint : Bool) :
    Requirement InterfaceType → Bool
  | .conformance first proto =>
    skipProtocolSelfConstraint && proto == outerDC && first == selfInterfaceType
  | _ => false

theorem openRequirement_eq (outerDC : Nat) (skipProtocolSelfConstraint : Bool)
    (substFn : InterfaceType → Ty) (req : Requirement InterfaceType) :
    openRequirement outerDC skipProtocolSelfConstraint substFn req =
      if skipsRequirement outerDC skipProtocolSelfConstraint req then none
      else some (req.map substFn) := by
  cases req <;> rfl

/-- The locator of the constraint for the requirement at `pos`: the base locator with
`OpenedGeneric` and `TypeParameterRequirement` appended. -/
def Locator.requirementLocator (locator : Locator) (signature : GenericSignature) (pos : Nat)
    (kind : RequirementKind) : Locator :=
  ⟨locator.anchor, locator.path ++ [.openedGeneric signature, .typeParameterRequirement pos kind]⟩

/-- `ConstraintSystem::openGenericRequirements`: the constraints it adds, in order, each an
opened requirement with its locator. -/
def openGenericRequirements (outerDC : Nat) (signature : GenericSignature)
    (skipProtocolSelfConstraint : Bool) (locator : Locator) (substFn : InterfaceType → Ty) :
    List (Requirement Ty × Locator) :=
  signature.requirements.enum.filterMap fun (pos, req) =>
    (openRequirement outerDC skipProtocolSelfConstraint substFn req).map fun openedReq =>
      (openedReq, locator.requirementLocator signature pos req.kind)

/-- The constraints `openGenericRequirements` adds are exactly one for each requirement it does
not skip, in the signature's order and at the requirement's own position. -/
theorem openGenericRequirements_eq (outerDC : Nat) (signature : GenericSignature)
    (skipProtocolSelfConstraint : Bool) (locator : Locator) (substFn : InterfaceType → Ty) :
    openGenericRequirements outerDC signature skipProtocolSelfConstraint locator substFn =
      (signature.requirements.enum.filter fun entry =>
        !skipsRequirement outerDC skipProtocolSelfConstraint entry.2).map fun entry =>
          (entry.2.map substFn, locator.requirementLocator signature entry.1 entry.2.kind) := by
  rw [← List.filterMap_eq_map, List.filterMap_filter, openGenericRequirements]
  congr 1
  funext ⟨pos, req⟩
  simp only [openRequirement_eq]
  cases skipsRequirement outerDC skipProtocolSelfConstraint req <;> rfl

/-! ## Reading a requirement locator back -/

/-- `findLast<LocatorPathElt::OpenedGeneric>`: the last `OpenedGeneric` of a path, with the
path before it, which is what `drop_back` keeps of the path once the search stops there. -/
def findLastOpenedGeneric : List PathElt → Option (List PathElt × GenericSignature)
  | [] => none
  | element :: rest =>
    match findLastOpenedGeneric rest with
    | some (before, signature) => some (element :: before, signature)
    | none =>
      match element with
      | .openedGeneric signature => some ([], signature)
      | _ => none

/-- The last `OpenedGeneric` of a requirement locator is the one `openGenericRequirements`
appended, whatever the base path holds, other `OpenedGeneric` elements included. -/
theorem findLastOpenedGeneric_append (path : List PathElt) (signature : GenericSignature)
    (pos : Nat) (kind : RequirementKind) :
    findLastOpenedGeneric (path ++ [.openedGeneric signature, .typeParameterRequirement pos kind]) =
      some (path, signature) := by
  induction path with
  | nil => rfl
  | cons element path ih => simp [findLastOpenedGeneric, ih]

/-- `getRequirement`: the requirement a requirement locator was opened for. The outer `none` is
an assertion that fails: a conditional requirement without a checked concrete conformance, or an
index out of range. -/
def getRequirement (tables : RequirementTables) (reqLocator : Locator) :
    Option (Option (Requirement InterfaceType)) :=
  match reqLocator.path.getLast? with
  | some (.conditionalRequirement index _) =>
    let typeReqLoc : Locator := ⟨reqLocator.anchor, reqLocator.path.dropLast⟩
    match tables.checkedConformances.find? (·.1 == typeReqLoc) with
    | some (_, .concrete conditionalRequirements) => conditionalRequirements[index]?.map some
    | _ => none
  | some (.typeParameterRequirement index _) =>
    match findLastOpenedGeneric reqLocator.path with
    | some (_, signature) => signature.requirements[index]?.map some
    | none => some none
  | _ => some none

/-- **A requirement locator decodes to its requirement**: `getRequirement` on the locator of the
requirement at `pos` gives the requirement at `pos`, for any base locator. -/
theorem getRequirement_requirementLocator (tables : RequirementTables) (locator : Locator)
    {signature : GenericSignature} {pos : Nat} {req : Requirement InterfaceType}
    (found : signature.requirements[pos]? = some req) (kind : RequirementKind) :
    getRequirement tables (locator.requirementLocator signature pos kind) = some (some req) := by
  simp [getRequirement, Locator.requirementLocator, findLastOpenedGeneric_append, found]

/-- `find_if` over `OpenedTypes` for a locator: its first entry's opened types. -/
def RequirementTables.openedTypesOf (tables : RequirementTables) (locator : Locator) :
    Option (List (GenericParam × Nat)) :=
  (tables.openedTypes.find? (·.1 == locator)).map (·.2)

/-- What `getRequirementInfo` returns once it has the opened types of the base locator: the
generic parameter of the representative of the type variable opened for `param`, with the
requirement's kind. The outer `none` is a representative lookup that does not stop. -/
def RequirementTables.openedInfo (tables : RequirementTables) (param : GenericParam)
    (kind : RequirementKind) (substitutions : List (GenericParam × Nat)) :
    Option (Option (Option GenericParam × RequirementKind)) :=
  match substitutions.find? (fun entry => tables.genericParameter entry.2 == some param) with
  | none => some none
  | some (_, typeVar) =>
    (tables.arena.getRepresentative typeVar).map fun repr => some (tables.genericParameter repr, kind)

/-- `getRequirementInfo`: the generic parameter and kind a requirement locator stands for. The
outer `none` is an assertion that fails. -/
def getRequirementInfo (tables : RequirementTables) (reqLocator : Locator) :
    Option (Option (Option GenericParam × RequirementKind)) := do
  let some requirement ← getRequirement tables reqLocator | pure none
  let .genericParam param := requirement.firstType | pure none
  let (newPath, _) ← findLastOpenedGeneric reqLocator.path
  match tables.openedTypesOf ⟨reqLocator.anchor, newPath⟩ with
  | none => pure none
  | some substitutions => tables.openedInfo param requirement.kind substitutions

/-- **`getRequirementInfo` strips a requirement locator back to its base**: on the locator of a
requirement whose first type is a generic parameter, it reads the opened types of exactly the
base locator. -/
theorem getRequirementInfo_requirementLocator (tables : RequirementTables) (locator : Locator)
    {signature : GenericSignature} {pos : Nat} {req : Requirement InterfaceType}
    (found : signature.requirements[pos]? = some req) {param : GenericParam}
    (isParam : req.firstType = .genericParam param) :
    getRequirementInfo tables (locator.requirementLocator signature pos req.kind) =
      match tables.openedTypesOf locator with
      | none => some none
      | some substitutions => tables.openedInfo param req.kind substitutions := by
  rw [getRequirementInfo, getRequirement_requirementLocator tables locator found]
  simp only [Option.bind_eq_bind, Option.some_bind, isParam, Locator.requirementLocator,
    findLastOpenedGeneric_append]
  rfl

/-- On a requirement whose first type is not a generic parameter, `getRequirementInfo` gives no
key and reads no opened types. -/
theorem getRequirementInfo_requirementLocator_of_not_param (tables : RequirementTables)
    (locator : Locator) {signature : GenericSignature} {pos : Nat}
    {req : Requirement InterfaceType} (found : signature.requirements[pos]? = some req)
    (notParam : ∀ param, req.firstType ≠ .genericParam param) :
    getRequirementInfo tables (locator.requirementLocator signature pos req.kind) = some none := by
  rw [getRequirementInfo, getRequirement_requirementLocator tables locator found]
  simp only [Option.bind_eq_bind, Option.some_bind]
  rfl

/-! ## Recording opened types and fixed requirements -/

/-- `ConstraintSystem::recordOpenedTypes`: nothing for no replacements, for a locator ending in
`GenericParameter`, or for the empty locator; otherwise a new `OpenedTypes` entry. -/
def RequirementTables.recordOpenedTypes (tables : RequirementTables) (locator : Locator)
    (replacements : List (GenericParam × Nat)) : RequirementTables :=
  if replacements.isEmpty then tables
  else
    match locator.path.getLast? with
    | some (.genericParameter _) => tables
    | _ =>
      if locator.anchor.isNone && locator.path.isEmpty then tables
      else { tables with openedTypes := tables.openedTypes ++ [(locator, replacements)] }

/-- A recording for a locator without opened types is the one `find_if` reads. -/
theorem openedTypesOf_recordOpenedTypes {tables : RequirementTables} {locator : Locator}
    {replacements : List (GenericParam × Nat)}
    (recorded : (tables.recordOpenedTypes locator replacements).openedTypes =
      tables.openedTypes ++ [(locator, replacements)])
    (fresh : tables.openedTypesOf locator = none) :
    (tables.recordOpenedTypes locator replacements).openedTypesOf locator = some replacements := by
  simp only [RequirementTables.openedTypesOf, Option.map_eq_none'] at fresh ⊢
  simp [recorded, List.find?_append, fresh]

/-- `ConstraintSystem::isFixedRequirement`; the outer `none` is an assertion that fails. -/
def isFixedRequirement (tables : RequirementTables) (reqLocator : Locator) (requirementTy : Ty) :
    Option Bool :=
  (getRequirementInfo tables reqLocator).map fun
    | some (param, kind) => decide ((param, kind, requirementTy) ∈ tables.fixedRequirements)
    | none => false

/-- `ConstraintSystem::recordFixedRequirement`: a set insertion under the same key. -/
def recordFixedRequirement (tables : RequirementTables) (reqLocator : Locator)
    (requirementTy : Ty) : Option RequirementTables :=
  (getRequirementInfo tables reqLocator).map fun
    | some (param, kind) =>
      { tables with fixedRequirements := insertNew tables.fixedRequirements (param, kind, requirementTy) }
    | none => tables

/-- `getRequirementInfo` does not read the fixed requirements. -/
@[simp] theorem getRequirementInfo_fixedRequirements (tables : RequirementTables)
    (fixedRequirements : List (Option GenericParam × RequirementKind × Ty)) (reqLocator : Locator) :
    getRequirementInfo { tables with fixedRequirements := fixedRequirements } reqLocator =
      getRequirementInfo tables reqLocator :=
  rfl

/-- **Recording and checking a fixed requirement use one key**: after `recordFixedRequirement`,
`isFixedRequirement` for the same locator and type holds exactly when the locator has a key. -/
theorem isFixedRequirement_recordFixedRequirement {tables tables' : RequirementTables}
    {reqLocator : Locator} {requirementTy : Ty}
    (recorded : recordFixedRequirement tables reqLocator requirementTy = some tables') :
    isFixedRequirement tables' reqLocator requirementTy =
      (getRequirementInfo tables reqLocator).map Option.isSome := by
  unfold recordFixedRequirement at recorded
  cases found : getRequirementInfo tables reqLocator with
  | none => simp [found] at recorded
  | some info =>
    simp only [found, Option.map_some', Option.some.injEq] at recorded
    subst recorded
    cases info with
    | none => simp [isFixedRequirement, found]
    | some key => simp [isFixedRequirement, found]

/-! ## Opened requirements decode to their requirement -/

/-- **Requirement locators decode to the requirement they were opened from.**
`openGenericRequirements` adds exactly one constraint for each requirement it does not skip, in
the signature's order, at the locator of the requirement's own position. The locator of the
requirement at any position decodes by `getRequirement` to the requirement at that position.
When that requirement's first type is a generic parameter, `getRequirementInfo` reads the opened
types recorded for the base locator, once `recordOpenedTypes` recorded them for a locator that
had none; otherwise it gives no key. Recording and checking a fixed requirement at that locator
use one key. -/
theorem openGenericRequirements_decode {tables : RequirementTables} {outerDC : Nat}
    {signature : GenericSignature} {skipProtocolSelfConstraint : Bool} {locator : Locator}
    {substFn : InterfaceType → Ty} {replacements : List (GenericParam × Nat)}
    (recorded : (tables.recordOpenedTypes locator replacements).openedTypes =
      tables.openedTypes ++ [(locator, replacements)])
    (fresh : tables.openedTypesOf locator = none) :
    openGenericRequirements outerDC signature skipProtocolSelfConstraint locator substFn =
      (signature.requirements.enum.filter fun entry =>
        !skipsRequirement outerDC skipProtocolSelfConstraint entry.2).map (fun entry =>
          (entry.2.map substFn, locator.requirementLocator signature entry.1 entry.2.kind)) ∧
    ∀ pos req, signature.requirements[pos]? = some req →
      getRequirement (tables.recordOpenedTypes locator replacements)
          (locator.requirementLocator signature pos req.kind) = some (some req) ∧
      (∀ param, req.firstType = .genericParam param →
        getRequirementInfo (tables.recordOpenedTypes locator replacements)
            (locator.requirementLocator signature pos req.kind) =
          (tables.recordOpenedTypes locator replacements).openedInfo param req.kind replacements) ∧
      ((∀ param, req.firstType ≠ .genericParam param) →
        getRequirementInfo (tables.recordOpenedTypes locator replacements)
          (locator.requirementLocator signature pos req.kind) = some none) ∧
      ∀ requirementTy tables',
        recordFixedRequirement (tables.recordOpenedTypes locator replacements)
            (locator.requirementLocator signature pos req.kind) requirementTy = some tables' →
          isFixedRequirement tables' (locator.requirementLocator signature pos req.kind)
              requirementTy =
            (getRequirementInfo (tables.recordOpenedTypes locator replacements)
              (locator.requirementLocator signature pos req.kind)).map Option.isSome := by
  refine ⟨openGenericRequirements_eq _ _ _ _ _, fun pos req found =>
    ⟨getRequirement_requirementLocator _ locator found _, fun param isParam => ?_,
      getRequirementInfo_requirementLocator_of_not_param _ locator found,
      fun _ _ => isFixedRequirement_recordFixedRequirement⟩⟩
  rw [getRequirementInfo_requirementLocator _ locator found isParam,
    openedTypesOf_recordOpenedTypes recorded fresh]

/-- The opened types of a reference recorded for a locator with no entry yet, and a signature
of two requirements opened at it, the first of them the protocol `Self` conformance that is
skipped. -/
theorem openGenericRequirements_decode_fresh :
    ∃ (tables : RequirementTables) (locator : Locator) (replacements : List (GenericParam × Nat)),
      (tables.recordOpenedTypes locator replacements).openedTypes =
        tables.openedTypes ++ [(locator, replacements)] ∧ tables.openedTypesOf locator = none ∧
      openGenericRequirements 1 ⟨[.conformance selfInterfaceType 1, .conformance selfInterfaceType 2]⟩
          true locator (fun _ => .typeVariable 0) =
        [(.conformance (.typeVariable 0) 2, locator.requirementLocator
          ⟨[.conformance selfInterfaceType 1, .conformance selfInterfaceType 2]⟩ 1 .conformance)] ∧
      getRequirement (tables.recordOpenedTypes locator replacements) (locator.requirementLocator
          ⟨[.conformance selfInterfaceType 1, .conformance selfInterfaceType 2]⟩ 1 .conformance) =
        some (some (.conformance selfInterfaceType 2)) ∧
      getRequirementInfo (tables.recordOpenedTypes locator replacements) (locator.requirementLocator
          ⟨[.conformance selfInterfaceType 1, .conformance selfInterfaceType 2]⟩ 1 .conformance) =
        (tables.recordOpenedTypes locator replacements).openedInfo ⟨0, 0⟩ .conformance
          replacements := by
  obtain ⟨added, decoded⟩ := @openGenericRequirements_decode
    ⟨[], [], [], fun _ => some ⟨0, 0⟩, Arena.empty⟩ 1
    ⟨[.conformance selfInterfaceType 1, .conformance selfInterfaceType 2]⟩ true ⟨some 0, []⟩
    (fun _ => .typeVariable 0) [(⟨0, 0⟩, 0)] rfl rfl
  obtain ⟨found, info, -, -⟩ := decoded 1 (.conformance selfInterfaceType 2) rfl
  exact ⟨⟨[], [], [], fun _ => some ⟨0, 0⟩, Arena.empty⟩, ⟨some 0, []⟩, [(⟨0, 0⟩, 0)], rfl, rfl,
    added, found, info ⟨0, 0⟩ rfl⟩

/-- A second recording of opened types for a locator is not the one read. `getRequirementInfo`
reads the first entry, here one whose type variable was not opened for the requirement's
parameter, and finds no key; the second entry would give one. -/
theorem getRequirementInfo_reads_first_record :
    ∃ (tables : RequirementTables) (locator : Locator) (replacements : List (GenericParam × Nat)),
      tables.openedTypesOf locator ≠ none ∧
      (tables.recordOpenedTypes locator replacements).openedTypes =
        tables.openedTypes ++ [(locator, replacements)] ∧
      getRequirementInfo (tables.recordOpenedTypes locator replacements)
          (locator.requirementLocator ⟨[.conformance selfInterfaceType 1]⟩ 0 .conformance) =
        some none ∧
      (tables.recordOpenedTypes locator replacements).openedInfo ⟨0, 0⟩ .conformance
          replacements = some (some (some ⟨0, 0⟩, .conformance)) :=
  ⟨⟨[(⟨some 0, []⟩, [(⟨0, 0⟩, 1)])], [], [],
      fun v => if v = 2 then some ⟨0, 0⟩ else none, Arena.empty⟩,
    ⟨some 0, []⟩, [(⟨0, 0⟩, 2)], by decide, rfl, by decide, by decide⟩

end Constraints
