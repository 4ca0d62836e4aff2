import ConstraintSolver.DesignatedTypes

/-! # Selecting the disjunction to attempt next

`ConstraintSystem::selectDisjunction` picks, among the disjunctions on the inactive list, the one
the solver branches on next. With operator designated types enabled it first looks for an
`ApplicableFunction` constraint whose arguments all carry type information, and returns the
disjunction of overloads bound to its function type variable, which it finds through the
constraint graph (`selectApplyDisjunction`). Otherwise it prefers a disjunction of bindings of a
type variable that is also the right-hand side of a conversion, then any disjunction of bindings
of a type variable (`selectBestBindingDisjunction`), and last the first disjunction with the
fewest active nested constraints.

When the representative links and the fixed-type bindings are acyclic, the disjunctions all have
nested constraints, and each applicable function's second type is an unbound type variable, the
selection never fails; it returns no disjunction exactly when the inactive list has none, and
what it returns follows that priority (`Constraints.selectDisjunction_follows_priority`).
-/

namespace Constraints

/-- What the selection reads of a constraint, by its identity: a disjunction with its nested
constraints, an `ApplicableFunction` constraint with the parameter types of its function type and
its second type, and a `Bind` or `BindOverload` constraint with its first type. Every other
constraint is `other`. -/
inductive ConstraintShape where
  | disjunction (nested : List Nat)
  | applicableFunction (params : List Ty) (secondType : Ty)
  | bind (firstType : Ty)
  | bindOverload (firstType : Ty)
  | other
  deriving DecidableEq, Repr

/-! ## The model -/

section
variable (context : DesignatedTypeContext)

/-- One comparison of the loop of `minimizeLiteralProtocols`: the candidate replaces the result
when its default type conforms to the result's protocol and not the other way round; when both or
neither conform, the function returns without minimizing (`none`). -/
def minimizeStep (result candidate : Nat × Ty) : Option (Nat × Ty) :=
  let first := context.conformsToProtocol candidate.2 result.1
  let second := context.conformsToProtocol result.2 candidate.1
  if first = second then none else some (if first then candidate else result)

/-- `ArgumentInfoCollector::minimizeLiteralProtocols`: of the protocols with a default type, keep
the one whose default type the loop settles on, and every protocol without one. -/
def minimizeLiteralProtocols (literalProtocols : List Nat) : List Nat :=
  if literalProtocols.length ≤ 1 then literalProtocols else
  let candidates := literalProtocols.filterMap fun protocol =>
    (context.defaultType protocol).map (protocol, ·)
  let skippedProtocols := literalProtocols.filter fun protocol =>
    (context.defaultType protocol).isNone
  match candidates with
  | first :: second :: rest =>
    match (second :: rest).foldlM (minimizeStep context) first with
    | some result => skippedProtocols.foldl insertNew [result.1]
    | none => literalProtocols
  | _ => literalProtocols

end

section
variable (cs : ConstraintSystem) (constraints : List GraphConstraint) (optionalDecl : Nat)
  (shape : Nat → ConstraintShape) (context : DesignatedTypeContext)

/-- The constructor `ArgumentInfoCollector(cs, param)`, which is in the header: the walk from the
parameter's type, then `minimizeLiteralProtocols`. The walk gets the fuel that suffices for it
(`Constraints.walk_terminates`). -/
def collectArgumentInfo (param : Ty) : Option ArgumentInfo :=
  (ArgumentInfoCollector.walk cs constraints optionalDecl (walkFuel cs constraints param) param).map
    fun info => { info with literalProtocols := minimizeLiteralProtocols context info.literalProtocols }

/-- `ConstraintSystem::haveTypeInformationForAllArguments`: every parameter's argument has a type
or a literal protocol. -/
def haveTypeInformationForAllArguments (params : List Ty) : Option Bool :=
  params.allM fun param => (collectArgumentInfo cs constraints optionalDecl context param).map
    fun info => decide (info.types.length + info.literalProtocols.length > 0)

/-- The predicate of `getUnboundBindOverloadDisjunction`: a disjunction whose first nested
constraint binds an overload to a type variable of the class of `currentRep`. -/
def bindsOverloadOf (candidate : GraphConstraint) (currentRep : Nat) : Bool :=
  match shape candidate.id with
  | .disjunction (front :: _) =>
    match shape front with
    | .bindOverload lhsTy =>
      match lhsTy.asTypeVariable with
      | some lhsTyVar => cs.getRepresentative lhsTyVar == some currentRep
      | none => false
    | _ => false
  | _ => false

/-- `ConstraintSystem::getUnboundBindOverloadDisjunction`; the outer `none` is its assertion that
the type variable has no fixed type. The search gets the fuel that suffices for it. -/
def getUnboundBindOverloadDisjunction (tyvar : Nat) : Option (Option Nat) := do
  if (← cs.getFixedType tyvar).isSome then none
  else
    let result ← findConstraintThroughOptionals cs constraints (findFuel cs constraints tyvar) tyvar
      .promote (bindsOverloadOf cs shape)
    pure (result.map (·.1.id))

/-- The loop of `ConstraintSystem::selectApplyDisjunction` over the inactive constraints; the
`castTo<TypeVariableType>` of the second type is an assertion. -/
def selectApplyDisjunctionFrom : List Nat → Option (Option Nat)
  | [] => some none
  | constraint :: rest =>
    match shape constraint with
    | .applicableFunction params secondType => do
      if ← haveTypeInformationForAllArguments cs constraints optionalDecl context params then
        let tyvar ← secondType.asTypeVariable
        match ← getUnboundBindOverloadDisjunction cs constraints shape tyvar with
        | some disjunction => some (some disjunction)
        | none => selectApplyDisjunctionFrom rest
      else selectApplyDisjunctionFrom rest
    | _ => selectApplyDisjunctionFrom rest

/-- `ConstraintSystem::collectDisjunctions`: the disjunctions of the inactive list, with their
nested constraints. -/
def collectDisjunctions : List (Nat × List Nat) :=
  cs.inactiveConstraints.filterMap fun constraint =>
    match shape constraint with
    | .disjunction nested => some (constraint, nested)
    | _ => none

/-- The `getAsTypeVar` of `selectBestBindingDisjunction`: the type variable a type simplifies to,
through `@lvalue`. -/
def getAsTypeVar (type : Ty) : Option (Option Nat) :=
  (cs.simplifyType type).map fun simplified => simplified.getRValueType.asTypeVariable

/-- The loop of `selectBestBindingDisjunction`, with `firstBindDisjunction`: a disjunction whose
first choice binds a type variable that is the right-hand side of a conversion of its class is
returned at once; otherwise the first disjunction binding a type variable. `choices.front()` is
an assertion. -/
def bestBindingDisjunction : Option Nat → List (Nat × List Nat) → Option (Option Nat)
  | firstBindDisjunction, [] => some firstBindDisjunction
  | firstBindDisjunction, (disjunction, nested) :: rest =>
    match nested with
    | [] => none
    | choice :: _ =>
      match shape choice with
      | .bind firstType => do
        match ← getAsTypeVar cs firstType with
        | none => bestBindingDisjunction firstBindDisjunction rest
        | some typeVar =>
          let rep ← cs.getRepresentative typeVar
          let conversions := (gatherEquivalenceClass cs constraints rep).filter
            (·.kind == .conversion)
          if ← conversions.anyM fun constraint =>
              (getAsTypeVar cs constraint.secondType).map (· == some typeVar) then
            some (some disjunction)
          else bestBindingDisjunction (firstBindDisjunction <|> some disjunction) rest
      | _ => bestBindingDisjunction firstBindDisjunction rest

/-- `Constraint::countActiveNestedConstraints`, in the header: the nested constraints not
disabled. -/
def countActiveNestedConstraints (nested : List Nat) : Nat :=
  (nested.filter fun constraint => !(cs.constraints constraint).isDisabled).length

/-- `std::min_element` by `countActiveNestedConstraints`: the first disjunction with the
fewest. -/
def minDisjunction : List (Nat × List Nat) → Option (Nat × List Nat)
  | [] => none
  | first :: rest => some (rest.foldl (fun smallest disjunction =>
      if countActiveNestedConstraints cs disjunction.2 < countActiveNestedConstraints cs smallest.2
      then disjunction else smallest) first)

/-- The first attempt of `selectDisjunction`: `selectApplyDisjunction`, when
`TypeCheckerOpts.SolverEnableOperatorDesignatedTypes` is set. -/
def applyDisjunction (solverEnableOperatorDesignatedTypes : Bool) : Option (Option Nat) :=
  if solverEnableOperatorDesignatedTypes then
    selectApplyDisjunctionFrom cs constraints optionalDecl shape context cs.inactiveConstraints
  else some none

/-- `ConstraintSystem::selectDisjunction`, given
`TypeCheckerOpts.SolverEnableOperatorDesignatedTypes`. -/
def selectDisjunction (solverEnableOperatorDesignatedTypes : Bool) : Option (Option Nat) :=
  let disjunctions := collectDisjunctions cs shape
  if disjunctions.isEmpty then some none else
  (applyDisjunction cs constraints optionalDecl shape context
      solverEnableOperatorDesignatedTypes).bind fun
    | some disjunction => some (some disjunction)
    | none => (bestBindingDisjunction cs constraints shape none disjunctions).bind fun
      | some disjunction => some (some disjunction)
      | none => some ((minDisjunction cs disjunctions).map (·.1))

/-- A disjunction whose first choice is a `Bind` of a type that simplifies to a type variable. -/
def IsBindingDisjunction (disjunction : Nat × List Nat) : Prop :=
  ∃ choice rest firstType typeVar, disjunction.2 = choice :: rest ∧
    shape choice = .bind firstType ∧ getAsTypeVar cs firstType = some (some typeVar)

end

/-! ## What the searches return -/

/-- `chosen` is a disjunction of the constraint graph whose first nested constraint binds an
overload. -/
def BindsOverloadDisjunction (constraints : List GraphConstraint) (shape : Nat → ConstraintShape)
    (chosen : Nat) : Prop :=
  ∃ candidate ∈ constraints, candidate.id = chosen ∧
    ∃ front rest lhsTy, shape chosen = .disjunction (front :: rest) ∧ shape front = .bindOverload lhsTy

/-- What the loop of `selectBestBindingDisjunction` promises from `firstBindDisjunction` over
`disjunctions`: nothing is selected only when nothing was recorded and no disjunction binds a type
variable, and what is selected was recorded or binds a type variable. -/
structure BindingChoice (cs : ConstraintSystem) (shape : Nat → ConstraintShape)
    (firstBind : Option Nat) (disjunctions : List (Nat × List Nat)) (selected : Option Nat) : Prop where
  unselected : selected = none →
    firstBind = none ∧ ∀ d ∈ disjunctions, ¬ IsBindingDisjunction cs shape d
  chosen : ∀ chosen, selected = some chosen →
    firstBind = some chosen ∨ ∃ d ∈ disjunctions, d.1 = chosen ∧ IsBindingDisjunction cs shape d

section
variable {cs : ConstraintSystem} {constraints : List GraphConstraint} {optionalDecl : Nat}
  {shape : Nat → ConstraintShape} {context : DesignatedTypeContext}

theorem anyM_exists {α : Type} {p : α → Option Bool} :
    ∀ {elements : List α}, (∀ element ∈ elements, ∃ b, p element = some b) →
      ∃ b, elements.anyM p = some b
  | [], _ => ⟨false, rfl⟩
  | element :: rest, total => by
    obtain ⟨b, found⟩ := total element (List.mem_cons_self _ _)
    obtain ⟨later, rest⟩ := anyM_exists fun other member => total other (List.mem_cons_of_mem _ member)
    cases b
    · exact ⟨later, by simp [List.anyM, found, rest]⟩
    · exact ⟨true, by simp [List.anyM, found]⟩

theorem allM_exists {α : Type} {p : α → Option Bool} :
    ∀ {elements : List α}, (∀ element ∈ elements, ∃ b, p element = some b) →
      ∃ b, elements.allM p = some b
  | [], _ => ⟨true, rfl⟩
  | element :: rest, total => by
    obtain ⟨b, found⟩ := total element (List.mem_cons_self _ _)
    obtain ⟨later, rest⟩ := allM_exists fun other member => total other (List.mem_cons_of_mem _ member)
    cases b
    · exact ⟨false, by simp [List.allM, found]⟩
    · exact ⟨later, by simp [List.allM, found, rest]⟩

theorem isBindingDisjunction_cons {disjunction choice : Nat} {rest : List Nat} :
    IsBindingDisjunction cs shape (disjunction, choice :: rest) ↔
      ∃ firstType typeVar, shape choice = .bind firstType ∧
        getAsTypeVar cs firstType = some (some typeVar) := by
  constructor
  · rintro ⟨_, _, firstType, typeVar, ⟨⟩, bound, simplified⟩
    exact ⟨firstType, typeVar, bound, simplified⟩
  · rintro ⟨firstType, typeVar, bound, simplified⟩
    exact ⟨choice, rest, firstType, typeVar, rfl, bound, simplified⟩

theorem BindingChoice.skip {firstBind : Option Nat} {d : Nat × List Nat}
    {rest : List (Nat × List Nat)} {selected : Option Nat}
    (notBinding : ¬ IsBindingDisjunction cs shape d) (later : BindingChoice cs shape firstBind rest selected) :
    BindingChoice cs shape firstBind (d :: rest) selected := by
  refine ⟨fun unselected => ?_, fun chosen picked => ?_⟩
  · obtain ⟨unrecorded, noneBinding⟩ := later.1 unselected
    exact ⟨unrecorded, fun other member => (List.mem_cons.mp member).elim (· ▸ notBinding)
      (noneBinding other)⟩
  · rcases later.2 chosen picked with recorded | ⟨other, member, named, binding⟩
    · exact .inl recorded
    · exact .inr ⟨other, List.mem_cons_of_mem _ member, named, binding⟩

theorem BindingChoice.record {firstBind : Option Nat} {d : Nat × List Nat}
    {rest : List (Nat × List Nat)} {selected : Option Nat}
    (binding : IsBindingDisjunction cs shape d)
    (later : BindingChoice cs shape (firstBind <|> some d.1) rest selected) :
    BindingChoice cs shape firstBind (d :: rest) selected := by
  refine ⟨fun unselected => ?_, fun chosen picked => ?_⟩
  · exact absurd (later.1 unselected).1 (by cases firstBind <;> simp)
  · rcases later.2 chosen picked with recorded | ⟨other, member, named, otherBinding⟩
    · cases firstBind with
      | none => exact .inr ⟨d, List.mem_cons_self _ _, Option.some.inj recorded, binding⟩
      | some first => exact .inl recorded
    · exact .inr ⟨other, List.mem_cons_of_mem _ member, named, otherBinding⟩

section
variable (representatives : cs.arena.RepresentativesAcyclic) (bindings : cs.arena.BindingsAcyclic)
include representatives bindings

theorem getAsTypeVar_exists (type : Ty) : ∃ found, getAsTypeVar cs type = some found :=
  Option.isSome_iff_exists.mp (by
    simpa [getAsTypeVar, ConstraintSystem.simplifyType] using
      simplifyType_isSome representatives bindings type)

/-- **Run lemma** of `selectBestBindingDisjunction`: over disjunctions that all have choices, the
loop returns, and what it returns is a `BindingChoice`. -/
theorem bestBindingDisjunction_spec :
    ∀ (disjunctions : List (Nat × List Nat)) (firstBind : Option Nat),
      (∀ d ∈ disjunctions, d.2 ≠ []) →
      ∃ selected, bestBindingDisjunction cs constraints shape firstBind disjunctions = some selected ∧
        BindingChoice cs shape firstBind disjunctions selected
  | [], firstBind, _ => ⟨firstBind, rfl, fun unselected => ⟨unselected, by simp⟩, fun _ chosen => .inl chosen⟩
  | (disjunction, nested) :: rest, firstBind, nonempty => by
    obtain ⟨choice, more, rfl⟩ := List.exists_cons_of_ne_nil (nonempty _ (List.mem_cons_self _ _))
    have restNonempty := fun d member => nonempty d (List.mem_cons_of_mem _ member)
    have notBinding : ∀ firstType, shape choice = .bind firstType →
        getAsTypeVar cs firstType = some none →
        ¬ IsBindingDisjunction cs shape (disjunction, choice :: more) := by
      intro firstType bound simplified
      rw [isBindingDisjunction_cons]
      rintro ⟨firstType', typeVar, bound', simplified'⟩
      cases bound.symm.trans bound'
      cases simplified.symm.trans simplified'
    cases shaped : shape choice
    case bind firstType =>
      obtain ⟨found, simplified⟩ := getAsTypeVar_exists representatives bindings firstType
      cases found with
      | none =>
        obtain ⟨selected, loop, choice⟩ :=
          bestBindingDisjunction_spec rest firstBind restNonempty
        exact ⟨selected, by simp [bestBindingDisjunction, shaped, simplified, loop],
          choice.skip (notBinding firstType shaped simplified)⟩
      | some typeVar =>
        have binding : IsBindingDisjunction cs shape (disjunction, choice :: more) :=
          isBindingDisjunction_cons.mpr ⟨firstType, typeVar, shaped, simplified⟩
        obtain ⟨rep, represented⟩ := ConstraintSystem.getRepresentative_exists representatives typeVar
        obtain ⟨converts, searched⟩ := @anyM_exists _ (fun constraint =>
            (getAsTypeVar cs constraint.secondType).map (· == some typeVar))
          ((gatherEquivalenceClass cs constraints rep).filter (·.kind == .conversion))
          fun constraint _ => by
            obtain ⟨found, simplified⟩ := getAsTypeVar_exists representatives bindings
              constraint.secondType
            exact ⟨found == some typeVar, by simp only [simplified, Option.map_some']⟩
        cases converts
        · obtain ⟨selected, loop, choice⟩ :=
            bestBindingDisjunction_spec rest (firstBind <|> some disjunction) restNonempty
          exact ⟨selected, by simp [bestBindingDisjunction, shaped, simplified, represented,
            searched, loop], choice.record binding⟩
        · refine ⟨some disjunction, by simp [bestBindingDisjunction, shaped, simplified,
            represented, searched], ⟨(fun unselected => by cases unselected), fun chosen picked => ?_⟩⟩
          exact .inr ⟨_, List.mem_cons_self _ _, Option.some.inj picked, binding⟩
    all_goals
      obtain ⟨selected, loop, choice⟩ := bestBindingDisjunction_spec rest firstBind restNonempty
      refine ⟨selected, by simp [bestBindingDisjunction, shaped, loop], choice.skip ?_⟩
      rw [isBindingDisjunction_cons]
      rintro ⟨_, _, bound, _⟩
      cases shaped.symm.trans bound

end

/-- `std::min_element` keeps one of the disjunctions, with no more active choices than any. -/
theorem foldl_smallest (count : Nat × List Nat → Nat) :
    ∀ (rest : List (Nat × List Nat)) (first : Nat × List Nat),
      rest.foldl (fun smallest d => if count d < count smallest then d else smallest) first ∈
          first :: rest ∧
        ∀ d ∈ first :: rest,
          count (rest.foldl (fun smallest d => if count d < count smallest then d else smallest)
            first) ≤ count d
  | [], first => ⟨List.mem_singleton_self _, fun d member => by
      rw [List.mem_singleton.mp member]; rfl⟩
  | next :: rest, first => by
    by_cases smaller : count next < count first
    · obtain ⟨member, least⟩ := foldl_smallest count rest next
      simp only [List.foldl_cons, smaller, ↓reduceIte]
      refine ⟨List.mem_cons_of_mem _ member, fun d inList => ?_⟩
      rcases List.mem_cons.mp inList with rfl | inRest
      · have throughNext := least _ (List.mem_cons_self _ _)
        omega
      · exact least d inRest
    · obtain ⟨member, least⟩ := foldl_smallest count rest first
      simp only [List.foldl_cons, smaller, ↓reduceIte]
      refine ⟨((List.sublist_cons_self next rest).cons₂ first).subset member, fun d inList => ?_⟩
      rcases List.mem_cons.mp inList with rfl | inRest
      · exact least _ (List.mem_cons_self _ _)
      rcases List.mem_cons.mp inRest with rfl | later
      · have throughFirst := least _ (List.mem_cons_self _ _)
        omega
      · exact least d (List.mem_cons_of_mem _ later)

theorem minDisjunction_spec (disjunctions : List (Nat × List Nat)) :
    (minDisjunction cs disjunctions = none ↔ disjunctions = []) ∧
      ∀ smallest, minDisjunction cs disjunctions = some smallest → smallest ∈ disjunctions ∧
        ∀ d ∈ disjunctions,
          countActiveNestedConstraints cs smallest.2 ≤ countActiveNestedConstraints cs d.2 := by
  cases disjunctions with
  | nil => exact ⟨by simp [minDisjunction], fun _ unselected => by cases unselected⟩
  | cons first rest =>
    refine ⟨by simp [minDisjunction], fun smallest found => ?_⟩
    cases found
    exact foldl_smallest (fun d => countActiveNestedConstraints cs d.2) rest first

section
variable (representatives : cs.arena.RepresentativesAcyclic)
include representatives

theorem haveTypeInformationForAllArguments_exists (params : List Ty) :
    ∃ b, haveTypeInformationForAllArguments cs constraints optionalDecl context params = some b :=
  allM_exists fun param _ => by
    obtain ⟨info, walked, -⟩ := walk_terminates representatives constraints optionalDecl param le_rfl
    exact ⟨decide (info.types.length +
      (minimizeLiteralProtocols context info.literalProtocols).length > 0),
      by rw [collectArgumentInfo, walked]; rfl⟩

/-- On an unbound type variable, `getUnboundBindOverloadDisjunction` returns, and what it finds is
a disjunction of the graph whose first choice binds an overload. -/
theorem getUnboundBindOverloadDisjunction_spec {tyvar : Nat} (unbound : cs.getFixedType tyvar = some none) :
    ∃ result, getUnboundBindOverloadDisjunction cs constraints shape tyvar = some result ∧
      ∀ chosen, result = some chosen → BindsOverloadDisjunction constraints shape chosen := by
  obtain ⟨rep, result, visitedVars, -, loop, -, found⟩ := findConstraintThroughOptionals_terminates
    representatives constraints tyvar .promote (bindsOverloadOf cs shape) le_rfl
  refine ⟨result.map (·.1.id), by simp [getUnboundBindOverloadDisjunction, unbound, found],
    fun chosen named => ?_⟩
  obtain ⟨⟨candidate, count⟩, rfl, rfl⟩ := Option.map_eq_some'.mp named
  obtain ⟨path, -, -, -, -, first⟩ := findThroughOptionals_found representatives loop
  obtain ⟨gathered, accepted⟩ := List.mem_filter.mp (List.mem_of_mem_head? first)
  simp only [Bool.and_eq_true] at accepted
  refine ⟨candidate, (List.mem_filter.mp gathered).1, rfl, ?_⟩
  have binds := accepted.2
  unfold bindsOverloadOf at binds
  split at binds
  · next front rest isDisjunction =>
    split at binds
    · next lhsTy isBindOverload => exact ⟨front, rest, lhsTy, isDisjunction, isBindOverload⟩
    · cases binds
  · cases binds

/-- **Run lemma** of `selectApplyDisjunction`: when every applicable function's second type is an
unbound type variable, the loop returns, and what it finds is a disjunction of the graph whose
first choice binds an overload. -/
theorem selectApplyDisjunctionFrom_spec :
    ∀ inactive : List Nat, (∀ constraint ∈ inactive, ∀ params secondType,
      shape constraint = .applicableFunction params secondType →
        ∃ tyvar, secondType = .typeVariable tyvar ∧ cs.getFixedType tyvar = some none) →
      ∃ result, selectApplyDisjunctionFrom cs constraints optionalDecl shape context inactive =
          some result ∧
        ∀ chosen, result = some chosen → BindsOverloadDisjunction constraints shape chosen
  | [], _ => ⟨none, rfl, fun _ unselected => by cases unselected⟩
  | constraint :: rest, applicable => by
    obtain ⟨result, loop, found⟩ := selectApplyDisjunctionFrom_spec rest
      fun other member => applicable other (List.mem_cons_of_mem _ member)
    cases shaped : shape constraint
    case applicableFunction params secondType =>
      obtain ⟨tyvar, rfl, unbound⟩ := applicable constraint (List.mem_cons_self _ _) params
        secondType shaped
      obtain ⟨informed, haveInformation⟩ :=
        @haveTypeInformationForAllArguments_exists cs constraints optionalDecl context
          representatives params
      obtain ⟨disjunction, unboundFound, bindsOverload⟩ :=
        @getUnboundBindOverloadDisjunction_spec cs constraints shape representatives tyvar unbound
      cases informed
      · exact ⟨result, by simp [selectApplyDisjunctionFrom, shaped, haveInformation, loop], found⟩
      · cases disjunction with
        | none => exact ⟨result, by simp [selectApplyDisjunctionFrom, shaped, haveInformation,
            Ty.asTypeVariable, unboundFound, loop], found⟩
        | some chosen => exact ⟨some chosen, by simp [selectApplyDisjunctionFrom, shaped,
            haveInformation, Ty.asTypeVariable, unboundFound], bindsOverload⟩
    all_goals exact ⟨result, by simp [selectApplyDisjunctionFrom, shaped, loop], found⟩

end

end

/-! ## The selection -/

section
variable {cs : ConstraintSystem} {constraints : List GraphConstraint} {optionalDecl : Nat}
  {shape : Nat → ConstraintShape} {context : DesignatedTypeContext}

/-- **The selection never fails and follows the priority.** Take acyclic representative links and
fixed-type bindings, disjunctions that all have choices, and applicable functions whose second
types are unbound type variables. `selectDisjunction` returns, with no disjunction exactly when the
inactive list has none. With designated types enabled it may return a disjunction of the graph
whose first choice binds an overload; otherwise it returns an inactive disjunction that binds a
type variable, or, when none does, one with no more active choices than any other. -/
theorem selectDisjunction_follows_priority (representatives : cs.arena.RepresentativesAcyclic)
    (bindings : cs.arena.BindingsAcyclic)
    (nonempty : ∀ d ∈ collectDisjunctions cs shape, d.2 ≠ [])
    (applicable : ∀ constraint ∈ cs.inactiveConstraints, ∀ params secondType,
      shape constraint = .applicableFunction params secondType →
        ∃ tyvar, secondType = .typeVariable tyvar ∧ cs.getFixedType tyvar = some none)
    (solverEnableOperatorDesignatedTypes : Bool) :
    ∃ selected, selectDisjunction cs constraints optionalDecl shape context
        solverEnableOperatorDesignatedTypes = some selected ∧
      (selected = none ↔ collectDisjunctions cs shape = []) ∧
      ∀ chosen, selected = some chosen →
        (solverEnableOperatorDesignatedTypes = true ∧
          BindsOverloadDisjunction constraints shape chosen) ∨
        ∃ d ∈ collectDisjunctions cs shape, d.1 = chosen ∧
          (IsBindingDisjunction cs shape d ∨
            (∀ other ∈ collectDisjunctions cs shape, ¬ IsBindingDisjunction cs shape other) ∧
              ∀ other ∈ collectDisjunctions cs shape,
                countActiveNestedConstraints cs d.2 ≤ countActiveNestedConstraints cs other.2) := by
  unfold selectDisjunction
  by_cases empty : collectDisjunctions cs shape = []
  · simp only [empty, List.isEmpty_nil, ↓reduceIte]
    exact ⟨none, rfl, by simp, fun _ unselected => by cases unselected⟩
  obtain ⟨applied, appliedFound, appliedBinds⟩ : ∃ applied,
      applyDisjunction cs constraints optionalDecl shape context
        solverEnableOperatorDesignatedTypes = some applied ∧
      ∀ chosen, applied = some chosen → solverEnableOperatorDesignatedTypes = true ∧
        BindsOverloadDisjunction constraints shape chosen := by
    unfold applyDisjunction
    cases solverEnableOperatorDesignatedTypes
    · exact ⟨none, rfl, fun _ unselected => by cases unselected⟩
    · obtain ⟨result, found, binds⟩ := selectApplyDisjunctionFrom_spec representatives _ applicable
      exact ⟨result, found, fun chosen picked => ⟨rfl, binds chosen picked⟩⟩
  obtain ⟨binding, bindingFound, choice⟩ := @bestBindingDisjunction_spec cs constraints shape
    representatives bindings (collectDisjunctions cs shape) none nonempty
  have notEmpty : ¬ (collectDisjunctions cs shape).isEmpty = true :=
    fun isEmpty => empty (List.isEmpty_iff.mp isEmpty)
  rw [if_neg notEmpty, appliedFound, Option.some_bind]
  cases applied with
  | some chosen =>
    exact ⟨some chosen, rfl, iff_of_false (by simp) empty, fun _ picked =>
      .inl (appliedBinds _ (Option.some.inj picked ▸ rfl))⟩
  | none =>
    rw [bindingFound, Option.some_bind]
    cases binding with
    | some chosen =>
      refine ⟨some chosen, rfl, iff_of_false (by simp) empty, fun _ picked => .inr ?_⟩
      obtain ⟨d, member, named, binding⟩ := (choice.chosen chosen rfl).resolve_left (by simp)
      exact ⟨d, member, named.trans (Option.some.inj picked), .inl binding⟩
    | none =>
      have smallest := @minDisjunction_spec cs (collectDisjunctions cs shape)
      obtain ⟨least, found⟩ := Option.ne_none_iff_exists'.mp (mt smallest.1.mp empty)
      obtain ⟨member, fewest⟩ := smallest.2 least found
      refine ⟨some least.1, by rw [found]; rfl, iff_of_false (by simp) empty, fun _ picked => ?_⟩
      exact .inr ⟨least, member, Option.some.inj picked, .inr ⟨(choice.unselected rfl).2, fewest⟩⟩

end

/-- Two disjunctions on the inactive list, the first with two choices and the second with one, and
no binding of a type variable among them. -/
def twoDisjunctions : ConstraintSystem :=
  { ConstraintSystem.empty .trivial with inactiveConstraints := [0, 1] }

/-- The shapes of the constraints of `twoDisjunctions`. -/
def twoDisjunctionShapes : Nat → ConstraintShape
  | 0 => .disjunction [2, 3]
  | 1 => .disjunction [4]
  | _ => .other

theorem selectDisjunction_follows_priority_fewest :
    ∃ selected, selectDisjunction twoDisjunctions [] 0 twoDisjunctionShapes integerThenFloat false =
        some selected ∧
      (selected = none ↔ collectDisjunctions twoDisjunctions twoDisjunctionShapes = []) ∧
      ∀ chosen, selected = some chosen →
        (false = true ∧ BindsOverloadDisjunction [] twoDisjunctionShapes chosen) ∨
        ∃ d ∈ collectDisjunctions twoDisjunctions twoDisjunctionShapes, d.1 = chosen ∧
          (IsBindingDisjunction twoDisjunctions twoDisjunctionShapes d ∨
            (∀ other ∈ collectDisjunctions twoDisjunctions twoDisjunctionShapes,
              ¬ IsBindingDisjunction twoDisjunctions twoDisjunctionShapes other) ∧
              ∀ other ∈ collectDisjunctions twoDisjunctions twoDisjunctionShapes,
                countActiveNestedConstraints twoDisjunctions d.2 ≤
                  countActiveNestedConstraints twoDisjunctions other.2) :=
  selectDisjunction_follows_priority Arena.empty_representativesAcyclic Arena.empty_bindingsAcyclic
    (by decide) (fun constraint member params secondType shaped => by
      simp only [twoDisjunctions, List.mem_cons, List.mem_singleton, List.not_mem_nil, or_false]
        at member
      rcases member with rfl | rfl <;> cases shaped) false

end Constraints
