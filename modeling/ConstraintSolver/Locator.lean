import ConstraintSolver.System

/-! # Locators and their simplification

A locator is an anchor, a node of the AST, with a path of elements that say how a constraint
was reached from it. AST nodes are compared by identity, so an anchor is a handle into the AST,
`none` for the null node, and the AST gives the shape of the node behind each handle with the
handles of its children. Locators are interned by the constraint system on their anchor and
path, so a locator is its anchor and its path here.

`simplifyLocator` walks the path from its first element and, while the anchor has the shape
an element names, moves the anchor into the named child and drops the element; elements that
are only there to identify the constraint are dropped outright. One iteration of its loop is
`simplifyLocatorStep`: it continues with a new anchor and a shorter path, stops, or fails on a
cast the code asserts. The loop stops exactly where one iteration stops, so simplifying a
simplified locator changes nothing (`Constraints.locator_simplify_fixpoint`), with one
exception: the `FunctionBuilderBodyResult` case drops its element and then leaves the loop
with `break` instead of `continue`, so what follows it is simplified only by a second run
(`Constraints.simplifyLocator_functionBuilderBodyResult_not_idempotent`). In every AST the loop
only moves down: it leaves a suffix of the path, a descendant of the anchor, and a range that is
the member name of an `UnresolvedDotExpr` it passed (`Constraints.simplifyLocator_moves_down`).
-/

namespace Constraints

open Relation

/-- The shape of an AST node as `simplifyLocator` reads it, with the handles of the children it
moves into. Every other node, an expression of another kind, a declaration, a statement or a
pattern, is `other`. -/
inductive NodeShape where
  /-- `ApplyExpr`: the function and the argument. -/
  | apply (fn arg : Nat)
  /-- `SubscriptExpr`: the base and the index. -/
  | subscript (base index : Nat)
  /-- `ObjectLiteralExpr`: the argument. -/
  | objectLiteral (arg : Nat)
  | tuple (elements : List Nat)
  | paren (subExpr : Nat)
  /-- `CollectionExpr`: an array or dictionary literal. -/
  | collection (elements : List Nat)
  | typeExpr
  /-- `UnresolvedDotExpr`: the base, and the source range of the member name. -/
  | unresolvedDot (base : Nat) (nameLoc : Nat)
  /-- `ClosureExpr`: its body if it is a single expression. -/
  | closure (singleExpressionBody : Option Nat)
  /-- `KeyPathExpr`: the index expression of each component, if it has one. -/
  | keyPath (indexExprs : List (Option Nat))
  /-- `IfExpr`, the ternary operator. -/
  | ifExpr (cond thenExpr elseExpr : Nat)
  | unresolvedMemberChainResult (subExpr : Nat)
  | other
  deriving DecidableEq, Repr

/-! ## Generic signatures and their requirements -/

/-- `GenericTypeParamType`: a generic parameter by its depth and index. -/
structure GenericParam where
  depth : Nat
  index : Nat
  deriving DecidableEq, Repr

/-- The interface types a requirement is stated over: a generic parameter, or another type (a
dependent member type of one). -/
inductive InterfaceType where
  | genericParam (param : GenericParam)
  | other (id : Nat)
  deriving DecidableEq, Repr

/-- `getSelfInterfaceType` of a protocol: its `Self` parameter, the first at depth zero. -/
def selfInterfaceType : InterfaceType := .genericParam ⟨0, 0⟩

/-- `RequirementKind`. -/
inductive RequirementKind where
  | conformance
  | superclass
  | sameType
  | layout
  deriving DecidableEq, Repr

/-- `Requirement` over types `α`: interface types in a signature, opened types once opened. A
conformance names its protocol declaration and a layout requirement its layout constraint. -/
inductive Requirement (α : Type) where
  | conformance (first : α) (proto : Nat)
  | superclass (first second : α)
  | sameType (first second : α)
  | layout (first : α) (layoutConstraint : Nat)
  deriving DecidableEq, Repr

/-- `Requirement::getKind`. -/
def Requirement.kind {α : Type} : Requirement α → RequirementKind
  | .conformance .. => .conformance
  | .superclass .. => .superclass
  | .sameType .. => .sameType
  | .layout .. => .layout

/-- `Requirement::getFirstType`. -/
def Requirement.firstType {α : Type} : Requirement α → α
  | .conformance first _ | .superclass first _ | .sameType first _ | .layout first _ => first

/-- A generic signature by its requirements. Signatures are uniqued, so two signatures with the
same requirements are the same signature. -/
structure GenericSignature where
  requirements : List (Requirement InterfaceType)
  deriving DecidableEq, Repr

/-! ## Locators -/

/-- The elements of a locator's path that the solver reads back, with their payloads. Every
other element is `other`, named by its kind. -/
inductive PathElt where
  | applyArgument
  | dynamicCallable
  | applyFunction
  | functionResult
  | autoclosureResult
  | lvalueConversion
  | rvalueAdjustment
  | unresolvedMember
  | implicitCallAsFunction
  | namedTupleElement (index : Nat)
  | tupleElement (index : Nat)
  | applyArgToParam (argIdx paramIdx : Nat)
  | constructorMember
  | member
  | memberRefBase
  | subscriptMember
  | closureBody
  | closureResult
  | contextualType
  | keyPathComponent (index : Nat)
  | condition
  | ternaryBranch (forThen : Bool)
  | keyPathDynamicMember
  | argumentAttribute
  | functionBuilderBodyResult
  | unresolvedMemberChainResult
  /-- `GenericParameter`: the generic parameter a type was opened for. -/
  | genericParameter (param : GenericParam)
  /-- `OpenedGeneric`: the signature whose requirements were opened. -/
  | openedGeneric (signature : GenericSignature)
  /-- `TypeParameterRequirement`: a requirement of an opened signature, by its position. -/
  | typeParameterRequirement (index : Nat) (kind : RequirementKind)
  /-- `ConditionalRequirement`: a conditional requirement of a conformance, by its position. -/
  | conditionalRequirement (index : Nat) (kind : RequirementKind)
  | other (kind : Nat)
  deriving DecidableEq, Repr

/-- An interned locator: its anchor, `none` for the null node, and its path. -/
structure Locator where
  anchor : Option Nat
  path : List PathElt
  deriving DecidableEq, Repr

/-! ## One iteration of `simplifyLocator` -/

/-- What an iteration does to the source range: keep it, or set it (`SourceRange()` is
`none`). -/
inductive RangeUpdate where
  | keep
  | set (range : Option Nat)
  deriving Repr

/-- `RangeUpdate` applied to a range. -/
def RangeUpdate.apply : RangeUpdate → Option Nat → Option Nat
  | .keep, range => range
  | .set range, _ => range

@[simp] theorem RangeUpdate.apply_keep (range : Option Nat) : RangeUpdate.keep.apply range = range :=
  rfl

@[simp] theorem RangeUpdate.apply_set (range range' : Option Nat) :
    (RangeUpdate.set range').apply range = range' :=
  rfl

/-- The outcome of one iteration of the loop of `simplifyLocator`. -/
inductive LocatorStep where
  /-- `continue` with a new anchor and the rest of the path. -/
  | next (anchor : Option Nat) (path : List PathElt) (range : RangeUpdate)
  /-- `break` with the path as it is. -/
  | stop
  /-- `break` after the path was sliced. -/
  | stopAt (path : List PathElt)
  /-- A `castToExpr` that does not hold, or an index without an index expression. -/
  | fail
  deriving Repr

section
variable (ast : Nat → NodeShape)

/-- `isExpr<TupleExpr>(anchor) || isExpr<ParenExpr>(anchor)`. -/
def isTupleOrParen (node : Nat) : Bool :=
  match ast node with
  | .tuple _ | .paren _ => true
  | _ => false

/-- One iteration of the loop of `simplifyLocator`, on the first element of the path. -/
def simplifyLocatorStep (anchor : Option Nat) : PathElt → List PathElt → LocatorStep
  | .applyArgument, rest =>
    match anchor.map ast with
    | some (.apply _ arg) => .next (some arg) rest .keep
    | some (.subscript _ index) =>
      match rest with
      | .applyArgToParam _ _ :: afterArg =>
        if isTupleOrParen ast index then .next (some index) rest .keep
        else .next (some index) afterArg .keep
      | _ => .next (some index) rest .keep
    | some (.objectLiteral arg) => .next (some arg) rest .keep
    | _ => .stop
  | .dynamicCallable, rest => .next anchor rest .keep
  | .applyFunction, rest | .functionResult, rest =>
    match anchor.map ast with
    | some (.apply fn _) => .next (some fn) rest .keep
    | some (.subscript _ _) => .next anchor rest .keep
    | _ => .stop
  | .autoclosureResult, rest | .lvalueConversion, rest | .rvalueAdjustment, rest
  | .unresolvedMember, rest | .implicitCallAsFunction, rest => .next anchor rest .keep
  | .namedTupleElement index, rest | .tupleElement index, rest =>
    match anchor.map ast with
    | some (.tuple elements) | some (.collection elements) =>
      match elements[index]? with
      | some element => .next (some element) rest .keep
      | none => .stop
    | _ => .stop
  | .applyArgToParam argIdx _, rest =>
    match anchor.map ast with
    | some (.tuple elements) =>
      match elements[argIdx]? with
      | some element => .next (some element) rest .keep
      | none => .stop
    | some (.paren subExpr) => if argIdx = 0 then .next (some subExpr) rest .keep else .stop
    | _ => .stop
  | .constructorMember, rest =>
    match anchor.map ast with
    | some .typeExpr => .next anchor rest (.set none)
    | some (.unresolvedDot base nameLoc) => .next (some base) rest (.set (some nameLoc))
    | _ => .stop
  | .member, rest | .memberRefBase, rest =>
    match anchor.map ast with
    | some (.unresolvedDot base nameLoc) => .next (some base) rest (.set (some nameLoc))
    | _ => .stop
  | .subscriptMember, rest =>
    match anchor.map ast with
    | some (.subscript _ _) => .next anchor rest .keep
    | _ => .stop
  | .closureBody, rest | .closureResult, rest =>
    match anchor.map ast with
    | some (.closure (some body)) => .next (some body) rest .keep
    | _ => .stop
  | .contextualType, rest => .next anchor rest .keep
  | .keyPathComponent index, rest =>
    match rest with
    | .applyArgument :: afterArg =>
      match anchor.map ast with
      | some (.keyPath indexExprs) =>
        match indexExprs[index]? with
        | some (some indexExpr) => .next (some indexExpr) afterArg .keep
        | _ => .fail
      | _ => .stop
    | _ => .stop
  | .condition, rest =>
    match anchor.map ast with
    | some (.ifExpr cond _ _) => .next (some cond) rest .keep
    | _ => .fail
  | .ternaryBranch forThen, rest =>
    match anchor.map ast with
    | some (.ifExpr _ thenExpr elseExpr) =>
      .next (some (if forThen then thenExpr else elseExpr)) rest .keep
    | _ => .fail
  | .keyPathDynamicMember, rest => .next anchor rest .keep
  | .functionBuilderBodyResult, rest => .stopAt rest
  | .unresolvedMemberChainResult, rest =>
    match anchor.map ast with
    | some (.unresolvedMemberChainResult subExpr) => .next (some subExpr) rest .keep
    | _ => .fail
  | _, _ => .stop

end

section
variable {ast : Nat → NodeShape}

/-- An iteration that continues drops at least the element it looked at. -/
theorem simplifyLocatorStep_next_suffix {anchor anchor' : Option Nat} {element : PathElt}
    {rest path : List PathElt} {range : RangeUpdate}
    (continues : simplifyLocatorStep ast anchor element rest = .next anchor' path range) :
    path <:+ rest := by
  cases element <;> simp only [simplifyLocatorStep] at continues
  all_goals repeat' split at continues
  all_goals first
    | (cases continues; first | exact List.suffix_refl _ | exact List.suffix_cons _ _)
    | cases continues

/-- An iteration that continues from the null node stays at the null node: the null node has no
children to move into. -/
theorem simplifyLocatorStep_null_next {anchor' : Option Nat} {element : PathElt}
    {rest path : List PathElt} {range : RangeUpdate}
    (continues : simplifyLocatorStep ast none element rest = .next anchor' path range) :
    anchor' = none := by
  cases element <;>
    simp only [simplifyLocatorStep, Option.map_none', LocatorStep.next.injEq, reduceCtorEq] at continues
  all_goals first | exact continues.1.symm | (split at continues <;> simp_all)

/-- Only `FunctionBuilderBodyResult` slices the path and stops. -/
theorem simplifyLocatorStep_stopAt {anchor : Option Nat} {element : PathElt}
    {rest path : List PathElt} (stops : simplifyLocatorStep ast anchor element rest = .stopAt path) :
    element = .functionBuilderBodyResult := by
  cases element <;> simp only [simplifyLocatorStep, reduceCtorEq] at stops
  case functionBuilderBodyResult => rfl
  all_goals repeat' split at stops
  all_goals cases stops

end

/-! ## The loop -/

section
variable (ast : Nat → NodeShape)

-- `continues` is read only by `decreasing_by`, which the unused-variables linter does not see.
set_option linter.unusedVariables false in
/-- The loop of `simplifyLocator` from a given range. -/
def simplifyLocatorFrom : Option Nat → List PathElt → Option Nat →
    Option (Option Nat × List PathElt × Option Nat)
  | anchor, [], range => some (anchor, [], range)
  | anchor, element :: rest, range =>
    match continues : simplifyLocatorStep ast anchor element rest with
    | .next anchor' path' update => simplifyLocatorFrom anchor' path' (update.apply range)
    | .stop => some (anchor, element :: rest, range)
    | .stopAt path' => some (anchor, path', range)
    | .fail => none
termination_by _ path _ => path.length
decreasing_by
  have := (simplifyLocatorStep_next_suffix continues).length_le
  simp only [List.length_cons]
  omega

/-- `constraints::simplifyLocator(ASTNode &, ArrayRef<LocatorPathElt> &, SourceRange &)`: the
anchor, the path and the range it leaves; `none` where an assertion fails. -/
def simplifyLocator (anchor : Option Nat) (path : List PathElt) :
    Option (Option Nat × List PathElt × Option Nat) :=
  simplifyLocatorFrom ast anchor path none

/-- `constraints::simplifyLocatorToAnchor`: the anchor once the whole path is simplified away,
or the null node; the outer `none` is an assertion that fails. -/
def simplifyLocatorToAnchor (locator : Locator) : Option (Option Nat) :=
  match locator.anchor with
  | none => some none
  | some node => (simplifyLocator ast (some node) locator.path).map fun simplified =>
      if simplified.2.1.isEmpty then simplified.1 else none

/-- `constraints::simplifyLocator(ConstraintSystem &, ConstraintLocator *, SourceRange &)`: the
interned locator of the simplified anchor and path. When nothing was simplified it is the
locator itself, which interning makes the same. -/
def Locator.simplify (locator : Locator) : Option (Locator × Option Nat) :=
  (simplifyLocator ast locator.anchor locator.path).map fun simplified =>
    (⟨simplified.1, simplified.2.1⟩, simplified.2.2)

end

/-! ## A simplified locator simplifies to itself -/

section
variable {ast : Nat → NodeShape}

/-- Where the loop leaves its anchor and path: the path is empty, or one iteration stops there. -/
theorem simplifyLocatorFrom_stops {anchor anchor' : Option Nat} {path path' : List PathElt}
    {range range' : Option Nat} (noBuilderResult : .functionBuilderBodyResult ∉ path)
    (simplified : simplifyLocatorFrom ast anchor path range = some (anchor', path', range')) :
    path' = [] ∨ ∃ element rest, path' = element :: rest ∧
      simplifyLocatorStep ast anchor' element rest = .stop := by
  induction anchor, path, range using simplifyLocatorFrom.induct ast with
  | case1 anchor range =>
    simp only [simplifyLocatorFrom, Option.some.injEq, Prod.mk.injEq] at simplified
    exact .inl simplified.2.1.symm
  | case2 anchor element rest range anchor'' path'' update continues ih =>
    rw [simplifyLocatorFrom, continues] at simplified
    exact ih (fun member => noBuilderResult
      (List.mem_cons_of_mem _ ((simplifyLocatorStep_next_suffix continues).subset member)))
      simplified
  | case3 anchor element rest range stops =>
    rw [simplifyLocatorFrom, stops] at simplified
    obtain ⟨rfl, rfl, rfl⟩ := Prod.mk.inj_iff.mp (Option.some.inj simplified) |>.imp_right
      Prod.mk.inj_iff.mp
    exact .inr ⟨element, rest, rfl, stops⟩
  | case4 anchor element rest range path'' stops =>
    exact absurd (simplifyLocatorStep_stopAt stops ▸ List.mem_cons_self _ _) noBuilderResult
  | case5 anchor element rest range fails =>
    rw [simplifyLocatorFrom, fails] at simplified
    cases simplified

/-- **Simplification reaches a fixpoint in one run**, on a path without a
`FunctionBuilderBodyResult` element: simplifying the anchor and path it leaves gives them back
unchanged. -/
theorem simplifyLocator_idempotent {anchor anchor' : Option Nat} {path path' : List PathElt}
    {range : Option Nat} (noBuilderResult : .functionBuilderBodyResult ∉ path)
    (simplified : simplifyLocator ast anchor path = some (anchor', path', range)) :
    simplifyLocator ast anchor' path' = some (anchor', path', none) := by
  rcases simplifyLocatorFrom_stops noBuilderResult simplified with rfl | ⟨element, rest, rfl, stops⟩
  · rw [simplifyLocator, simplifyLocatorFrom]
  · rw [simplifyLocator, simplifyLocatorFrom, stops]

/-- The loop never leaves the null node. -/
theorem simplifyLocatorFrom_null {anchor anchor' : Option Nat} {path path' : List PathElt}
    {range range' : Option Nat} (isNull : anchor = none)
    (simplified : simplifyLocatorFrom ast anchor path range = some (anchor', path', range')) :
    anchor' = none := by
  induction anchor, path, range using simplifyLocatorFrom.induct ast with
  | case1 anchor range =>
    simp only [simplifyLocatorFrom, Option.some.injEq, Prod.mk.injEq] at simplified
    exact simplified.1 ▸ isNull
  | case2 anchor element rest range anchor'' path'' update continues ih =>
    rw [simplifyLocatorFrom, continues] at simplified
    exact ih (simplifyLocatorStep_null_next (isNull ▸ continues)) simplified
  | case3 anchor element rest range stops | case4 anchor element rest range _ stops =>
    rw [simplifyLocatorFrom, stops] at simplified
    exact (Prod.mk.inj_iff.mp (Option.some.inj simplified)).1 ▸ isNull
  | case5 anchor element rest range fails =>
    rw [simplifyLocatorFrom, fails] at simplified
    cases simplified

/-- **A simplified locator simplifies to itself**, on a path without a
`FunctionBuilderBodyResult` element: simplifying the simplified locator gives it back with no
source range, and `simplifyLocatorToAnchor` gives the same answer on a locator and on its
simplification. -/
theorem locator_simplify_fixpoint {locator simplified : Locator} {range : Option Nat}
    (noBuilderResult : .functionBuilderBodyResult ∉ locator.path)
    (isSimplified : locator.simplify ast = some (simplified, range)) :
    simplified.simplify ast = some (simplified, none) ∧
      simplifyLocatorToAnchor ast simplified = simplifyLocatorToAnchor ast locator := by
  obtain ⟨⟨anchor', path', range'⟩, found, equal⟩ := Option.map_eq_some'.mp isSimplified
  cases equal
  have again := simplifyLocator_idempotent noBuilderResult found
  refine ⟨by simp only [Locator.simplify, again, Option.map_some'], ?_⟩
  unfold simplifyLocatorToAnchor
  split
  next =>
    split
    next => rfl
    next => simp_all
  next _ _ simplifiedNode =>
    simp only at simplifiedNode
    subst simplifiedNode
    split
    next _ locatorNull => cases simplifyLocatorFrom_null locatorNull found
    next _ _ locatorNode =>
      rw [locatorNode] at found
      simp [again, found]

end

/-- **Simplification does not reach a fixpoint after `FunctionBuilderBodyResult`.** Its case
slices the element off and leaves the loop, so the `ContextualType` after it, which the loop
strips, is stripped only by a second run; and `simplifyLocatorToAnchor` finds no anchor for the
locator but finds the anchor for its simplification. This holds in every AST, at every node. -/
theorem simplifyLocator_functionBuilderBodyResult_not_idempotent (ast : Nat → NodeShape)
    (node : Nat) :
    simplifyLocator ast (some node) [.functionBuilderBodyResult, .contextualType] =
        some (some node, [.contextualType], none) ∧
      simplifyLocator ast (some node) [.contextualType] = some (some node, [], none) ∧
      simplifyLocatorToAnchor ast ⟨some node, [.functionBuilderBodyResult, .contextualType]⟩ =
        some none ∧
      simplifyLocatorToAnchor ast ⟨some node, [.contextualType]⟩ = some (some node) := by
  simp [simplifyLocatorToAnchor, simplifyLocator, simplifyLocatorFrom, simplifyLocatorStep]

/-! ## Simplification only moves down the AST -/

/-- The handles of the children of a node that `simplifyLocator` can move into. -/
def NodeShape.children : NodeShape → List Nat
  | .apply fn arg | .subscript fn arg => [fn, arg]
  | .objectLiteral subExpr | .paren subExpr | .unresolvedDot subExpr _
  | .unresolvedMemberChainResult subExpr => [subExpr]
  | .tuple elements | .collection elements => elements
  | .typeExpr | .other => []
  | .closure body => body.toList
  | .keyPath indexExprs => indexExprs.filterMap id
  | .ifExpr cond thenExpr elseExpr => [cond, thenExpr, elseExpr]

/-- `child` is a child of the node behind `parent`; the null node has no children and is no
child. -/
def ChildOf (ast : Nat → NodeShape) : Option Nat → Option Nat → Prop
  | some node, some child => child ∈ (ast node).children
  | _, _ => False

/-- The source range is unset, or it is the member name of an `UnresolvedDotExpr` on the way
from `start` down to `anchor`. -/
def RangeBelow (ast : Nat → NodeShape) (start anchor range : Option Nat) : Prop :=
  ∀ loc, range = some loc → ∃ node base, ReflTransGen (ChildOf ast) start (some node) ∧
    ReflTransGen (ChildOf ast) (some node) anchor ∧ ast node = .unresolvedDot base loc

section
variable {ast : Nat → NodeShape}

theorem childOf_of_map {anchor : Option Nat} {shape : NodeShape} {child : Nat}
    (isShape : anchor.map ast = some shape) (member : child ∈ shape.children) :
    ChildOf ast anchor (some child) := by
  obtain ⟨node, rfl, rfl⟩ := Option.map_eq_some'.mp isShape
  exact member

/-- An iteration that continues keeps its anchor or moves into one of its children. -/
theorem simplifyLocatorStep_next_child {anchor anchor' : Option Nat} {element : PathElt}
    {rest path : List PathElt} {update : RangeUpdate}
    (continues : simplifyLocatorStep ast anchor element rest = .next anchor' path update) :
    anchor' = anchor ∨ ChildOf ast anchor anchor' := by
  cases element <;> simp only [simplifyLocatorStep] at continues
  all_goals repeat' split at continues
  all_goals cases continues
  all_goals first
    | exact .inl rfl
    | refine .inr (childOf_of_map ‹_› ?_)
  all_goals first
    | exact List.mem_cons_self _ _
    | exact List.mem_cons_of_mem _ (List.mem_cons_self _ _)
    | exact List.mem_cons_of_mem _ (List.mem_cons_of_mem _ (List.mem_cons_self _ _))
    | exact List.getElem?_mem ‹_›
    | exact List.mem_filterMap.mpr ⟨_, List.getElem?_mem ‹_›, rfl⟩

/-- An iteration that continues keeps the range, clears it, or sets it to the member name of
the `UnresolvedDotExpr` it stands on and moves into its base. -/
theorem simplifyLocatorStep_next_range {anchor anchor' : Option Nat} {element : PathElt}
    {rest path : List PathElt} {update : RangeUpdate}
    (continues : simplifyLocatorStep ast anchor element rest = .next anchor' path update)
    {range : Option Nat} {loc : Nat} (isSet : update.apply range = some loc) :
    range = some loc ∨
      ∃ node base, anchor = some node ∧ ast node = .unresolvedDot base loc ∧ anchor' = some base := by
  cases element <;> simp only [simplifyLocatorStep] at continues
  all_goals repeat' split at continues
  all_goals cases continues
  all_goals simp only [RangeUpdate.apply_keep, RangeUpdate.apply_set] at isSet
  all_goals first
    | exact .inl isSet
    | cases isSet
  all_goals obtain ⟨node, rfl, shape⟩ := Option.map_eq_some'.mp ‹_›
  all_goals exact .inr ⟨node, _, rfl, shape, rfl⟩

/-- **Run lemma**: from an anchor at or below `start` and a range that names a member on the way
down to it, the loop leaves a suffix of its path, an anchor at or below `start`, and a range
that names a member on the way down to that anchor. -/
theorem simplifyLocatorFrom_below {start anchor anchor' : Option Nat} {path path' : List PathElt}
    {range range' : Option Nat} (below : ReflTransGen (ChildOf ast) start anchor)
    (rangeBelow : RangeBelow ast start anchor range)
    (simplified : simplifyLocatorFrom ast anchor path range = some (anchor', path', range')) :
    path' <:+ path ∧ ReflTransGen (ChildOf ast) start anchor' ∧
      RangeBelow ast start anchor' range' := by
  induction anchor, path, range using simplifyLocatorFrom.induct ast with
  | case1 anchor range =>
    simp only [simplifyLocatorFrom, Option.some.injEq, Prod.mk.injEq] at simplified
    obtain ⟨rfl, rfl, rfl⟩ := simplified
    exact ⟨List.suffix_refl _, below, rangeBelow⟩
  | case2 anchor element rest range anchor'' path'' update continues ih =>
    rw [simplifyLocatorFrom, continues] at simplified
    have step : ReflTransGen (ChildOf ast) anchor anchor'' := by
      rcases simplifyLocatorStep_next_child continues with rfl | child
      · exact .refl
      · exact .single child
    have rangeNext : RangeBelow ast start anchor'' (update.apply range) := fun loc isSet => by
      rcases simplifyLocatorStep_next_range continues isSet with named | ⟨node, base, rfl, shape, rfl⟩
      · obtain ⟨node, base, above, toAnchor, shape⟩ := rangeBelow loc named
        exact ⟨node, base, above, toAnchor.trans step, shape⟩
      · exact ⟨node, base, below, step, shape⟩
    obtain ⟨suffix, belowEnd, rangeEnd⟩ := ih (below.trans step) rangeNext simplified
    exact ⟨suffix.trans ((simplifyLocatorStep_next_suffix continues).trans
      (List.suffix_cons _ _)), belowEnd, rangeEnd⟩
  | case3 anchor element rest range stops =>
    rw [simplifyLocatorFrom, stops, Option.some.injEq] at simplified
    obtain ⟨rfl, rfl, rfl⟩ := Prod.mk.inj_iff.mp simplified |>.imp_right Prod.mk.inj_iff.mp
    exact ⟨List.suffix_refl _, below, rangeBelow⟩
  | case4 anchor element rest range path'' stops =>
    rw [simplifyLocatorFrom, stops, Option.some.injEq] at simplified
    obtain ⟨rfl, rfl, rfl⟩ := Prod.mk.inj_iff.mp simplified |>.imp_right Prod.mk.inj_iff.mp
    cases simplifyLocatorStep_stopAt stops
    cases stops
    exact ⟨List.suffix_cons _ _, below, rangeBelow⟩
  | case5 anchor element rest range fails =>
    rw [simplifyLocatorFrom, fails] at simplified
    cases simplified

/-- **Simplification only moves down the AST.** Whatever the AST, when `simplifyLocator` returns,
the path it leaves is a suffix of the path it was given, its anchor is the anchor it was given
or a descendant of it, and the source range it reports is unset or the member name of an
`UnresolvedDotExpr` on the way from the one anchor down to the other. -/
theorem simplifyLocator_moves_down {anchor anchor' : Option Nat} {path path' : List PathElt}
    {range : Option Nat} (simplified : simplifyLocator ast anchor path = some (anchor', path', range)) :
    path' <:+ path ∧ ReflTransGen (ChildOf ast) anchor anchor' ∧
      ∀ loc, range = some loc → ∃ node base, ReflTransGen (ChildOf ast) anchor (some node) ∧
        ReflTransGen (ChildOf ast) (some node) anchor' ∧ ast node = .unresolvedDot base loc :=
  simplifyLocatorFrom_below .refl (fun _ unset => by cases unset) simplified

end

/-- An application whose argument is a member reference `base.name`: node 0 applies node 1 to
node 2, node 2 is the member reference of node 3, and 9 is the range of the name. -/
def memberArgument : Nat → NodeShape
  | 0 => .apply 1 2
  | 2 => .unresolvedDot 3 9
  | _ => .other

theorem simplifyLocator_moves_down_memberArgument :
    [] <:+ [PathElt.applyArgument, .member] ∧ ReflTransGen (ChildOf memberArgument) (some 0) (some 3) ∧
      ∀ loc, some 9 = some loc → ∃ node base,
        ReflTransGen (ChildOf memberArgument) (some 0) (some node) ∧
          ReflTransGen (ChildOf memberArgument) (some node) (some 3) ∧
          memberArgument node = .unresolvedDot base loc :=
  simplifyLocator_moves_down (by simp [simplifyLocator, simplifyLocatorFrom, simplifyLocatorStep,
    memberArgument])

theorem locator_simplify_fixpoint_memberArgument :
    (⟨some 3, []⟩ : Locator).simplify memberArgument = some (⟨some 3, []⟩, none) ∧
      simplifyLocatorToAnchor memberArgument ⟨some 3, []⟩ =
        simplifyLocatorToAnchor memberArgument ⟨some 0, [.applyArgument, .member]⟩ :=
  @locator_simplify_fixpoint memberArgument _ _ (some 9) (by decide) (by simp [Locator.simplify, simplifyLocator,
    simplifyLocatorFrom, simplifyLocatorStep, memberArgument])

end Constraints
