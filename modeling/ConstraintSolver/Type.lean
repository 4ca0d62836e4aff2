import Mathlib.Logic.Relation
import Mathlib.Data.List.Basic

/-! # Types as the constraint solver reads them

The solver consumes the AST's type graph without owning it. This module keeps the type
shapes that type simplification inspects: type variables, dependent member types whose base
may be rewritten, the `@lvalue` and `inout` specifiers that member lookup looks through,
dynamic `Self`, holes, and the unresolved and error types. Every other type is a nominal
leaf or a binary node (a generic argument, a function's input and result). Types are uniqued
by the AST context, so the pointer comparisons of the source are structural equality here,
and sugar is not modelled, so a type is its own canonical type.
-/

namespace Constraints

/-- A Swift type as the solver sees it. -/
inductive Ty where
  /-- `TypeVariableType`, named by its identifier. -/
  | typeVariable (id : Nat)
  /-- A nominal type, without generic arguments. -/
  | nominal (decl : Nat)
  /-- A generic type applied to one more generic argument. -/
  | boundGeneric (base argument : Ty)
  | function (input result : Ty)
  /-- `DependentMemberType`: the associated type `assocType` of `base`. -/
  | dependentMember (base : Ty) (assocType : Nat)
  | lvalue (objectType : Ty)
  | inOut (objectType : Ty)
  | dynamicSelf (selfType : Ty)
  /-- `HoleType`, remembering the dependent member type it replaced; it has no children. -/
  | hole (originator : Ty)
  | unresolved
  | error
  deriving DecidableEq, Repr

namespace Ty

/-- `TypeBase::getTypeVariables`: the type variables of a pre-order walk, repeats kept. -/
def typeVariables : Ty → List Nat
  | typeVariable v => [v]
  | boundGeneric base argument => base.typeVariables ++ argument.typeVariables
  | function input result => input.typeVariables ++ result.typeVariables
  | dependentMember base _ => base.typeVariables
  | lvalue objectType => objectType.typeVariables
  | inOut objectType => objectType.typeVariables
  | dynamicSelf selfType => selfType.typeVariables
  | nominal _ | hole _ | unresolved | error => []

/-- The recursive property `hasTypeVariable`. -/
def hasTypeVariable (type : Ty) : Bool := !type.typeVariables.isEmpty

/-- The recursive property `hasHole`. -/
def hasHole : Ty → Bool
  | hole _ => true
  | boundGeneric base argument => base.hasHole || argument.hasHole
  | function input result => input.hasHole || result.hasHole
  | dependentMember base _ => base.hasHole
  | lvalue objectType => objectType.hasHole
  | inOut objectType => objectType.hasHole
  | dynamicSelf selfType => selfType.hasHole
  | typeVariable _ | nominal _ | unresolved | error => false

/-- The recursive property `hasError`. -/
def hasError : Ty → Bool
  | error => true
  | boundGeneric base argument => base.hasError || argument.hasError
  | function input result => input.hasError || result.hasError
  | dependentMember base _ => base.hasError
  | lvalue objectType => objectType.hasError
  | inOut objectType => objectType.hasError
  | dynamicSelf selfType => selfType.hasError
  | typeVariable _ | nominal _ | hole _ | unresolved => false

/-- `getWithoutSpecifierType`: look through one `@lvalue` or `inout`. -/
def withoutSpecifierType : Ty → Ty
  | lvalue objectType => objectType
  | inOut objectType => objectType
  | type => type

/-- `isTypeVariableOrMember`: a type variable, or a member of one, however deep. -/
def isTypeVariableOrMember : Ty → Bool
  | typeVariable _ => true
  | dependentMember base _ => base.isTypeVariableOrMember
  | _ => false

/-- `getRValueType`: the transform that replaces each `@lvalue` by its object type. The
transform does not look inside the object type it returns. -/
def rvalueType : Ty → Ty
  | lvalue objectType => objectType
  | boundGeneric base argument => boundGeneric base.rvalueType argument.rvalueType
  | function input result => function input.rvalueType result.rvalueType
  | dependentMember base assocType => dependentMember base.rvalueType assocType
  | inOut objectType => inOut objectType.rvalueType
  | dynamicSelf selfType => dynamicSelf selfType.rvalueType
  | type => type

/-- `getAnyNominal`: the nominal declaration of a nominal or bound generic type. -/
def anyNominal : Ty → Option Nat
  | nominal decl => some decl
  | boundGeneric base _ => base.anyNominal
  | _ => none

/-- The transform in `Solution::simplifyType` that turns every hole into the unresolved
type. -/
def replaceHoles : Ty → Ty
  | hole _ => unresolved
  | boundGeneric base argument => boundGeneric base.replaceHoles argument.replaceHoles
  | function input result => function input.replaceHoles result.replaceHoles
  | dependentMember base assocType => dependentMember base.replaceHoles assocType
  | lvalue objectType => lvalue objectType.replaceHoles
  | inOut objectType => inOut objectType.replaceHoles
  | dynamicSelf selfType => dynamicSelf selfType.replaceHoles
  | type => type

@[simp] theorem hasTypeVariable_eq_false {type : Ty} :
    type.hasTypeVariable = false ↔ type.typeVariables = [] := by
  simp [hasTypeVariable]

@[simp] theorem typeVariables_replaceHoles (type : Ty) :
    type.replaceHoles.typeVariables = type.typeVariables := by
  induction type <;> simp_all [replaceHoles, typeVariables]

@[simp] theorem typeVariables_rvalueType (type : Ty) :
    type.rvalueType.typeVariables = type.typeVariables := by
  induction type <;> simp_all [rvalueType, typeVariables]

theorem mem_typeVariables_withoutSpecifierType {type : Ty} {v : Nat}
    (member : v ∈ type.withoutSpecifierType.typeVariables) : v ∈ type.typeVariables := by
  cases type <;> simp_all [withoutSpecifierType, typeVariables]

theorem hasHole_withoutSpecifierType {type : Ty} (holeFree : type.hasHole = false) :
    type.withoutSpecifierType.hasHole = false := by
  cases type <;> simp_all [withoutSpecifierType, hasHole]

end Ty

end Constraints
