import Mathlib.Data.List.Basic

/-! # Actor isolation of references

`checkActorIsolation` walks an expression and checks each reference against the isolation
restriction of the declaration it names. A reference to an actor member through `self`, or to
a local capture from inside an actor, is diagnosed when it is made from code that may run
concurrently with the context of `self` or of the local. `mayExecuteConcurrentlyWith` decides
that by walking the parent chain from the use up to the definition, stopping at module scope.

Declaration contexts are built with their parents, and module-scope contexts only at the top,
so the walk is a structural recursion. On every context whose chain reaches the definition, the
walk answers exactly whether some context on the chain below the definition is an escaping
closure or a local function that is a local capture
(`Constraints.mayExecuteConcurrentlyWith_eq`). The two reference checks diagnose exactly then
(`Constraints.isolation_checks_exact`).
-/

namespace Constraints

/-- A class declaration, and whether it is an actor. -/
structure ClassDecl where
  id : Nat
  isActor : Bool
  deriving DecidableEq, Repr

/-- The type a closure was given, as `mayExecuteConcurrentlyWith` reads it: a function type with
its `isNoEscape`, or another type. -/
inductive ClosureType where
  | function (isNoEscape : Bool)
  | other
  deriving DecidableEq, Repr

/-- A module-scope context: a module, or a file of one. -/
inductive ModuleScope where
  | module (id : Nat)
  | fileUnit (id : Nat) (module : Nat)
  deriving DecidableEq, Repr

/-- What the checks read of a declaration context below module scope. An
`AbstractClosureExpr` has the type it was given, if any. An `AbstractFunctionDecl` records
whether it is a local capture. A type context records the class declaration its `Self` is, if
any. -/
inductive ContextKind where
  | closure (type : Option ClosureType)
  | function (isLocalCapture : Bool)
  | typeContext (selfClassDecl : Option ClassDecl)
  | other
  deriving DecidableEq, Repr

/-- A `DeclContext` with the chain of its parents. -/
inductive DeclContext where
  | moduleScope (scope : ModuleScope)
  | child (id : Nat) (kind : ContextKind) (parent : DeclContext)
  deriving DecidableEq, Repr

namespace DeclContext

/-- `isModuleScopeContext`. -/
def isModuleScopeContext : DeclContext → Bool
  | moduleScope _ => true
  | child .. => false

/-- `getSelfClassDecl`. -/
def getSelfClassDecl : DeclContext → Option ClassDecl
  | child _ (.typeContext selfClassDecl) _ => selfClassDecl
  | _ => none

/-- The context and its parents, up to the module. -/
def ancestors : DeclContext → List DeclContext
  | moduleScope (.module id) => [moduleScope (.module id)]
  | moduleScope (.fileUnit id module) => [moduleScope (.fileUnit id module), moduleScope (.module module)]
  | child id kind parent => child id kind parent :: parent.ancestors

/-- Modelled from the spec: a closure whose function type is escaping, or a function declaration
that is a local capture. -/
def mayRunConcurrently : DeclContext → Bool
  | child _ (.closure (some (.function isNoEscape))) _ => !isNoEscape
  | child _ (.function isLocalCapture) _ => isLocalCapture
  | _ => false

end DeclContext

/-- `ActorIsolationWalker::mayExecuteConcurrentlyWith`; the outer `none` is the call of
`isModuleScopeContext` on the null parent of a module. -/
def mayExecuteConcurrentlyWith (useContext defContext : DeclContext) : Option Bool :=
  match useContext with
  | .moduleScope scope =>
    if .moduleScope scope = defContext then some false
    else
      match scope with
      | .module _ => none
      | .fileUnit .. => some false
  | .child id kind parent =>
    if .child id kind parent = defContext then some false
    else
      match kind with
      | .closure (some (.function false)) => some true
      | .function true => some true
      | _ =>
        if parent.isModuleScopeContext then some false
        else mayExecuteConcurrentlyWith parent defContext

/-- `getNearestEnclosingActorContext`. -/
def getNearestEnclosingActorContext : DeclContext → Option ClassDecl
  | .moduleScope _ => none
  | .child id kind parent =>
    match (DeclContext.child id kind parent).getSelfClassDecl with
    | some classDecl => if classDecl.isActor then some classDecl
      else getNearestEnclosingActorContext parent
    | none => getNearestEnclosingActorContext parent

/-! ## The walk up the context chain -/

/-- Modelled from the spec: some context on the parent chain from the use, inclusive, up to the
definition, exclusive, may run concurrently. -/
def concurrentBetween (useContext defContext : DeclContext) : Bool :=
  (useContext.ancestors.takeWhile (· ≠ defContext)).any DeclContext.mayRunConcurrently

@[simp] theorem concurrentBetween_self (context : DeclContext) :
    concurrentBetween context context = false := by
  cases context with
  | moduleScope scope => cases scope <;> simp [concurrentBetween, DeclContext.ancestors]
  | child => simp [concurrentBetween, DeclContext.ancestors]

/-- Above module scope nothing runs concurrently. -/
theorem concurrentBetween_moduleScope (scope : ModuleScope) (defContext : DeclContext) :
    concurrentBetween (.moduleScope scope) defContext = false := by
  rw [concurrentBetween, List.any_eq_false]
  intro context member
  have onChain := (List.takeWhile_sublist _).subset member
  cases scope <;> simp only [DeclContext.ancestors, List.mem_cons, List.mem_singleton,
    List.not_mem_nil, or_false] at onChain <;> rcases onChain with rfl | rfl <;> simp [DeclContext.mayRunConcurrently]

theorem concurrentBetween_child {id : Nat} {kind : ContextKind} {parent defContext : DeclContext}
    (different : .child id kind parent ≠ defContext) :
    concurrentBetween (.child id kind parent) defContext =
      ((DeclContext.child id kind parent).mayRunConcurrently ||
        concurrentBetween parent defContext) := by
  simp [concurrentBetween, DeclContext.ancestors, different]

/-- One step of the walk: below the definition, a context that may run concurrently answers at
once, and otherwise the walk moves to the parent unless that is module scope. -/
theorem mayExecuteConcurrentlyWith_child {id : Nat} {kind : ContextKind}
    {parent defContext : DeclContext} (different : .child id kind parent ≠ defContext) :
    mayExecuteConcurrentlyWith (.child id kind parent) defContext =
      if (DeclContext.child id kind parent).mayRunConcurrently then some true
      else if parent.isModuleScopeContext then some false
      else mayExecuteConcurrentlyWith parent defContext := by
  rw [mayExecuteConcurrentlyWith.eq_def]
  simp only [if_neg different]
  rcases kind with (_ | ⟨_ | _⟩ | _) | (_ | _) | _ | _ <;> simp [DeclContext.mayRunConcurrently]

/-- **The walk is exact**: on a use whose chain reaches the definition, `mayExecuteConcurrentlyWith`
stops and answers whether some context on the chain below the definition may run
concurrently. -/
theorem mayExecuteConcurrentlyWith_eq {useContext defContext : DeclContext}
    (ancestor : defContext ∈ useContext.ancestors) :
    mayExecuteConcurrentlyWith useContext defContext = some (concurrentBetween useContext defContext) := by
  induction useContext with
  | moduleScope scope =>
    rw [concurrentBetween_moduleScope, mayExecuteConcurrentlyWith.eq_def]
    simp only
    split
    · rfl
    · cases scope with
      | module id => simp_all [DeclContext.ancestors]
      | fileUnit => rfl
  | child id kind parent ih =>
    by_cases same : .child id kind parent = defContext
    · subst same
      simp [mayExecuteConcurrentlyWith]
    · have above : defContext ∈ parent.ancestors := by
        simpa [DeclContext.ancestors, Ne.symm same] using ancestor
      rw [mayExecuteConcurrentlyWith_child same, concurrentBetween_child same]
      cases concurrent : (DeclContext.child id kind parent).mayRunConcurrently
      · rw [if_neg Bool.false_ne_true, Bool.false_or]
        split
        · rename_i atModuleScope
          cases parent with
          | moduleScope scope => rw [concurrentBetween_moduleScope]
          | child => cases atModuleScope
        · exact ih above
      · rfl

/-! ## The reference checks -/

/-- The kinds of declaration `IsolationRestriction::forDeclaration` tells apart. `type` stands for
associated types, classes, enums, extensions, generic parameters, opaque types, protocols,
structs and type aliases. `enumElement` stands for enum cases and enum elements. `nonValue`
stands for the declarations that are not values, top-level code among them. `var` stands for
parameters and variables. -/
inductive IsolationDeclKind where
  | type
  | constructor
  | enumElement
  | nonValue
  | destructor
  | var (isLet : Bool) (hasStorage : Bool)
  | accessor
  | func
  | subscript
  deriving DecidableEq, Repr

/-- Whether a declaration is an `AbstractFunctionDecl`. -/
def IsolationDeclKind.isAbstractFunction : IsolationDeclKind → Bool
  | .constructor | .destructor | .accessor | .func => true
  | _ => false

/-- What the isolation checks read of a referenced declaration. -/
structure IsolationDecl where
  id : Nat
  kind : IsolationDeclKind
  isLocalCapture : Bool
  isInstanceMember : Bool
  isAsyncContext : Bool
  declContext : DeclContext
  deriving DecidableEq, Repr

/-- `IsolationRestriction`. -/
inductive IsolationRestriction where
  | unrestricted
  | unsafeAccess
  | localCapture (localContext : DeclContext)
  | actorSelf (actorClass : ClassDecl)
  deriving DecidableEq, Repr

/-- `swift::getActorIsolatingMember`. -/
def getActorIsolatingMember (value : IsolationDecl) : Option ClassDecl :=
  if !value.isInstanceMember then none
  else
    match value.declContext.getSelfClassDecl with
    | none => none
    | some classDecl =>
      if !classDecl.isActor then none
      else if value.kind.isAbstractFunction && value.isAsyncContext then none
      else some classDecl

/-- `IsolationRestriction::forDeclaration`. -/
def IsolationRestriction.forDeclaration (decl : IsolationDecl) : IsolationRestriction :=
  match decl.kind with
  | .type | .constructor | .enumElement | .nonValue | .destructor | .var true _ => .unrestricted
  | .var false _ | .accessor | .func | .subscript =>
    if decl.isLocalCapture then .localCapture decl.declContext
    else
      match getActorIsolatingMember decl with
      | some actorClass => .actorSelf actorClass
      | none => .unsafeAccess

/-- The diagnostics of the isolation checks, with the declaration they name. -/
inductive IsolationDiagnostic where
  | actorIsolatedNonSelfReference (member : Nat) (sameActor : Bool)
  | actorIsolatedConcurrentAccess (member : Nat)
  | concurrentAccessLocal (value : Nat)
  | sharedMutableStateAccess (value : Nat)
  /-- The note `actor_isolated_method`. -/
  | actorIsolatedMethod (member : Nat)
  /-- The note `actor_mutable_state`. -/
  | actorMutableState (member : Nat)
  /-- The note `kind_declared_here`. -/
  | kindDeclaredHere (decl : Nat)
  deriving DecidableEq, Repr

/-- `noteIsolatedActorMember`. -/
def noteIsolatedActorMember (decl : IsolationDecl) : IsolationDiagnostic :=
  if decl.kind.isAbstractFunction then .actorIsolatedMethod decl.id
  else
    match decl.kind with
    | .var .. => .actorMutableState decl.id
    | _ => .kindDeclaredHere decl.id

/-- `diagnoseReferenceToUnsafe`: whether it diagnosed, with what it emitted. -/
def diagnoseUnsafeReference (dc : DeclContext) (value : IsolationDecl) :
    Bool × List IsolationDiagnostic :=
  if (getNearestEnclosingActorContext dc).isNone then (false, [])
  else
    match value.kind with
    | .var _ true => (true, [.sharedMutableStateAccess value.id, .kindDeclaredHere value.id])
    | _ => (false, [])

/-- `checkNonMemberReference` from the walker's current context `dc`: whether it diagnosed, with
what it emitted. The outer `none` is an `llvm_unreachable`, or the walk up from a module. -/
def checkNonMemberReference (dc : DeclContext) (value : Option IsolationDecl) :
    Option (Bool × List IsolationDiagnostic) :=
  match value with
  | none => some (false, [])
  | some value =>
    match IsolationRestriction.forDeclaration value with
    | .unrestricted => some (false, [])
    | .actorSelf _ => none
    | .localCapture localContext =>
      if (getNearestEnclosingActorContext dc).isNone then some (false, [])
      else (mayExecuteConcurrentlyWith dc localContext).map fun concurrent =>
        if concurrent then (true, [.concurrentAccessLocal value.id, .kindDeclaredHere value.id])
        else (false, [])
    | .unsafeAccess => some (diagnoseUnsafeReference dc value)

/-- What `checkMemberReference` reads of its base expression: the declaration context of the
`self` parameter it refers to, through identity expressions, implicit conversions and `super`
(`getSelfReference`), if it refers to one. -/
structure BaseExpr where
  selfParameterContext : Option DeclContext
  deriving DecidableEq, Repr

/-- `checkMemberReference` from the walker's current context `dc`. -/
def checkMemberReference (dc : DeclContext) (base : Option BaseExpr)
    (member : Option IsolationDecl) : Option (Bool × List IsolationDiagnostic) :=
  match base, member with
  | some base, some member =>
    match IsolationRestriction.forDeclaration member with
    | .unrestricted => some (false, [])
    | .actorSelf actorClass =>
      match base.selfParameterContext with
      | none =>
        some (true, [.actorIsolatedNonSelfReference member.id
          (some actorClass == getNearestEnclosingActorContext dc), noteIsolatedActorMember member])
      | some selfContext => (mayExecuteConcurrentlyWith dc selfContext).map fun concurrent =>
        if concurrent then
          (true, [.actorIsolatedConcurrentAccess member.id, noteIsolatedActorMember member])
        else (false, [])
    | .localCapture _ => none
    | .unsafeAccess => some (diagnoseUnsafeReference dc member)
  | _, _ => some (false, [])

/-- **The isolation checks are exact.** Take a use context whose parent chain reaches a definition
context. `mayExecuteConcurrentlyWith` answers whether some context on the chain below the
definition is an escaping closure or a local-capture function. A reference through `self` to an
actor-isolated member, whose `self` belongs to the definition context, is diagnosed exactly
then. So is a reference from inside an actor to a local capture of the definition context. -/
theorem isolation_checks_exact {useContext defContext : DeclContext}
    (ancestor : defContext ∈ useContext.ancestors) :
    mayExecuteConcurrentlyWith useContext defContext =
        some (concurrentBetween useContext defContext) ∧
      (∀ base member actorClass, base.selfParameterContext = some defContext →
        IsolationRestriction.forDeclaration member = .actorSelf actorClass →
        checkMemberReference useContext (some base) (some member) =
          some (if concurrentBetween useContext defContext then
            (true, [.actorIsolatedConcurrentAccess member.id, noteIsolatedActorMember member])
          else (false, []))) ∧
      ∀ value, IsolationRestriction.forDeclaration value = .localCapture defContext →
        (getNearestEnclosingActorContext useContext).isSome →
        checkNonMemberReference useContext (some value) =
          some (if concurrentBetween useContext defContext then
            (true, [.concurrentAccessLocal value.id, .kindDeclaredHere value.id])
          else (false, [])) := by
  have walk := mayExecuteConcurrentlyWith_eq ancestor
  refine ⟨walk, fun base member actorClass isSelf isolated => ?_,
    fun value isolated insideActor => ?_⟩
  · simp [checkMemberReference, isolated, isSelf, walk]
  · simp [checkNonMemberReference, isolated, Option.isSome_iff_ne_none.mp insideActor, walk]

/-- An actor, a method of it, and an escaping closure in the method. -/
def escapingClosureInActorMethod : DeclContext :=
  .child 3 (.closure (some (.function false)))
    (.child 2 (.function false) (.child 1 (.typeContext (some ⟨0, true⟩)) (.moduleScope (.fileUnit 0 0))))

/-- The checks in an escaping closure of an actor method, against the method's context. -/
theorem isolation_checks_exact_escaping :
    mayExecuteConcurrentlyWith escapingClosureInActorMethod
        (.child 2 (.function false) (.child 1 (.typeContext (some ⟨0, true⟩))
          (.moduleScope (.fileUnit 0 0)))) =
        some (concurrentBetween escapingClosureInActorMethod
          (.child 2 (.function false) (.child 1 (.typeContext (some ⟨0, true⟩))
            (.moduleScope (.fileUnit 0 0))))) ∧
      (∀ base member actorClass, base.selfParameterContext = some
          (.child 2 (.function false) (.child 1 (.typeContext (some ⟨0, true⟩))
            (.moduleScope (.fileUnit 0 0)))) →
        IsolationRestriction.forDeclaration member = .actorSelf actorClass →
        checkMemberReference escapingClosureInActorMethod (some base) (some member) =
          some (if concurrentBetween escapingClosureInActorMethod
              (.child 2 (.function false) (.child 1 (.typeContext (some ⟨0, true⟩))
                (.moduleScope (.fileUnit 0 0)))) then
            (true, [.actorIsolatedConcurrentAccess member.id, noteIsolatedActorMember member])
          else (false, []))) ∧
      ∀ value, IsolationRestriction.forDeclaration value = .localCapture
          (.child 2 (.function false) (.child 1 (.typeContext (some ⟨0, true⟩))
            (.moduleScope (.fileUnit 0 0)))) →
        (getNearestEnclosingActorContext escapingClosureInActorMethod).isSome →
        checkNonMemberReference escapingClosureInActorMethod (some value) =
          some (if concurrentBetween escapingClosureInActorMethod
              (.child 2 (.function false) (.child 1 (.typeContext (some ⟨0, true⟩))
                (.moduleScope (.fileUnit 0 0)))) then
            (true, [.concurrentAccessLocal value.id, .kindDeclaredHere value.id])
          else (false, [])) :=
  isolation_checks_exact (by decide)

end Constraints
