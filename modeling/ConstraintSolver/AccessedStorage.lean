import Mathlib.Logic.Relation
import Mathlib.Data.List.Basic

/-! # Finding the storage an address accesses

`findAccessedStorage` follows an address back through its use-def chain: casts, address
projections and nested accesses lead to their operand, and a storage base records the storage
it names. A phi is handed to `FindPhiStorageVisitor`, which visits the phi's incoming values
from a worklist, looks through casts and nested phis, and sends each base back to the main
visitor. The main visitor keeps one storage result. The first storage found sets it, and any
later storage with another base makes it invalid.

The phi visitor forwards a nested access to the main visitor and asserts that the result is
null. `FindAccessedStorageVisitor` returns the access's source there, which is not null. So a
phi whose incoming value reaches a `begin_access` through casts trips the assertion. With
assertions compiled out, that path records no storage. The result can then be a valid storage
that another path does not share
(`Constraints.findAccessedStorage_nested_access_under_phi`).

The dispatch of `AccessUseDefChainVisitor` on a value is not in the sources; a value's
definition here says which of its visitor callbacks the dispatch makes. Every function runs on
fuel, and running out of fuel is kept apart from a failed assertion.
-/

namespace Constraints

/-- `AccessedStorage::Kind`. -/
inductive StorageKind where
  | box
  | stack
  | global
  | classObject
  | tail
  | argument
  | yield
  | nested
  | unidentified
  deriving DecidableEq, Repr

/-- `AccessedStorage`: a valid storage by the kind and the base that `hasIdenticalBase` compares
(a value, a global variable, or an object with a property), or the invalid storage
`AccessedStorage()`. -/
inductive AccessedStorage where
  | invalid
  | valid (kind : StorageKind) (base : Nat)
  deriving DecidableEq, Repr

/-- `AccessedStorage::hasIdenticalBase`. Two invalid storages have identical bases. -/
def AccessedStorage.hasIdenticalBase : AccessedStorage → AccessedStorage → Bool
  | .valid kind base, .valid kind' base' => kind == kind' && base == base'
  | .invalid, .invalid => true
  | _, _ => false

@[simp] theorem AccessedStorage.hasIdenticalBase_iff (storage storage' : AccessedStorage) :
    storage.hasIdenticalBase storage' = true ↔ storage = storage' := by
  cases storage <;> cases storage' <;> simp [hasIdenticalBase]

/-- The callback the use-def chain dispatch makes on a SIL value, with the operands it hands on:
a storage base with the storage `AccessedStorage(base, kind)` makes of it, a value that is not
an access, a phi argument with its incoming values, a cast, an address projection, and a
`begin_access` with its source. -/
inductive AccessDef where
  | base (kind : StorageKind) (base : Nat)
  | nonAccess
  | phi (incoming : List Nat)
  | cast (parent : Nat)
  | pathComponent (parent : Nat)
  | nestedAccess (source : Nat)
  deriving DecidableEq, Repr

/-- The values a callback hands on. -/
def AccessDef.operands : AccessDef → List Nat
  | .phi incoming => incoming
  | .cast parent | .pathComponent parent | .nestedAccess parent => [parent]
  | .base .. | .nonAccess => []

/-- Modelled from the spec: a value is followed to the operands of its definition. -/
def FollowsOperand (graph : Nat → AccessDef) (value operand : Nat) : Prop :=
  operand ∈ (graph value).operands

/-- How a run stops without a result. -/
inductive FindError where
  | assertionFailed
  | outOfFuel
  deriving DecidableEq, Repr

/-- The state of `FindAccessedStorageVisitorBase`: the storage found so far, and the phis it
has handed to the phi visitor. -/
structure StorageVisitorState where
  storage : Option AccessedStorage
  visitedPhis : List Nat
  deriving DecidableEq, Repr

/-- `FindAccessedStorageVisitorBase::setStorage`. -/
def StorageVisitorState.setStorage (state : StorageVisitorState) (foundStorage : AccessedStorage) :
    StorageVisitorState :=
  match state.storage with
  | none => { state with storage := some foundStorage }
  | some storage =>
    if storage.hasIdenticalBase foundStorage then state
    else { state with storage := some .invalid }

/-- The state of `FindPhiStorageVisitor`: the common definition of the address projections met
(`none` when none was met, `some none` when they diverge), the pointer worklist with its back
first, and the phis it has visited. -/
structure PhiVisitorState where
  commonDefinition : Option (Option Nat)
  pointerWorklist : List Nat
  nestedPhis : List Nat
  deriving DecidableEq, Repr

/-- `FindPhiStorageVisitor::visitPhi`: a new phi's incoming values go on the worklist. -/
def PhiVisitorState.visitPhi (phiState : PhiVisitorState) (phiArg : Nat) (incoming : List Nat) :
    PhiVisitorState :=
  if phiArg ∈ phiState.nestedPhis then phiState
  else
    { phiState with
      nestedPhis := phiState.nestedPhis ++ [phiArg]
      pointerWorklist := incoming.reverse ++ phiState.pointerWorklist }

/-- `FindPhiStorageVisitor::setDefinition`. -/
def PhiVisitorState.setDefinition (phiState : PhiVisitorState) (definition : Nat) :
    PhiVisitorState :=
  match phiState.commonDefinition with
  | none => { phiState with commonDefinition := some (some definition) }
  | some common =>
    if common = some definition then phiState else { phiState with commonDefinition := some none }

section
variable (graph : Nat → AccessDef) (assertions : Bool)

/-- `FindPhiStorageVisitor::checkResult`, when assertions are compiled in. -/
def checkResult (result : Option Nat) : Except FindError Unit :=
  if assertions && result.isSome then .error .assertionFailed else .ok ()

mutual

/-- `FindAccessedStorageVisitorBase::findStorage` of `FindAccessedStorageVisitor`: visit the
address, and go on with the address the visit returns until there is none. -/
def findStorage : Nat → StorageVisitorState → Nat → Except FindError StorageVisitorState
  | 0, _, _ => .error .outOfFuel
  | fuel + 1, state, sourceAddr =>
    match graph sourceAddr with
    | .base kind base => pure (state.setStorage (.valid kind base))
    | .nonAccess => pure (state.setStorage .invalid)
    | .phi incoming =>
      if sourceAddr ∈ state.visitedPhis then pure (state.setStorage .invalid)
      else
        findPhiStorage fuel { state with visitedPhis := state.visitedPhis ++ [sourceAddr] }
          sourceAddr incoming
    | .cast parent | .pathComponent parent | .nestedAccess parent => findStorage fuel state parent

/-- `FindPhiStorageVisitor::findPhiStorage`, for the visitor `state` belongs to. -/
def findPhiStorage : Nat → StorageVisitorState → Nat → List Nat →
    Except FindError StorageVisitorState
  | 0, _, _, _ => .error .outOfFuel
  | fuel + 1, state, phiArg, incoming => do
    let (state, phiState) ← phiWorklist fuel state (PhiVisitorState.visitPhi ⟨none, [], []⟩ phiArg incoming)
    match phiState.commonDefinition with
    | none => pure state
    | some (some common) => findStorage fuel state common
    | some none => pure (state.setStorage .invalid)

/-- The worklist loop of `findPhiStorage`, with the phi visitor's callbacks. -/
def phiWorklist : Nat → StorageVisitorState → PhiVisitorState →
    Except FindError (StorageVisitorState × PhiVisitorState)
  | 0, _, _ => .error .outOfFuel
  | fuel + 1, state, phiState =>
    match phiState.pointerWorklist with
    | [] => pure (state, phiState)
    | value :: rest =>
      let popped := { phiState with pointerWorklist := rest }
      match graph value with
      | .base kind base => phiWorklist fuel (state.setStorage (.valid kind base)) popped
      | .nonAccess => phiWorklist fuel (state.setStorage .invalid) popped
      | .nestedAccess source => do
        checkResult assertions (some source)
        phiWorklist fuel state popped
      | .phi incoming => phiWorklist fuel state (popped.visitPhi value incoming)
      | .cast parent =>
        phiWorklist fuel state { popped with pointerWorklist := parent :: popped.pointerWorklist }
      | .pathComponent _ => phiWorklist fuel state (popped.setDefinition value)

end

/-- `swift::findAccessedStorage`, with fuel: the storage found, invalid if none. -/
def findAccessedStorage (fuel sourceAddr : Nat) : Except FindError AccessedStorage :=
  (findStorage graph assertions fuel ⟨none, []⟩ sourceAddr).map fun state =>
    state.storage.getD .invalid

end

/-! ## The storage result only moves down -/

theorem except_bind_eq_ok {ε α β : Type} {x : Except ε α} {f : α → Except ε β} {b : β} :
    x >>= f = .ok b ↔ ∃ a, x = .ok a ∧ f a = .ok b := by
  cases x <;> simp [bind, Except.bind]

/-! ## A nested access under a pointer phi -/

/-- An address read through a pointer phi with two incoming pointers: one converted from a
`begin_access` of one global, one converted from the address of another global. -/
def phiThroughNestedAccess : Nat → AccessDef
  | 0 => .cast 1
  | 1 => .phi [2, 4]
  | 2 => .cast 3
  | 3 => .nestedAccess 5
  | 4 => .cast 6
  | 5 => .base .global 7
  | 6 => .base .global 8
  | _ => .nonAccess

/-- **The phi visitor trips its assertion on a nested access.** The address reaches the
`begin_access` through the phi and a cast, and the access's source is a global. With assertions
compiled in, `findAccessedStorage` stops on the assertion of `checkResult`. Without them, it
drops that path and returns the other path's global, whose base is not the first global's. -/
theorem findAccessedStorage_nested_access_under_phi :
    Relation.ReflTransGen (FollowsOperand phiThroughNestedAccess) 0 5 ∧
      phiThroughNestedAccess 5 = .base .global 7 ∧
      findAccessedStorage phiThroughNestedAccess true 10 0 = .error .assertionFailed ∧
      findAccessedStorage phiThroughNestedAccess false 10 0 = .ok (.valid .global 8) := by
  refine ⟨?_, rfl, by rfl, by rfl⟩
  -- the cast, the phi's first incoming value, its cast, and the access's source
  exact .head (show 1 ∈ [1] by simp) (.head (show 2 ∈ [2, 4] by simp)
    (.head (show 3 ∈ [3] by simp) (.head (show 5 ∈ [5] by simp) .refl)))

/-! ## A valid storage comes from a base the address reaches -/

section
variable {graph : Nat → AccessDef} {assertions : Bool} {sourceAddr : Nat}

/-- Every valid storage in the result is the storage of a base definition that `sourceAddr`
reaches through the operands the visitors follow. -/
def StorageFrom (graph : Nat → AccessDef) (sourceAddr : Nat) (storage : Option AccessedStorage) :
    Prop :=
  ∀ kind base, storage = some (.valid kind base) →
    ∃ value, Relation.ReflTransGen (FollowsOperand graph) sourceAddr value ∧
      graph value = .base kind base

/-- Every value on the phi visitor's worklist, and the common definition it found, is reached
from `sourceAddr`. -/
def PhiFrom (graph : Nat → AccessDef) (sourceAddr : Nat) (phiState : PhiVisitorState) : Prop :=
  (∀ value ∈ phiState.pointerWorklist, Relation.ReflTransGen (FollowsOperand graph) sourceAddr value) ∧
    ∀ common, phiState.commonDefinition = some (some common) →
      Relation.ReflTransGen (FollowsOperand graph) sourceAddr common

theorem StorageFrom.setStorage {state : StorageVisitorState} {foundStorage : AccessedStorage}
    (storageFrom : StorageFrom graph sourceAddr state.storage)
    (found : StorageFrom graph sourceAddr (some foundStorage)) :
    StorageFrom graph sourceAddr (state.setStorage foundStorage).storage := by
  unfold StorageVisitorState.setStorage
  split
  · exact found
  · split
    · exact storageFrom
    · intro _ _ invalid
      cases invalid

theorem storageFrom_invalid : StorageFrom graph sourceAddr (some .invalid) := fun _ _ invalid => by
  cases invalid

/-- Following an operand of a reached value reaches the operand. -/
theorem reaches_operand {value operand : Nat}
    (reached : Relation.ReflTransGen (FollowsOperand graph) sourceAddr value)
    (member : operand ∈ (graph value).operands) :
    Relation.ReflTransGen (FollowsOperand graph) sourceAddr operand :=
  reached.tail member

theorem PhiFrom.visitPhi {phiState : PhiVisitorState} {phiArg : Nat} {incoming : List Nat}
    (phiFrom : PhiFrom graph sourceAddr phiState)
    (reached : ∀ value ∈ incoming, Relation.ReflTransGen (FollowsOperand graph) sourceAddr value) :
    PhiFrom graph sourceAddr (phiState.visitPhi phiArg incoming) := by
  unfold PhiVisitorState.visitPhi
  split
  · exact phiFrom
  · refine ⟨fun value member => ?_, phiFrom.2⟩
    rcases List.mem_append.mp member with inIncoming | inWorklist
    · exact reached value (List.mem_reverse.mp inIncoming)
    · exact phiFrom.1 value inWorklist

theorem PhiFrom.setDefinition {phiState : PhiVisitorState} {definition : Nat}
    (phiFrom : PhiFrom graph sourceAddr phiState)
    (reached : Relation.ReflTransGen (FollowsOperand graph) sourceAddr definition) :
    PhiFrom graph sourceAddr (phiState.setDefinition definition) := by
  unfold PhiVisitorState.setDefinition
  split
  · exact ⟨phiFrom.1, fun common defined => by cases defined; exact reached⟩
  · split
    · exact phiFrom
    · exact ⟨phiFrom.1, fun _ defined => by cases defined⟩

/-- **Run lemma**: every run of the visitors from values the address reaches records only
storages of bases the address reaches, and keeps the phi visitor's worklist among such
values. -/
theorem storageFrom_of_run : ∀ fuel,
    (∀ {state state' : StorageVisitorState} {addr : Nat},
      Relation.ReflTransGen (FollowsOperand graph) sourceAddr addr →
      StorageFrom graph sourceAddr state.storage →
      findStorage graph assertions fuel state addr = .ok state' →
        StorageFrom graph sourceAddr state'.storage) ∧
    (∀ {state state' : StorageVisitorState} {phiArg : Nat} {incoming : List Nat},
      (∀ value ∈ incoming, Relation.ReflTransGen (FollowsOperand graph) sourceAddr value) →
      StorageFrom graph sourceAddr state.storage →
      findPhiStorage graph assertions fuel state phiArg incoming = .ok state' →
        StorageFrom graph sourceAddr state'.storage) ∧
    (∀ {state state' : StorageVisitorState} {phiState phiState' : PhiVisitorState},
      StorageFrom graph sourceAddr state.storage → PhiFrom graph sourceAddr phiState →
      phiWorklist graph assertions fuel state phiState = .ok (state', phiState') →
        StorageFrom graph sourceAddr state'.storage ∧ PhiFrom graph sourceAddr phiState')
  | 0 => ⟨(fun _ _ found => by cases found), (fun _ _ found => by cases found),
      (fun _ _ found => by cases found)⟩
  | fuel + 1 => by
    obtain ⟨findFrom, phiFrom, worklistFrom⟩ := storageFrom_of_run fuel
    refine ⟨fun {state state' addr} reached storageFrom found => ?_,
      fun {state state' phiArg incoming} reached storageFrom found => ?_,
      fun {state state' phiState phiState'} storageFrom worklistFromHere found => ?_⟩
    · cases definition : graph addr with
      | base kind base =>
        simp only [findStorage, definition, pure, Except.pure, Except.ok.injEq] at found
        subst found
        exact storageFrom.setStorage fun _ _ same => by cases same; exact ⟨addr, reached, definition⟩
      | nonAccess =>
        simp only [findStorage, definition, pure, Except.pure, Except.ok.injEq] at found
        subst found
        exact storageFrom.setStorage storageFrom_invalid
      | phi incoming =>
        simp only [findStorage, definition] at found
        split at found
        · simp only [pure, Except.pure, Except.ok.injEq] at found
          subst found
          exact storageFrom.setStorage storageFrom_invalid
        · refine phiFrom (fun value member => reaches_operand reached ?_) ?_ found
          · simp [definition, member, AccessDef.operands]
          · exact storageFrom
      | cast parent | pathComponent parent | nestedAccess parent =>
        simp only [findStorage, definition] at found
        refine findFrom (reaches_operand reached ?_) storageFrom found
        simp [definition, AccessDef.operands]
    · rw [findPhiStorage] at found
      obtain ⟨⟨state₁, phiState₁⟩, looped, rest⟩ := except_bind_eq_ok.mp found
      have start : PhiFrom graph sourceAddr (PhiVisitorState.visitPhi ⟨none, [], []⟩ phiArg incoming) :=
        PhiFrom.visitPhi ⟨(fun _ member => by cases member), (fun _ defined => by cases defined)⟩
          reached
      obtain ⟨storageFrom₁, phiFrom₁⟩ := worklistFrom storageFrom start looped
      simp only at rest
      split at rest
      · cases rest
        exact storageFrom₁
      · rename_i common defined
        exact findFrom (phiFrom₁.2 common defined) storageFrom₁ rest
      · simp only [pure, Except.pure, Except.ok.injEq] at rest
        subst rest
        exact storageFrom₁.setStorage storageFrom_invalid
    · rw [phiWorklist] at found
      split at found
      · simp only [pure, Except.pure, Except.ok.injEq, Prod.mk.injEq] at found
        obtain ⟨rfl, rfl⟩ := found
        exact ⟨storageFrom, worklistFromHere⟩
      · rename_i value rest worklist
        have reached := worklistFromHere.1 value (by simp [worklist])
        have popped : PhiFrom graph sourceAddr { phiState with pointerWorklist := rest } :=
          ⟨fun other member => worklistFromHere.1 other (by simp [worklist, member]),
            worklistFromHere.2⟩
        cases definition : graph value with
        | base kind base =>
          simp only [definition] at found
          exact worklistFrom (storageFrom.setStorage fun _ _ same => by
            cases same; exact ⟨value, reached, definition⟩) popped found
        | nonAccess =>
          simp only [definition] at found
          exact worklistFrom (storageFrom.setStorage storageFrom_invalid) popped found
        | nestedAccess source =>
          simp only [definition] at found
          obtain ⟨_, -, looped⟩ := except_bind_eq_ok.mp found
          exact worklistFrom storageFrom popped looped
        | phi incoming =>
          simp only [definition] at found
          refine worklistFrom storageFrom (popped.visitPhi fun other member =>
            reaches_operand reached ?_) found
          simp [definition, member, AccessDef.operands]
        | cast parent =>
          simp only [definition] at found
          refine worklistFrom storageFrom ?_ found
          refine ⟨fun other member => ?_, popped.2⟩
          rcases List.mem_cons.mp member with rfl | inRest
          · exact reaches_operand reached (by simp [definition, AccessDef.operands])
          · exact popped.1 other inRest
        | pathComponent parent =>
          simp only [definition] at found
          exact worklistFrom storageFrom (popped.setDefinition reached) found

/-- **A valid storage comes from a base the address reaches.** Whatever the use-def graph, when
`findAccessedStorage` returns a valid storage, with assertions compiled in or out, it is the
storage of a base definition that the address reaches through casts, address projections,
nested accesses and phi arguments. -/
theorem findAccessedStorage_valid_reaches_base {fuel : Nat} {kind : StorageKind} {base : Nat}
    (found : findAccessedStorage graph assertions fuel sourceAddr = .ok (.valid kind base)) :
    ∃ value, Relation.ReflTransGen (FollowsOperand graph) sourceAddr value ∧
      graph value = .base kind base := by
  unfold findAccessedStorage at found
  cases ran : findStorage graph assertions fuel ⟨none, []⟩ sourceAddr with
  | error failure => simp [ran, Except.map] at found
  | ok state =>
    simp only [ran, Except.map, Except.ok.injEq] at found
    have storageFrom := (storageFrom_of_run fuel).1 .refl (fun _ _ unset => by cases unset) ran
    cases stored : state.storage with
    | none => simp [stored] at found
    | some storage =>
      simp only [stored, Option.getD_some] at found
      exact storageFrom kind base (by rw [stored, found])

end

/-- An address read through a pointer phi whose two incoming pointers, one through a cast,
come from the same global. -/
def phiOfOneGlobal : Nat → AccessDef
  | 0 => .cast 1
  | 1 => .phi [2, 3]
  | 2 => .base .global 7
  | 3 => .cast 2
  | _ => .nonAccess

theorem findAccessedStorage_valid_reaches_base_phi :
    ∃ value, Relation.ReflTransGen (FollowsOperand phiOfOneGlobal) 0 value ∧
      phiOfOneGlobal value = .base .global 7 :=
  @findAccessedStorage_valid_reaches_base phiOfOneGlobal true 0 10 .global 7 (by rfl)

end Constraints
