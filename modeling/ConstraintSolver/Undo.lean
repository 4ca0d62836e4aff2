import ConstraintSolver.Change

/-! # Scoped undo is exact

Destroying a `SolverScope` gives back the system as it was when the scope was constructed:
the type variables, the links and fixed types of every type variable, every side table the
scope truncates, the node types, the binding journal, the score and the failure
(`Constraints.scope_restores`); and, for a run that re-enables no constraint, every
constraint's disabled and favored flags.

The proof rests on one relation, `Undoable before after`: `after` is reached from `before` by
changes the innermost scope can undo. Its tables extend those of `before`, and replaying the
journal entries written since gives back the links and node types of `before`. Every mutation
is undoable (`Constraints.Mutation.undoable`), undoable changes compose, and a scope opened
and closed around an undoable run restores the system (`Constraints.closeScope_of_undoable`);
so a balanced run is undoable by induction over its scopes. The two flag journals get the same
treatment through `Constraints.FlagsUndoable`, one `Constraints.JournaledFlag` at a time.
-/

namespace Constraints

open ConstraintSystem

/-! ## Node types with the same lookups -/

/-- Two node-type tables that give every node the same type. -/
def SameLookup (a b : List (Nat × Ty)) : Prop := ∀ node, a.lookup node = b.lookup node

theorem SameLookup.refl (a : List (Nat × Ty)) : SameLookup a a := fun _ => rfl

theorem SameLookup.trans {a b c : List (Nat × Ty)} (first : SameLookup a b)
    (second : SameLookup b c) : SameLookup a c :=
  fun node => (first node).trans (second node)

theorem SameLookup.restoreNodeTypes {a b : List (Nat × Ty)} (same : SameLookup a b)
    (journal : List (Nat × Option Ty)) :
    SameLookup (Constraints.restoreNodeTypes journal a) (Constraints.restoreNodeTypes journal b) := by
  induction journal with
  | nil => exact same
  | cons entry rest ih =>
    intro node
    simp only [Constraints.restoreNodeTypes] at ih
    obtain ⟨key, old⟩ := entry
    cases old <;> simp only [Constraints.restoreNodeTypes, List.foldr_cons, restoreNodeType,
      lookup_assignEntry, lookup_eraseEntry, ih node]

theorem restoreNodeTypes_append (first second : List (Nat × Option Ty)) (nodeTypes : List (Nat × Ty)) :
    restoreNodeTypes (first ++ second) nodeTypes =
      restoreNodeTypes first (restoreNodeTypes second nodeTypes) :=
  List.foldr_append _ _ _ _

/-- Undoing a `setType` gives back the lookups before it. -/
theorem restoreNodeType_assignEntry (nodeTypes : List (Nat × Ty)) (node : Nat) (type : Ty) :
    SameLookup (restoreNodeType (node, nodeTypes.lookup node) (assignEntry nodeTypes node type))
      nodeTypes := by
  intro key
  unfold restoreNodeType
  by_cases here : key = node
  · subst here
    cases found : nodeTypes.lookup key <;> simp [found]
  · cases nodeTypes.lookup node <;> simp [here]

/-- The entries of a list past the length of a prefix of a prefix of it. -/
theorem drop_prefix_length_append {α : Type} {a b c : List α} (first : a <+: b) (second : b <+: c) :
    c.drop a.length = b.drop a.length ++ c.drop b.length := by
  obtain ⟨middle, rfl⟩ := first
  obtain ⟨last, rfl⟩ := second
  simp

/-! ## Undoable changes -/

/-- `after` is reached from `before` by changes that the innermost scope can undo. -/
structure Undoable (before after : ConstraintSystem) : Prop where
  tables : before.tables.Extends after.tables
  savedBindings : before.savedBindings <+: after.savedBindings
  links : (Arena.restoreAll (after.savedBindings.drop before.savedBindings.length)
    after.arena).SameLinks before.arena
  addedNodeTypes : before.addedNodeTypes <+: after.addedNodeTypes
  nodeTypes : SameLookup
    (restoreNodeTypes (after.addedNodeTypes.drop before.addedNodeTypes.length) after.nodeTypes)
    before.nodeTypes
  scopes : after.scopes = before.scopes
  active : after.solverState.isSome = before.solverState.isSome

namespace Undoable

theorem refl (cs : ConstraintSystem) : Undoable cs cs where
  tables := Tables.extends_refl _
  savedBindings := List.prefix_refl _
  links := by simpa using Arena.SameLinks.refl cs.arena
  addedNodeTypes := List.prefix_refl _
  nodeTypes := by simpa using SameLookup.refl cs.nodeTypes
  scopes := rfl
  active := rfl

theorem trans {a b c : ConstraintSystem} (first : Undoable a b) (second : Undoable b c) :
    Undoable a c where
  tables := first.tables.trans second.tables
  savedBindings := first.savedBindings.trans second.savedBindings
  links := by
    rw [drop_prefix_length_append first.savedBindings second.savedBindings, Arena.restoreAll_append]
    exact (second.links.restoreAll _).trans first.links
  addedNodeTypes := first.addedNodeTypes.trans second.addedNodeTypes
  nodeTypes := by
    rw [drop_prefix_length_append first.addedNodeTypes second.addedNodeTypes, restoreNodeTypes_append]
    exact (second.nodeTypes.restoreNodeTypes _).trans first.nodeTypes
  scopes := second.scopes.trans first.scopes
  active := second.active.trans first.active

/-- A change that leaves both journals alone. -/
theorem of_tables {before after : ConstraintSystem} (tables : before.tables.Extends after.tables)
    (savedBindings : after.savedBindings = before.savedBindings)
    (links : after.arena.SameLinks before.arena)
    (addedNodeTypes : after.addedNodeTypes = before.addedNodeTypes)
    (nodeTypes : after.nodeTypes = before.nodeTypes) (scopes : after.scopes = before.scopes)
    (active : after.solverState.isSome = before.solverState.isSome) : Undoable before after where
  tables := tables
  savedBindings := savedBindings ▸ List.prefix_refl _
  links := by simpa [savedBindings] using links
  addedNodeTypes := addedNodeTypes ▸ List.prefix_refl _
  nodeTypes := by simpa [addedNodeTypes, nodeTypes] using SameLookup.refl before.nodeTypes
  scopes := scopes
  active := active

/-- A change to the tables and to solver-state fields other than the binding journal and
the scopes. -/
theorem of_state {before after : ConstraintSystem} (update : SolverState → SolverState)
    (keepsBindings : ∀ state, (update state).savedBindings = state.savedBindings)
    (keepsScopes : ∀ state, (update state).scopes = state.scopes)
    (tables : before.tables.Extends after.tables)
    (state : after.solverState = before.solverState.map update) (arena : after.arena = before.arena)
    (addedNodeTypes : after.addedNodeTypes = before.addedNodeTypes)
    (nodeTypes : after.nodeTypes = before.nodeTypes) : Undoable before after := by
  refine of_tables tables ?_ (arena ▸ Arena.SameLinks.refl _) addedNodeTypes nodeTypes ?_ ?_ <;>
    cases h : before.solverState <;>
    simp [ConstraintSystem.savedBindings, ConstraintSystem.scopes, state, h, keepsBindings,
      keepsScopes]

end Undoable

/-! ## Every mutation is undoable -/

section Mutations

variable {cs cs' : ConstraintSystem}

theorem writeTypeVariable_undoable (active : cs.solverState.isSome) (v : Nat)
    (record : TypeVariableImpl) : Undoable cs (cs.writeTypeVariable v record) := by
  obtain ⟨state, isState⟩ := Option.isSome_iff_exists.mp active
  have saved : (cs.writeTypeVariable v record).savedBindings =
      cs.savedBindings ++ [⟨v, cs.arena.impl v⟩] := by
    simp [writeTypeVariable, ConstraintSystem.savedBindings, isState]
  refine ⟨by simp [writeTypeVariable, tables], by simp [saved], ?_, List.prefix_refl _,
    by simpa [writeTypeVariable] using SameLookup.refl cs.nodeTypes,
    by simp [writeTypeVariable, ConstraintSystem.scopes, isState], by simp [writeTypeVariable, isState]⟩
  rw [saved, List.drop_left]
  have undone := Arena.restoreAll_recordAndWrite [] cs.arena v record
  exact fun u => congrArg (·.parentOrFixed) (congrFun undone u)

theorem setType_undoable (node : Nat) (type : Ty) : Undoable cs (cs.setType node type) where
  tables := by simp [tables, setType]
  savedBindings := List.prefix_refl _
  links := by simpa [setType, ConstraintSystem.savedBindings] using Arena.SameLinks.refl cs.arena
  addedNodeTypes := List.prefix_append _ _
  nodeTypes := by
    simpa [setType, restoreNodeTypes] using restoreNodeType_assignEntry cs.nodeTypes node type
  scopes := rfl
  active := rfl

/-- Every elementary change is undoable. -/
theorem Change.undoable (active : cs.solverState.isSome) : Change cs cs' → Undoable cs cs'
  | .writeTypeVariable _ v record => writeTypeVariable_undoable active v record
  | .createRecord _ v options fresh => by
    refine .of_tables (by simp [tables]) rfl (fun u => ?_) rfl rfl rfl rfl
    by_cases here : u = v
    · subst here
      simp [cs.arena.unallocated u fresh, TypeVariableImpl.initial]
    · simp [Function.update_noteq here]
  | .extendTables extends_ rest => by
    rw [rest]
    exact .of_tables extends_ rfl (.refl _) rfl rfl rfl rfl
  | .setType _ node type => setType_undoable node type
  | .raiseScore _ rest => by
    rw [rest]
    exact .of_tables (Tables.extends_refl _) rfl (.refl _) rfl rfl rfl rfl
  | .activateConstraint _ activated => by
    unfold ConstraintSystem.activateConstraint at activated
    split at activated <;> cases activated
    exact .of_tables (by simp [tables, setFlags]) rfl (.refl _) rfl rfl rfl rfl
  | .deactivateConstraint _ deactivated => by
    unfold ConstraintSystem.deactivateConstraint at deactivated
    split at deactivated <;> cases deactivated
    exact .of_tables (by simp [tables, setFlags]) rfl (.refl _) rfl rfl rfl rfl
  | .removeInactiveConstraint constraint removed => by
    unfold ConstraintSystem.removeInactiveConstraint at removed
    split at removed <;> cases removed
    exact .of_state (fun state => { state with
        retiredConstraints := constraint :: state.retiredConstraints })
      (fun _ => rfl) (fun _ => rfl) (by simp [tables]) rfl rfl rfl rfl
  | .addUnsolvedConstraint constraint added => by
    unfold ConstraintSystem.addUnsolvedConstraint at added
    split at added <;> cases added
    exact .of_state (fun state => { state with
        generatedConstraints := state.generatedConstraints ++ [constraint] })
      (fun _ => rfl) (fun _ => rfl) (by simp [tables, setFlags]) rfl rfl rfl rfl
  | .favorConstraint _ constraint =>
    .of_state (fun state => { state with
        favoredConstraints :=
          state.favoredConstraints ++ [(constraint, (cs.constraints constraint).isFavored)] })
      (fun _ => rfl) (fun _ => rfl) (by simp [tables, ConstraintSystem.favorConstraint, setFlags]) rfl rfl rfl rfl
  | .disableConstraint _ constraint =>
    .of_state (fun state => { state with
        disabledConstraints :=
          state.disabledConstraints ++ [(constraint, (cs.constraints constraint).isDisabled)] })
      (fun _ => rfl) (fun _ => rfl) (by simp [tables, ConstraintSystem.disableConstraint, setFlags]) rfl rfl rfl rfl
  | .recordFailure _ _ => .of_tables (by simp [tables]) rfl (.refl _) rfl rfl rfl rfl

theorem Changes.undoable (active : cs.solverState.isSome) (changes : Changes cs cs') :
    Undoable cs cs' := by
  induction changes with
  | refl => exact .refl _
  | tail _ last ih => exact ih.trans (last.undoable (ih.active.trans active))

/-- **Every mutation is undoable** by the innermost scope. -/
theorem Mutation.undoable (mutation : Mutation) (active : cs.solverState.isSome)
    (applied : mutation.apply cs = some cs') : Undoable cs cs' := by
  rcases mutation.changes applied with changes | ⟨solution, -, finalized⟩ | ⟨constraint, -, rfl⟩
  · exact changes.undoable active
  rotate_left
  · exact .of_tables (by simp [tables, ConstraintSystem.enableConstraint, setFlags]) rfl (.refl _)
      rfl rfl rfl rfl
  obtain ⟨state, isState, changes, -⟩ := finalize_eq_some finalized
  have lowered : Undoable cs { cs with solverState := some { state with
      bestScore := some (nextBestScore cs.currentScore state.bestScore) } } :=
    .of_state (fun state => { state with
        bestScore := some (nextBestScore cs.currentScore state.bestScore) })
      (fun _ => rfl) (fun _ => rfl) (by simp [tables]) (by rw [isState]; rfl) rfl rfl rfl
  exact lowered.trans (changes.undoable rfl)

end Mutations

/-! ## Destroying a scope -/

/-- What destroying a scope gives back of the system it was constructed on. -/
structure RestoredTo (after before : ConstraintSystem) : Prop where
  tables : after.tables = before.tables
  savedBindings : after.savedBindings = before.savedBindings
  links : after.arena.SameLinks before.arena
  addedNodeTypes : after.addedNodeTypes = before.addedNodeTypes
  nodeTypes : SameLookup after.nodeTypes before.nodeTypes
  currentScore : after.currentScore = before.currentScore
  failedConstraint : after.failedConstraint = before.failedConstraint
  scopes : after.scopes = before.scopes
  active : after.solverState.isSome = before.solverState.isSome

theorem RestoredTo.undoable {after before : ConstraintSystem} (restored : RestoredTo after before) :
    Undoable before after where
  tables := restored.tables ▸ Tables.extends_refl _
  savedBindings := restored.savedBindings ▸ List.prefix_refl _
  links := by simpa [restored.savedBindings] using restored.links
  addedNodeTypes := restored.addedNodeTypes ▸ List.prefix_refl _
  nodeTypes := by simpa [restored.addedNodeTypes, restoreNodeTypes] using restored.nodeTypes
  scopes := restored.scopes
  active := restored.active

/-- **A scope undoes an undoable run.** Construct a scope on `cs`, change the system in ways
the scope can undo, and destroy the scope: the system is restored. -/
theorem closeScope_of_undoable {cs opened changed : ConstraintSystem}
    (isOpened : cs.openScope = some opened) (undoable : Undoable opened changed) :
    ∃ closed, changed.closeScope = some closed ∧ RestoredTo closed cs := by
  unfold openScope at isOpened
  obtain ⟨state, isState, isOpened⟩ := Option.bind_eq_some.mp isOpened
  split at isOpened
  · cases isOpened
  rename_i noFailure
  cases isOpened
  have scopes : changed.scopes = some (cs.snapshot state :: state.scopes) := undoable.scopes
  obtain ⟨changedState, isChanged⟩ : ∃ changedState, changed.solverState = some changedState := by
    unfold ConstraintSystem.scopes at scopes
    cases h : changed.solverState with
    | none => simp [h] at scopes
    | some changedState => exact ⟨changedState, rfl⟩
  have changedScopes : changedState.scopes = cs.snapshot state :: state.scopes := by
    simpa [ConstraintSystem.scopes, isChanged] using scopes
  refine ⟨changed.unwindScope changedState (cs.snapshot state) state.scopes,
    by simp [closeScope, isChanged, changedScopes], ?_⟩
  obtain ⟨t1, t2, t3, t4, t5, t6, t7, t8, t9, t10, t11, t12, t13, t14, t15, t16⟩ := undoable.tables
  have saved : state.savedBindings <+: changedState.savedBindings := by
    simpa [ConstraintSystem.savedBindings, isState, isChanged] using undoable.savedBindings
  refine ⟨?_, ?_, ?_, ?_, ?_, rfl,
    (Option.not_isSome_iff_eq_none.mp noFailure).symm, ?_, ?_⟩
  · simp only [tables, unwindScope, rollback, snapshot] at t1 t2 t3 t4 t5 t6 t7 t8 t9 t10 t11 t12 t13 t14 t15 t16 ⊢
    simp [t1, t2, t3, t4, t5, t6, t7, t8, t9, t10, t11, t12, t13, t14, t15, t16]
  · simp [unwindScope, rollback, snapshot, ConstraintSystem.savedBindings, isState, saved]
  · simpa [ConstraintSystem.savedBindings, isState, isChanged, unwindScope, snapshot] using
      undoable.links
  · simpa [unwindScope, snapshot] using truncate_prefix_length undoable.addedNodeTypes
  · simpa [unwindScope, snapshot] using undoable.nodeTypes
  · simp [unwindScope, rollback, ConstraintSystem.scopes, isState]
  · simp [unwindScope, rollback, isState]

/-- **A balanced run is undoable**: every scope it opens it closes again, and what happens
between is undone. -/
theorem Balanced.undoable {events : List SolverEvent} (balanced : Balanced events) :
    ∀ {cs cs' : ConstraintSystem}, cs.solverState.isSome → run events cs = some cs' →
      Undoable cs cs' := by
  induction balanced with
  | nil =>
    intro cs cs' _ ran
    cases ran
    exact .refl _
  | mutate mutation _ ih =>
    intro cs cs' active ran
    obtain ⟨middle, first, second⟩ := Option.bind_eq_some.mp ran
    have toMiddle := mutation.undoable active first
    exact toMiddle.trans (ih (toMiddle.active.trans active) second)
  | scope _ _ ihInner ihRest =>
    intro cs cs' active ran
    obtain ⟨opened, inside, closed, isOpened, ranInner, isClosed, ranRest⟩ := run_scope_block ran
    obtain ⟨closed', isClosed', restored⟩ :=
      closeScope_of_undoable isOpened (ihInner (openScope_active isOpened) ranInner)
    cases isClosed.symm.trans isClosed'
    exact restored.undoable.trans (ihRest (restored.active.trans active) ranRest)

/-! ## Undoable flags

The disabled and favored flags have journals of their own: each entry holds a constraint and
the flag it had, and destroying a scope replays the entries written since, the most recent
first. A run undoes on the flags when it re-enables no constraint: `filterDisjunction`'s
re-enable on failure is not journaled. -/

/-- A constraint flag that the solver state journals: read by `get`, written by `set`, and
journaled in `journal`. -/
structure JournaledFlag where
  get : ConstraintFlags → Bool
  set : ConstraintFlags → Bool → ConstraintFlags
  journal : SolverState → List (Nat × Bool)
  get_set : ∀ flags old, get (set flags old) = old

namespace JournaledFlag

/-- The disabled flag, journaled by `SolverState::disableContraint`. -/
def disabled : JournaledFlag where
  get := ConstraintFlags.isDisabled
  set flags old := { flags with isDisabled := old }
  journal := SolverState.disabledConstraints
  get_set _ _ := rfl

/-- The favored flag, journaled by `favorConstraint`. -/
def favored : JournaledFlag where
  get := ConstraintFlags.isFavored
  set flags old := { flags with isFavored := old }
  journal := SolverState.favoredConstraints
  get_set _ _ := rfl

variable (flag : JournaledFlag)

/-- The flag's journal in the system's solver state; empty without one. -/
def entries (cs : ConstraintSystem) : List (Nat × Bool) :=
  (cs.solverState.map flag.journal).getD []

theorem entries_map {before after : ConstraintSystem} {update : SolverState → SolverState}
    (state : after.solverState = before.solverState.map update)
    (keeps : ∀ state, flag.journal (update state) = flag.journal state) :
    flag.entries after = flag.entries before := by
  cases h : before.solverState <;> simp [entries, state, h, keeps]

/-- Replaying the flag's journal on two tables that agree on the flag gives tables that agree
on it. -/
theorem foldr_restoreFlag_congr {before after : Nat → ConstraintFlags}
    (same : ∀ constraint, flag.get (after constraint) = flag.get (before constraint))
    (journal : List (Nat × Bool)) (constraint : Nat) :
    flag.get (journal.foldr (restoreFlag flag.set) after constraint) =
      flag.get (journal.foldr (restoreFlag flag.set) before constraint) := by
  induction journal with
  | nil => exact same constraint
  | cons entry rest ih =>
    by_cases here : constraint = entry.1
    · subst here
      simp [restoreFlag, flag.get_set]
    · simpa [restoreFlag, Function.update_noteq here] using ih

/-- `after` is reached from `before` by writes of the flag that the innermost scope can undo:
the flag's journal extends that of `before`, and replaying what it gained gives every
constraint the flag it had in `before`. -/
structure Undoable (before after : ConstraintSystem) : Prop where
  entries : flag.entries before <+: flag.entries after
  restores : ∀ constraint, flag.get
    (((flag.entries after).drop (flag.entries before).length).foldr (restoreFlag flag.set)
      after.constraints constraint) = flag.get (before.constraints constraint)

namespace Undoable

variable {flag}

theorem refl (cs : ConstraintSystem) : flag.Undoable cs cs :=
  ⟨List.prefix_refl _, fun _ => by simp⟩

theorem trans {a b c : ConstraintSystem} (first : flag.Undoable a b) (second : flag.Undoable b c) :
    flag.Undoable a c where
  entries := first.entries.trans second.entries
  restores constraint := by
    rw [drop_prefix_length_append first.entries second.entries, List.foldr_append]
    exact (flag.foldr_restoreFlag_congr second.restores _ constraint).trans (first.restores constraint)

/-- A change that writes neither the flag nor its journal. -/
theorem of_same {before after : ConstraintSystem}
    (entries : flag.entries after = flag.entries before)
    (same : ∀ constraint, flag.get (after.constraints constraint) = flag.get (before.constraints constraint)) :
    flag.Undoable before after :=
  ⟨entries ▸ List.prefix_refl _, fun constraint => by simpa [entries] using same constraint⟩

/-- A write of the flag that journals the flag it overwrites. -/
theorem of_write {before after : ConstraintSystem} {constraint : Nat} {value : Bool}
    (entries : flag.entries after =
      flag.entries before ++ [(constraint, flag.get (before.constraints constraint))])
    (constraints : after.constraints = Function.update before.constraints constraint
      (flag.set (before.constraints constraint) value)) :
    flag.Undoable before after := by
  refine ⟨entries ▸ List.prefix_append _ _, fun other => ?_⟩
  rw [entries, List.drop_left, constraints]
  by_cases here : other = constraint
  · subst here
    simp [restoreFlag, flag.get_set]
  · simp [restoreFlag, Function.update_noteq here]

end Undoable

end JournaledFlag

/-- `after` is reached from `before` by flag writes that the innermost scope can undo, for both
journaled flags. -/
structure FlagsUndoable (before after : ConstraintSystem) : Prop where
  disabled : JournaledFlag.disabled.Undoable before after
  favored : JournaledFlag.favored.Undoable before after

namespace FlagsUndoable

variable {before after : ConstraintSystem}

theorem refl (cs : ConstraintSystem) : FlagsUndoable cs cs := ⟨.refl cs, .refl cs⟩

theorem trans {a b c : ConstraintSystem} (first : FlagsUndoable a b) (second : FlagsUndoable b c) :
    FlagsUndoable a c :=
  ⟨first.disabled.trans second.disabled, first.favored.trans second.favored⟩

/-- A change that writes no flag and neither flag journal. -/
theorem of_keeps (disabledEntries : JournaledFlag.disabled.entries after = JournaledFlag.disabled.entries before)
    (favoredEntries : JournaledFlag.favored.entries after = JournaledFlag.favored.entries before)
    (flags : ∀ constraint,
      (after.constraints constraint).isDisabled = (before.constraints constraint).isDisabled ∧
        (after.constraints constraint).isFavored = (before.constraints constraint).isFavored) :
    FlagsUndoable before after :=
  ⟨.of_same disabledEntries fun constraint => (flags constraint).1,
    .of_same favoredEntries fun constraint => (flags constraint).2⟩

/-- A change that writes no flag, and solver-state fields other than the flag journals. -/
theorem of_state {update : SolverState → SolverState}
    (state : after.solverState = before.solverState.map update)
    (keepsDisabled : ∀ state, (update state).disabledConstraints = state.disabledConstraints)
    (keepsFavored : ∀ state, (update state).favoredConstraints = state.favoredConstraints)
    (flags : ∀ constraint,
      (after.constraints constraint).isDisabled = (before.constraints constraint).isDisabled ∧
        (after.constraints constraint).isFavored = (before.constraints constraint).isFavored) :
    FlagsUndoable before after :=
  of_keeps (JournaledFlag.disabled.entries_map state keepsDisabled)
    (JournaledFlag.favored.entries_map state keepsFavored) flags

/-- Writing a constraint's flags with its own disabled and favored flags. -/
theorem of_setFlags {constraint : Nat} {flags : ConstraintFlags}
    (constraints : after.constraints = Function.update before.constraints constraint flags)
    (disabled : flags.isDisabled = (before.constraints constraint).isDisabled)
    (favored : flags.isFavored = (before.constraints constraint).isFavored)
    (disabledEntries : JournaledFlag.disabled.entries after = JournaledFlag.disabled.entries before)
    (favoredEntries : JournaledFlag.favored.entries after = JournaledFlag.favored.entries before) :
    FlagsUndoable before after := by
  refine of_keeps disabledEntries favoredEntries fun other => ?_
  rw [constraints]
  by_cases here : other = constraint
  · subst here
    simp [disabled, favored]
  · simp [Function.update_noteq here]

end FlagsUndoable

section Flags

variable {cs cs' : ConstraintSystem}

theorem favorConstraint_flagsUndoable (active : cs.solverState.isSome) (constraint : Nat) :
    FlagsUndoable cs (cs.favorConstraint constraint) := by
  obtain ⟨state, isState⟩ := Option.isSome_iff_exists.mp active
  refine ⟨.of_same (JournaledFlag.disabled.entries_map rfl fun _ => rfl) fun other => ?_,
    .of_write (by simp [JournaledFlag.entries, JournaledFlag.favored, favorConstraint, isState]) rfl⟩
  by_cases here : other = constraint <;> simp [favorConstraint, setFlags, JournaledFlag.disabled, here]

theorem disableConstraint_flagsUndoable (active : cs.solverState.isSome) (constraint : Nat) :
    FlagsUndoable cs (cs.disableConstraint constraint) := by
  obtain ⟨state, isState⟩ := Option.isSome_iff_exists.mp active
  refine ⟨.of_write (by simp [JournaledFlag.entries, JournaledFlag.disabled, disableConstraint, isState]) rfl,
    .of_same (JournaledFlag.favored.entries_map rfl fun _ => rfl) fun other => ?_⟩
  by_cases here : other = constraint <;> simp [disableConstraint, setFlags, JournaledFlag.favored, here]

/-- Every elementary change is undoable on the flags: the two flag writes journal the flag they
overwrite, and no other change writes a flag. -/
theorem Change.flagsUndoable (active : cs.solverState.isSome) : Change cs cs' → FlagsUndoable cs cs'
  | .writeTypeVariable _ _ _ => .of_state rfl (fun _ => rfl) (fun _ => rfl) fun _ => ⟨rfl, rfl⟩
  | .createRecord _ _ _ _ => .of_keeps rfl rfl fun _ => ⟨rfl, rfl⟩
  | .extendTables _ rest => by
    rw [rest]
    exact .of_keeps rfl rfl fun _ => ⟨rfl, rfl⟩
  | .setType _ _ _ => .of_keeps rfl rfl fun _ => ⟨rfl, rfl⟩
  | .raiseScore _ rest => by
    rw [rest]
    exact .of_keeps rfl rfl fun _ => ⟨rfl, rfl⟩
  | .activateConstraint _ activated => by
    obtain ⟨-, -, rfl⟩ := activateConstraint_eq_some _ activated
    exact .of_setFlags rfl rfl rfl rfl rfl
  | .deactivateConstraint _ deactivated => by
    obtain ⟨-, -, rfl⟩ := deactivateConstraint_eq_some _ deactivated
    exact .of_setFlags rfl rfl rfl rfl rfl
  | .removeInactiveConstraint _ removed => by
    unfold ConstraintSystem.removeInactiveConstraint at removed
    split at removed <;> cases removed
    exact .of_state rfl (fun _ => rfl) (fun _ => rfl) fun _ => ⟨rfl, rfl⟩
  | .addUnsolvedConstraint _ added => by
    unfold ConstraintSystem.addUnsolvedConstraint at added
    split at added <;> cases added
    exact .of_state rfl (fun _ => rfl) (fun _ => rfl) fun _ => ⟨rfl, rfl⟩
  | .favorConstraint _ constraint => favorConstraint_flagsUndoable active constraint
  | .disableConstraint _ constraint => disableConstraint_flagsUndoable active constraint
  | .recordFailure _ _ => .of_keeps rfl rfl fun _ => ⟨rfl, rfl⟩

theorem Changes.flagsUndoable (active : cs.solverState.isSome) (changes : Changes cs cs') :
    FlagsUndoable cs cs' := by
  induction changes with
  | refl => exact .refl _
  | tail first last ih =>
    exact ih.trans (last.flagsUndoable ((Changes.undoable active first).active.trans active))

/-- Every mutation but a re-enable is undoable on the flags. -/
theorem Mutation.flagsUndoable (mutation : Mutation)
    (notEnable : ∀ constraint, mutation ≠ .enableConstraint constraint)
    (active : cs.solverState.isSome) (applied : mutation.apply cs = some cs') :
    FlagsUndoable cs cs' := by
  rcases mutation.changes applied with changes | ⟨solution, -, finalized⟩ | ⟨constraint, isEnable, -⟩
  · exact changes.flagsUndoable active
  · obtain ⟨state, isState, changes, -⟩ := finalize_eq_some finalized
    have lowered : FlagsUndoable cs { cs with solverState := some { state with
        bestScore := some (nextBestScore cs.currentScore state.bestScore) } } :=
      .of_state (by rw [isState]; rfl : _ = cs.solverState.map fun state => { state with
        bestScore := some (nextBestScore cs.currentScore state.bestScore) })
        (fun _ => rfl) (fun _ => rfl) fun _ => ⟨rfl, rfl⟩
    exact lowered.trans (changes.flagsUndoable rfl)
  · exact absurd isEnable (notEnable constraint)

/-- **A scope restores the flags** of a run that is undoable on them: the flag journals and
every constraint's disabled and favored flags are those of the system the scope was
constructed on. -/
theorem closeScope_restores_flags {opened changed closed : ConstraintSystem}
    (isOpened : cs.openScope = some opened) (undoable : Undoable opened changed)
    (flags : FlagsUndoable opened changed) (isClosed : changed.closeScope = some closed) :
    JournaledFlag.disabled.entries closed = JournaledFlag.disabled.entries cs ∧
      JournaledFlag.favored.entries closed = JournaledFlag.favored.entries cs ∧
      ∀ constraint,
        (closed.constraints constraint).isDisabled = (cs.constraints constraint).isDisabled ∧
          (closed.constraints constraint).isFavored = (cs.constraints constraint).isFavored := by
  obtain ⟨state, isState, -, rfl⟩ := openScope_eq_some isOpened
  obtain ⟨changedState, scope, outer, isChanged, top, rfl⟩ := closeScope_eq_some isClosed
  have scopes : scope = cs.snapshot state ∧ outer = state.scopes := by
    simpa [ConstraintSystem.scopes, isChanged, top] using undoable.scopes
  obtain ⟨rfl, rfl⟩ := scopes
  have disabledJournal : state.disabledConstraints <+: changedState.disabledConstraints := by
    simpa [JournaledFlag.entries, JournaledFlag.disabled, isChanged] using flags.disabled.entries
  have favoredJournal : state.favoredConstraints <+: changedState.favoredConstraints := by
    simpa [JournaledFlag.entries, JournaledFlag.favored, isChanged] using flags.favored.entries
  refine ⟨by simp [JournaledFlag.entries, JournaledFlag.disabled, unwindScope, rollback, snapshot,
      isState, disabledJournal],
    by simp [JournaledFlag.entries, JournaledFlag.favored, unwindScope, rollback, snapshot, isState,
      favoredJournal], fun constraint => ⟨?_, ?_⟩⟩
  · have restored := flags.disabled.restores constraint
    simp only [JournaledFlag.entries, isChanged, Option.map_some', Option.getD_some] at restored
    simp only [unwindScope, rollback, foldr_restoreFavored_isDisabled]
    refine (JournaledFlag.disabled.foldr_restoreFlag_congr ?_ _ constraint).trans restored
    exact fun _ => rfl
  · have restored := flags.favored.restores constraint
    simp only [JournaledFlag.entries, isChanged, Option.map_some', Option.getD_some] at restored
    refine (JournaledFlag.favored.foldr_restoreFlag_congr ?_ _ constraint).trans restored
    exact fun _ => foldr_restoreDisabled_isFavored _ _ _

/-- **A balanced run that re-enables no constraint is undoable on the flags.** -/
theorem Balanced.flagsUndoable {events : List SolverEvent} (balanced : Balanced events) :
    ∀ {cs cs' : ConstraintSystem},
      (∀ constraint, SolverEvent.mutate (.enableConstraint constraint) ∉ events) →
      cs.solverState.isSome → run events cs = some cs' → FlagsUndoable cs cs' := by
  induction balanced with
  | nil =>
    intro cs cs' _ _ ran
    cases ran
    exact .refl _
  | mutate mutation _ ih =>
    intro cs cs' noEnable active ran
    obtain ⟨middle, first, second⟩ := Option.bind_eq_some.mp ran
    have notEnable : ∀ constraint, mutation ≠ .enableConstraint constraint := by
      rintro constraint rfl
      exact noEnable constraint (List.mem_cons_self _ _)
    exact (mutation.flagsUndoable notEnable active first).trans
      (ih (fun constraint found => noEnable constraint (List.mem_cons_of_mem _ found))
        ((mutation.undoable active first).active.trans active) second)
  | scope innerBalanced _ ihInner ihRest =>
    intro cs cs' noEnable active ran
    obtain ⟨opened, inside, closed, isOpened, ranInner, isClosed, ranRest⟩ := run_scope_block ran
    have openedActive := openScope_active isOpened
    have undoable := innerBalanced.undoable openedActive ranInner
    obtain ⟨disabled, favored, flags⟩ := closeScope_restores_flags isOpened undoable
      (ihInner (fun constraint found => noEnable constraint (by simp [found])) openedActive ranInner)
      isClosed
    obtain ⟨closed', isClosed', restored⟩ := closeScope_of_undoable isOpened undoable
    cases isClosed.symm.trans isClosed'
    exact (FlagsUndoable.of_keeps disabled favored flags).trans
      (ihRest (fun constraint found => noEnable constraint (by simp [found]))
        (restored.active.trans active) ranRest)

end Flags

/-- **Scoped undo is exact.** Construct a scope on a system with a solver state, run any
balanced sequence of mutations and nested scopes, and destroy the scope: the type variables,
the side tables, the journals, the node types, the score, the failure and the scopes are
those of the system before, and so are every type variable's representative and fixed type.
When the run re-enables no constraint (the one flag write that is not journaled, which the
claim's mutations do not include), every constraint's disabled and favored flags are those
of the system before as well. -/
theorem scope_restores {cs opened changed : ConstraintSystem} {events : List SolverEvent}
    (isOpened : cs.openScope = some opened) (balanced : Balanced events)
    (ran : run events opened = some changed) :
    ∃ closed, changed.closeScope = some closed ∧ RestoredTo closed cs ∧
      (∀ v, closed.getRepresentative v = cs.getRepresentative v ∧
        closed.getFixedType v = cs.getFixedType v) ∧
      ((∀ constraint, SolverEvent.mutate (.enableConstraint constraint) ∉ events) →
        ∀ constraint, (closed.constraints constraint).isDisabled = (cs.constraints constraint).isDisabled ∧
          (closed.constraints constraint).isFavored = (cs.constraints constraint).isFavored) := by
  have active := openScope_active isOpened
  have undoable := balanced.undoable active ran
  obtain ⟨closed, isClosed, restored⟩ := closeScope_of_undoable isOpened undoable
  refine ⟨closed, isClosed, restored, fun v => ⟨Arena.getRepresentative_eq_of_sameLinks restored.links v,
    Arena.getFixedType_eq_of_sameLinks restored.links v⟩, fun noEnable => ?_⟩
  exact (closeScope_restores_flags isOpened undoable (balanced.flagsUndoable noEnable active ran)
    isClosed).2.2

/-- A constraint disabled before the scope and disabled again inside it is still disabled
once the scope is destroyed. -/
theorem scope_restores_disabledTwice :
    ∃ opened changed closed,
      { ConstraintSystem.empty .trivial with
          solverState := some (.initial .allow [])
          constraints := fun _ => ⟨false, true, false⟩ }.openScope = some opened ∧
      run [.mutate (.disableConstraint 5)] opened = some changed ∧ changed.closeScope = some closed ∧
      RestoredTo closed { ConstraintSystem.empty .trivial with
        solverState := some (.initial .allow [])
        constraints := fun _ => ⟨false, true, false⟩ } ∧
      (closed.constraints 5).isDisabled = true := by
  obtain ⟨closed, isClosed, restored, -, flags⟩ := @scope_restores
    { ConstraintSystem.empty .trivial with
      solverState := some (.initial .allow [])
      constraints := fun _ => ⟨false, true, false⟩ } _ _ _
    rfl (.mutate (.disableConstraint 5) .nil) rfl
  exact ⟨_, _, closed, rfl, rfl, isClosed, restored, (flags (by simp) 5).1⟩

end Constraints
