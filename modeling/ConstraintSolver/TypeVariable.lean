import ConstraintSolver.Type

/-! # Type variables, their equivalence classes and the binding journal

A type variable's mutable state is one record: a union-find parent link, or, at a
representative, the fixed type of its equivalence class; and the binding options that merges
narrow. The record lives in `TypeVariableType::Implementation`, in a header that is not part
of the sources, so it is modelled from the spec (§3, §4.1, §9): the representative is found by
following parent links, only representatives carry a fixed type, and every write is journaled
as a `SavedTypeVariableBinding` that `ConstraintSystem::restoreTypeVariableBindings` replays
in reverse.

Lookups that follow parent links run on fuel and return `none` where the C++ loop would not
stop. `Arena.getRepresentative` gives them one more step than there are allocated variables,
which suffices whenever the parent links are acyclic
(`Constraints.Arena.getRepresentative_isSome`).
-/

namespace Constraints

open Relation

/-- `ParentOrFixed`: the union-find parent, or the fixed type bound to the equivalence class.
A variable whose parent is itself is a representative. -/
inductive ParentOrFixed where
  | parent (typeVar : Nat)
  | fixed (type : Ty)
  deriving DecidableEq, Repr

/-- The binding options of a type variable (`TVO_*`). -/
structure TypeVariableOptions where
  canBindToLValue : Bool
  canBindToInOut : Bool
  canBindToNoEscape : Bool
  canBindToHole : Bool
  deriving DecidableEq, Repr

/-- Modelled from the spec: `TypeVariableType::Implementation` (declared in the solver's
header), the journaled state of one type variable. -/
structure TypeVariableImpl where
  parentOrFixed : ParentOrFixed
  options : TypeVariableOptions
  deriving DecidableEq, Repr

/-- The state of a type variable nothing has touched: its own representative, unbound. -/
def TypeVariableImpl.initial (v : Nat) : TypeVariableImpl :=
  ⟨.parent v, ⟨false, false, false, false⟩⟩

/-- The implementation records of all type variables. `allocated` lists every variable that
was ever created or written; all others are in their initial state. -/
structure Arena where
  impl : Nat → TypeVariableImpl
  allocated : List Nat
  unallocated : ∀ v, v ∉ allocated → impl v = TypeVariableImpl.initial v

namespace Arena

/-- Overwrite one type variable's record. -/
def write (arena : Arena) (v : Nat) (record : TypeVariableImpl) : Arena where
  impl := Function.update arena.impl v record
  allocated := arena.allocated.insert v
  unallocated := by
    intro u outside
    have different : u ≠ v := fun same => outside (same ▸ List.mem_insert_self v _)
    rw [Function.update_noteq different]
    exact arena.unallocated u fun member => outside (List.mem_insert_of_mem member)

@[simp] theorem write_impl (arena : Arena) (v : Nat) (record : TypeVariableImpl) :
    (arena.write v record).impl = Function.update arena.impl v record := rfl

/-- Follow parent links for at most `fuel` variables; `none` when the fuel runs out. -/
def representative (arena : Arena) : Nat → Nat → Option Nat
  | 0, _ => none
  | fuel + 1, v =>
    match (arena.impl v).parentOrFixed with
    | .parent next => if next = v then some v else arena.representative fuel next
    | .fixed _ => some v

/-- `getRepresentative`, without path compression (the spec does not require it). -/
def getRepresentative (arena : Arena) (v : Nat) : Option Nat :=
  arena.representative (arena.allocated.length + 1) v

/-- The fixed type stored at a representative. -/
def fixedTypeAt (arena : Arena) (representative : Nat) : Option Ty :=
  match (arena.impl representative).parentOrFixed with
  | .fixed type => some type
  | .parent _ => none

theorem fixedTypeAt_eq_some {arena : Arena} {r : Nat} {type : Ty} :
    arena.fixedTypeAt r = some type ↔ (arena.impl r).parentOrFixed = .fixed type := by
  unfold fixedTypeAt
  split <;> simp_all

@[simp] theorem fixedTypeAt_write_of_ne {arena : Arena} {r v : Nat} (other : r ≠ v)
    (record : TypeVariableImpl) : (arena.write v record).fixedTypeAt r = arena.fixedTypeAt r := by
  simp [fixedTypeAt, Function.update_noteq other]

/-- `getFixedType`: the fixed type of the variable's equivalence class; the outer `none` is
a lookup that does not stop. -/
def getFixedType (arena : Arena) (v : Nat) : Option (Option Ty) :=
  (arena.getRepresentative v).map arena.fixedTypeAt

/-- A representative that has no fixed type. -/
def IsUnboundRepresentative (arena : Arena) (v : Nat) : Prop :=
  (arena.impl v).parentOrFixed = .parent v

instance (arena : Arena) (v : Nat) : Decidable (arena.IsUnboundRepresentative v) :=
  inferInstanceAs (Decidable (_ = _))

/-! ## Acyclicity -/

/-- A parent link other than a representative's link to itself. -/
def ParentLink (arena : Arena) (v next : Nat) : Prop :=
  (arena.impl v).parentOrFixed = .parent next ∧ next ≠ v

/-- The representative links form a forest. -/
def RepresentativesAcyclic (arena : Arena) : Prop :=
  ∀ v, ¬ TransGen arena.ParentLink v v

/-- `u` occurs in the fixed type of `v`'s equivalence class. -/
def FixedLink (arena : Arena) (v u : Nat) : Prop :=
  ∃ r type, ReflTransGen arena.ParentLink v r ∧ (arena.impl r).parentOrFixed = .fixed type ∧
    u ∈ type.typeVariables

/-- No type variable occurs in its own transitive fixed type: the occurs check. -/
def BindingsAcyclic (arena : Arena) : Prop :=
  ∀ v, ¬ TransGen arena.FixedLink v v

theorem allocated_of_parentLink {arena : Arena} {v next : Nat} (link : arena.ParentLink v next) :
    v ∈ arena.allocated := by
  by_contra outside
  have initial := arena.unallocated v outside
  simp only [ParentLink, initial, TypeVariableImpl.initial, ParentOrFixed.parent.injEq] at link
  exact link.2 link.1.symm

theorem reflTransGen_parentLink_of_not_allocated {arena : Arena} {v r : Nat}
    (outside : v ∉ arena.allocated) (chain : ReflTransGen arena.ParentLink v r) : r = v := by
  rcases chain.cases_head with same | ⟨next, link, _⟩
  · exact same.symm
  · exact absurd (allocated_of_parentLink link) outside

theorem allocated_of_fixedLink {arena : Arena} {v u : Nat} (link : arena.FixedLink v u) :
    v ∈ arena.allocated := by
  obtain ⟨r, type, chain, fixed, -⟩ := link
  by_contra outside
  rw [reflTransGen_parentLink_of_not_allocated outside chain, arena.unallocated v outside] at fixed
  cases fixed

/-! ## Ranks of an acyclic relation on a finite support -/

theorem length_filter_lt_of_mono {α : Type} {p q : α → Bool} :
    ∀ {support : List α}, (∀ a, p a → q a) → (∃ a ∈ support, q a ∧ ¬ p a) →
      (support.filter p).length < (support.filter q).length
  | [], _, ⟨_, member, _⟩ => absurd member (List.not_mem_nil _)
  | b :: rest, mono, ⟨a, member, inQ, notP⟩ => by
    have le : (rest.filter p).length ≤ (rest.filter q).length := by
      simpa only [← List.countP_eq_length_filter] using List.countP_mono_left fun x _ => mono x
    rcases List.mem_cons.mp member with rfl | inRest
    · simp only [List.filter_cons, inQ, notP, Bool.false_eq_true, ↓reduceIte, List.length_cons]
      omega
    · have lt := length_filter_lt_of_mono mono ⟨a, inRest, inQ, notP⟩
      by_cases inP : p b
      · simp only [List.filter_cons, inP, mono b inP, ↓reduceIte, List.length_cons]
        omega
      · simp only [List.filter_cons, inP, Bool.false_eq_true, ↓reduceIte]
        split
        · simp only [List.length_cons]
          omega
        · omega

/-- An acyclic relation whose edges all leave a finite support has a rank below the size of
the support that decreases along every edge. -/
theorem exists_rank_of_acyclic {α : Type} {R : α → α → Prop} (support : List α)
    (source : ∀ x y, R x y → x ∈ support) (acyclic : ∀ x, ¬ TransGen R x x) :
    ∃ rank : α → Nat, (∀ x, rank x ≤ support.length) ∧ ∀ x y, R x y → rank y < rank x := by
  classical
  refine ⟨fun x => (support.filter fun a => decide (ReflTransGen R x a)).length,
    fun x => List.length_filter_le _ _, fun x y edge => ?_⟩
  refine length_filter_lt_of_mono (fun a reach => ?_) ⟨x, source x y edge, ?_, ?_⟩
  · exact decide_eq_true (ReflTransGen.head edge (of_decide_eq_true reach))
  · exact decide_eq_true ReflTransGen.refl
  · intro back
    exact acyclic x (TransGen.head' edge (of_decide_eq_true back))

/-! ## Representatives -/

theorem representative_spec {arena : Arena} :
    ∀ {fuel v r}, arena.representative fuel v = some r →
      ReflTransGen arena.ParentLink v r ∧
        ((arena.impl r).parentOrFixed = .parent r ∨ ∃ type, (arena.impl r).parentOrFixed = .fixed type)
  | 0, _, _, found => by cases found
  | fuel + 1, v, r, found => by
    unfold representative at found
    split at found
    · rename_i next root
      split at found
      · cases found
        exact ⟨.refl, .inl (by simp_all)⟩
      · obtain ⟨chain, stop⟩ := representative_spec found
        exact ⟨.head ⟨root, by assumption⟩ chain, stop⟩
    · cases found
      exact ⟨.refl, .inr ⟨_, by assumption⟩⟩

theorem representative_isSome_of_rank {arena : Arena} {rank : Nat → Nat}
    (decreasing : ∀ x y, arena.ParentLink x y → rank y < rank x) :
    ∀ fuel v, rank v < fuel → (arena.representative fuel v).isSome
  | 0, _, bound => absurd bound (Nat.not_lt_zero _)
  | fuel + 1, v, bound => by
    unfold representative
    split
    · rename_i next root
      split
      · rfl
      · exact representative_isSome_of_rank decreasing fuel next
          (by have := decreasing v next ⟨root, by assumption⟩; omega)
    · rfl

/-- With acyclic parent links, `getRepresentative` always stops. -/
theorem getRepresentative_isSome {arena : Arena} (acyclic : arena.RepresentativesAcyclic)
    (v : Nat) : (arena.getRepresentative v).isSome := by
  obtain ⟨rank, bounded, decreasing⟩ :=
    exists_rank_of_acyclic arena.allocated (fun _ _ => allocated_of_parentLink) acyclic
  exact representative_isSome_of_rank decreasing _ v (Nat.lt_succ_of_le (bounded v))

/-! ## The fuel of `getRepresentative` suffices

A lookup that reaches a representative never passes through a cycle, so the links it follows
are ranked below the number of allocated variables, and `getRepresentative` finds whatever a
lookup with more fuel finds. Its result therefore depends on the records alone. -/

theorem not_cycle_of_representative {arena : Arena} :
    ∀ {fuel v r}, arena.representative fuel v = some r → ¬ TransGen arena.ParentLink v v
  | 0, _, _, found => by cases found
  | fuel + 1, v, r, found => fun cycle => by
    obtain ⟨next, ⟨link, moves⟩, back⟩ := TransGen.head'_iff.mp cycle
    simp only [representative, link, moves, ↓reduceIte] at found
    exact not_cycle_of_representative found (TransGen.tail' back ⟨link, moves⟩)

/-- A variable from which some lookup reaches a representative. -/
def Resolves (arena : Arena) (v : Nat) : Prop := ∃ fuel r, arena.representative fuel v = some r

theorem representative_of_rank {arena : Arena} {rank : Nat → Nat}
    (decreasing : ∀ x y, arena.ParentLink x y → arena.Resolves x → rank y < rank x) :
    ∀ {bound fuel v r}, rank v < bound → arena.representative fuel v = some r →
      arena.representative bound v = some r
  | 0, _, _, _, below, _ => absurd below (Nat.not_lt_zero _)
  | _ + 1, 0, _, _, _, found => by cases found
  | bound + 1, fuel + 1, v, r, below, found => by
    have resolves : arena.Resolves v := ⟨_, _, found⟩
    unfold representative at found ⊢
    cases parent : (arena.impl v).parentOrFixed with
    | parent next =>
      simp only [parent] at found ⊢
      by_cases root : next = v
      · simpa only [root, ↓reduceIte] using found
      · simp only [root, ↓reduceIte] at found ⊢
        have := decreasing v next ⟨parent, root⟩ resolves
        exact representative_of_rank decreasing (by omega) found
    | fixed type => simpa only [parent] using found

/-- `getRepresentative` finds the representative that a lookup with any fuel finds. -/
theorem getRepresentative_of_representative {arena : Arena} {fuel v r : Nat}
    (found : arena.representative fuel v = some r) : arena.getRepresentative v = some r := by
  obtain ⟨rank, bounded, decreasing⟩ :=
    exists_rank_of_acyclic (R := fun x y => arena.ParentLink x y ∧ arena.Resolves x)
      arena.allocated (fun _ _ edge => allocated_of_parentLink edge.1) fun x cycle => by
        obtain ⟨_, ⟨_, _, _, found⟩, _⟩ := TransGen.head'_iff.mp cycle
        exact not_cycle_of_representative found (cycle.mono fun _ _ edge => edge.1)
  exact representative_of_rank (fun x y link resolves => decreasing x y ⟨link, resolves⟩)
    (Nat.lt_succ_of_le (bounded v)) found

/-- Two arenas whose records have the same links and fixed types. -/
def SameLinks (a b : Arena) : Prop := ∀ v, (a.impl v).parentOrFixed = (b.impl v).parentOrFixed

theorem representative_eq_of_sameLinks {a b : Arena} (same : a.SameLinks b) :
    ∀ fuel v, a.representative fuel v = b.representative fuel v
  | 0, _ => rfl
  | fuel + 1, v => by
    simp only [representative, same v, representative_eq_of_sameLinks same fuel]

/-- Arenas with the same links have the same representatives, however many variables each
has allocated. -/
theorem getRepresentative_eq_of_sameLinks {a b : Arena} (same : a.SameLinks b) (v : Nat) :
    a.getRepresentative v = b.getRepresentative v := by
  have transfer : ∀ {a b : Arena}, a.SameLinks b →
      ∀ r, a.getRepresentative v = some r → b.getRepresentative v = some r := fun same _ found =>
    getRepresentative_of_representative ((representative_eq_of_sameLinks same _ v).symm.trans found)
  exact Option.ext fun r => ⟨transfer same r, transfer (fun v => (same v).symm) r⟩

theorem getFixedType_eq_of_sameLinks {a b : Arena} (same : a.SameLinks b) (v : Nat) :
    a.getFixedType v = b.getFixedType v := by
  have fixed : a.fixedTypeAt = b.fixedTypeAt := funext fun r => by simp only [fixedTypeAt, same r]
  simp only [getFixedType, getRepresentative_eq_of_sameLinks same v, fixed]

/-! ## The binding journal -/

/-- `SavedTypeVariableBinding`: a type variable and the record it had before a write. -/
structure SavedTypeVariableBinding where
  typeVar : Nat
  impl : TypeVariableImpl
  deriving DecidableEq, Repr

/-- `SavedTypeVariableBinding::restore`. -/
def SavedTypeVariableBinding.restore (saved : SavedTypeVariableBinding) (arena : Arena) : Arena :=
  arena.write saved.typeVar saved.impl

/-- Restore the given journal entries, the most recent first. -/
def restoreAll (journal : List SavedTypeVariableBinding) (arena : Arena) : Arena :=
  journal.foldr SavedTypeVariableBinding.restore arena

/-- Replaying a journal reads the records it does not restore from the arena it starts on. -/
theorem restoreAll_impl (journal : List SavedTypeVariableBinding) (arena arena' : Arena)
    (same : arena.impl = arena'.impl) :
    (restoreAll journal arena).impl = (restoreAll journal arena').impl := by
  induction journal with
  | nil => exact same
  | cons saved rest ih =>
    simp only [restoreAll, List.foldr_cons, SavedTypeVariableBinding.restore, write_impl] at ih ⊢
    rw [ih]

/-- Undoing a journaled write first gives back the arena before it. -/
theorem restoreAll_recordAndWrite (journal : List SavedTypeVariableBinding) (arena : Arena)
    (v : Nat) (record : TypeVariableImpl) :
    (restoreAll (journal ++ [⟨v, arena.impl v⟩]) (arena.write v record)).impl =
      (restoreAll journal arena).impl := by
  have undone : ((⟨v, arena.impl v⟩ : SavedTypeVariableBinding).restore
      (arena.write v record)).impl = arena.impl := by
    simp [SavedTypeVariableBinding.restore]
  simp only [restoreAll, List.foldr_append, List.foldr_cons, List.foldr_nil]
  exact restoreAll_impl journal _ _ undone

theorem restoreAll_append (first second : List SavedTypeVariableBinding) (arena : Arena) :
    restoreAll (first ++ second) arena = restoreAll first (restoreAll second arena) :=
  List.foldr_append _ _ _ _

theorem SameLinks.refl (arena : Arena) : arena.SameLinks arena := fun _ => rfl

theorem SameLinks.symm {a b : Arena} (same : a.SameLinks b) : b.SameLinks a :=
  fun v => (same v).symm

theorem SameLinks.trans {a b c : Arena} (first : a.SameLinks b) (second : b.SameLinks c) :
    a.SameLinks c :=
  fun v => (first v).trans (second v)

theorem SameLinks.write {a b : Arena} (same : a.SameLinks b) (v : Nat) (record : TypeVariableImpl) :
    (a.write v record).SameLinks (b.write v record) := fun u => by
  by_cases here : u = v
  · subst here
    simp
  · simp [Function.update_noteq here, same u]

/-- Replaying one journal over arenas with the same links gives arenas with the same links. -/
theorem SameLinks.restoreAll {a b : Arena} (same : a.SameLinks b)
    (journal : List SavedTypeVariableBinding) :
    (Arena.restoreAll journal a).SameLinks (Arena.restoreAll journal b) := by
  induction journal with
  | nil => exact same
  | cons saved rest ih => exact ih.write saved.typeVar saved.impl

end Arena

end Constraints
