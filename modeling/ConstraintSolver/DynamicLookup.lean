import ConstraintSolver.System

/-! # Dynamic member lookup

`lookupMember` caches each lookup under its base type and name. On an `AnyObject` base it
deduplicates the raw result by dynamic-result signature (static flag, Objective-C selector,
canonical type). One loop drops invalid declarations and records, for each signature, the
first declaration with it, replaced once by the first available one if the recorded one is
unavailable. When the loop saw anything to remove, a filter then keeps the valid entries whose
declaration is the one recorded for their signature.

The recorded declaration is the preferred declaration of the signature
(`Constraints.preferredDecl`): the first available declaration with that signature, or the first
declaration with it if none is available (`Constraints.foldlM_dedupStep`). The cached result is
therefore the raw result filtered to preferred entries
(`Constraints.performMemberLookup_anyObject`, `Constraints.lookupMember_dynamic_dedup`). It
holds no invalid declaration, and every signature of a valid declaration keeps its preferred one.
Two entries with one signature are the same declaration, but not always one entry: the filter
compares declarations, so a declaration listed twice in the raw result is kept twice, where the
code's comments promise that redundant results are filtered out
(`Constraints.lookupMember_keeps_repeated_declaration`).
-/

namespace Constraints

/-- What `getDynamicResultSignature` reads of a declaration. A function has a static flag, a
selector and a method interface type. A storage declaration has a static flag, a getter
selector, and an interface type that may carry a generic signature. Every other kind of
declaration is `other`. -/
inductive DeclKind where
  | function (isStatic : Bool) (objcSelector : Nat) (methodInterfaceType : Ty)
  | storage (isStatic : Bool) (objcGetterSelector : Nat) (interfaceType : Ty)
      (genericSignature : Option Nat)
  | other
  deriving DecidableEq, Repr

/-- A declaration found by member lookup: its identity, its kind, whether it is invalid, and
whether `isDeclUnavailable` holds of it in the system's context. -/
structure ValueDecl where
  id : Nat
  kind : DeclKind
  isInvalid : Bool
  isUnavailable : Bool
  deriving DecidableEq, Repr

/-- The dynamic-result signature of a declaration. -/
structure DynamicResultSignature where
  isStatic : Bool
  selector : Nat
  type : Ty
  deriving DecidableEq, Repr

/-- `getDynamicResultSignature`. A storage declaration's generic signature is stripped off. The
outer `none` is its `llvm_unreachable`, on a declaration that is neither a function nor a storage
declaration. -/
def getDynamicResultSignature (decl : ValueDecl) : Option DynamicResultSignature :=
  match decl.kind with
  | .function isStatic objcSelector methodInterfaceType =>
    some ⟨isStatic, objcSelector, methodInterfaceType⟩
  | .storage isStatic objcGetterSelector interfaceType _ =>
    some ⟨isStatic, objcGetterSelector, interfaceType⟩
  | .other => none

/-- The table `known` of the deduplication loop, with its `anyRemovals` flag. -/
abbrev DedupState := List (DynamicResultSignature × ValueDecl) × Bool

/-- One iteration of the deduplication loop of `lookupMember`. -/
def dedupStep (state : DedupState) (decl : ValueDecl) : Option DedupState :=
  let (known, anyRemovals) := state
  if decl.isInvalid then some (known, true)
  else
    match getDynamicResultSignature decl with
    | none => none
    | some signature =>
      match known.lookup signature with
      | none => some (assignEntry known signature decl, anyRemovals)
      | some uniqueEntry =>
        some (if uniqueEntry.isUnavailable && !decl.isUnavailable then
          assignEntry known signature decl else known, true)

/-- The predicate of `result->filter`: a valid declaration that is the one recorded for its
signature. The `none` case cannot be reached, since the loop has already failed on such a
declaration. -/
def keepsDynamicResult (known : List (DynamicResultSignature × ValueDecl)) (decl : ValueDecl) :
    Bool :=
  !decl.isInvalid &&
    match getDynamicResultSignature decl with
    | some signature => known.lookup signature == some decl
    | none => false

/-- What `TypeChecker::lookupMember` finds, in the system's declaration context, for a base type
and a name, and which base types are `AnyObject`. -/
structure MemberLookupEnv where
  lookup : Ty → Nat → List ValueDecl
  isAnyObject : Ty → Bool

/-- The key of `MemberLookups`: a base type and a member name. -/
structure MemberLookupKey where
  base : Ty
  name : Nat
  deriving DecidableEq, Repr

/-- The body of `lookupMember` after a cache miss: the lookup, deduplicated on an `AnyObject`
base. -/
def performMemberLookup (env : MemberLookupEnv) (base : Ty) (name : Nat) :
    Option (List ValueDecl) :=
  let result := env.lookup base name
  if result.isEmpty || !env.isAnyObject base then some result
  else do
    let (known, anyRemovals) ← result.foldlM dedupStep ([], false)
    pure (if anyRemovals then result.filter (keepsDynamicResult known) else result)

/-- `ConstraintSystem::lookupMember`: the cached result under `MemberLookups`, or the lookup,
which is then cached. -/
def lookupMember (env : MemberLookupEnv) (memberLookups : List (MemberLookupKey × List ValueDecl))
    (base : Ty) (name : Nat) : Option (List ValueDecl × List (MemberLookupKey × List ValueDecl)) :=
  match memberLookups.lookup ⟨base, name⟩ with
  | some result => some (result, memberLookups)
  | none => (performMemberLookup env base name).map fun result =>
      (result, assignEntry memberLookups ⟨base, name⟩ result)

/-! ## The preferred declaration of a signature -/

/-- The valid declarations of a lookup with a given signature, in order. -/
def signatureCandidates (decls : List ValueDecl) (signature : DynamicResultSignature) :
    List ValueDecl :=
  decls.filter fun decl => !decl.isInvalid && getDynamicResultSignature decl == some signature

/-- Modelled from the spec: the preferred declaration of a signature, the first available
declaration with it, or the first declaration with it if none is available. -/
def preferredDecl (decls : List ValueDecl) (signature : DynamicResultSignature) :
    Option ValueDecl :=
  match (signatureCandidates decls signature).find? (!·.isUnavailable) with
  | some decl => some decl
  | none => (signatureCandidates decls signature).head?

/-- Modelled from the spec: a valid declaration that is the preferred one of its signature. -/
def isPreferredEntry (decls : List ValueDecl) (decl : ValueDecl) : Bool :=
  !decl.isInvalid &&
    match getDynamicResultSignature decl with
    | some signature => preferredDecl decls signature == some decl
    | none => false

theorem signatureCandidates_snoc (decls : List ValueDecl) (decl : ValueDecl)
    (signature : DynamicResultSignature) :
    signatureCandidates (decls ++ [decl]) signature =
      signatureCandidates decls signature ++
        if decl.isInvalid = false ∧ getDynamicResultSignature decl = some signature then [decl]
        else [] := by
  by_cases candidate : decl.isInvalid = false ∧ getDynamicResultSignature decl = some signature
  · simp [signatureCandidates, List.filter_append, candidate]
  · simp only [signatureCandidates, List.filter_append, List.filter_cons, List.filter_nil,
      if_neg candidate]
    simp_all

theorem preferredDecl_mem {decls : List ValueDecl} {signature : DynamicResultSignature}
    {preferred : ValueDecl} (found : preferredDecl decls signature = some preferred) :
    preferred ∈ signatureCandidates decls signature := by
  unfold preferredDecl at found
  split at found
  · cases found
    exact List.mem_of_find?_eq_some ‹_›
  · exact List.mem_of_mem_head? found

theorem preferredDecl_eq_none {decls : List ValueDecl} {signature : DynamicResultSignature} :
    preferredDecl decls signature = none ↔ signatureCandidates decls signature = [] := by
  unfold preferredDecl
  split
  · rename_i found
    simp only [reduceCtorEq, false_iff]
    intro empty
    simp [empty] at found
  · exact List.head?_eq_none_iff

theorem preferredDecl_of_singleton {decls : List ValueDecl} {signature : DynamicResultSignature}
    {decl : ValueDecl} (alone : signatureCandidates decls signature = [decl]) :
    preferredDecl decls signature = some decl := by
  unfold preferredDecl
  rw [alone]
  cases available : decl.isUnavailable <;> simp [available]

/-- A later declaration that is not a candidate leaves the preferred declaration alone. -/
theorem preferredDecl_snoc_of_not_candidate (decls : List ValueDecl) {decl : ValueDecl}
    {signature : DynamicResultSignature}
    (notCandidate : ¬(decl.isInvalid = false ∧ getDynamicResultSignature decl = some signature)) :
    preferredDecl (decls ++ [decl]) signature = preferredDecl decls signature := by
  simp only [preferredDecl, signatureCandidates_snoc, if_neg notCandidate, List.append_nil]

/-- A later candidate becomes the preferred declaration when there was none, or when the one
there was is unavailable and it is available: the rule of the deduplication loop. -/
theorem preferredDecl_snoc_candidate (decls : List ValueDecl) {decl : ValueDecl}
    {signature : DynamicResultSignature} (valid : decl.isInvalid = false)
    (signed : getDynamicResultSignature decl = some signature) :
    preferredDecl (decls ++ [decl]) signature =
      match preferredDecl decls signature with
      | none => some decl
      | some uniqueEntry =>
        if uniqueEntry.isUnavailable && !decl.isUnavailable then some decl else some uniqueEntry := by
  unfold preferredDecl
  rw [signatureCandidates_snoc, if_pos ⟨valid, signed⟩, List.find?_append]
  cases firstAvailable : (signatureCandidates decls signature).find? (!·.isUnavailable) with
  | some uniqueEntry =>
    have available : uniqueEntry.isUnavailable = false := by
      simpa using List.find?_some firstAvailable
    simp [available]
  | none =>
    have unavailable : ∀ other ∈ signatureCandidates decls signature, other.isUnavailable = true := by
      simpa using List.find?_eq_none.mp firstAvailable
    cases first : (signatureCandidates decls signature).head? with
    | none =>
      rw [List.head?_eq_none_iff.mp first]
      cases available : decl.isUnavailable <;> simp [available]
    | some uniqueEntry =>
      have wasUnavailable := unavailable uniqueEntry (List.mem_of_mem_head? first)
      cases available : decl.isUnavailable <;>
        simp [available, wasUnavailable, List.head?_append, first]

/-! ## The deduplication loop -/

/-- What the loop's state says about the entries it has looked at. The table gives each
signature its preferred declaration. Without removals, every entry is valid, has a signature,
and is alone with it. -/
structure DedupInvariant (processed : List ValueDecl) (state : DedupState) : Prop where
  known_lookup : ∀ signature, state.1.lookup signature = preferredDecl processed signature
  noRemovals : state.2 = false →
    (∀ decl ∈ processed, decl.isInvalid = false ∧ (getDynamicResultSignature decl).isSome) ∧
      ∀ signature, (signatureCandidates processed signature).length ≤ 1

theorem dedupInvariant_initial : DedupInvariant [] ([], false) :=
  ⟨fun _ => rfl, fun _ => ⟨nofun, fun _ => by simp [signatureCandidates]⟩⟩

/-- **Step lemma**: one iteration keeps the invariant, on an entry that is invalid or has a
signature. -/
theorem dedupStep_spec {processed : List ValueDecl} {state : DedupState} {decl : ValueDecl}
    (invariant : DedupInvariant processed state)
    (objcMember : decl.isInvalid = false → (getDynamicResultSignature decl).isSome) :
    ∃ state', dedupStep state decl = some state' ∧ DedupInvariant (processed ++ [decl]) state' := by
  obtain ⟨known, anyRemovals⟩ := state
  cases valid : decl.isInvalid
  case true =>
    refine ⟨(known, true), by simp [dedupStep, valid], fun signature => ?_, nofun⟩
    rw [preferredDecl_snoc_of_not_candidate _ (by simp [valid])]
    exact invariant.known_lookup signature
  case false =>
    obtain ⟨signature, signed⟩ := Option.isSome_iff_exists.mp (objcMember valid)
    -- the table changes at the entry's signature only, as the preferred declaration does
    have elsewhere : ∀ other, other ≠ signature →
        preferredDecl (processed ++ [decl]) other = known.lookup other := fun other different => by
      rw [preferredDecl_snoc_of_not_candidate _ (by simp [signed, Ne.symm different]),
        invariant.known_lookup]
    have here := preferredDecl_snoc_candidate processed valid signed
    rw [← invariant.known_lookup] at here
    cases recorded : known.lookup signature with
    | none =>
      refine ⟨(assignEntry known signature decl, anyRemovals),
        by simp [dedupStep, valid, signed, recorded], fun other => ?_, fun kept => ?_⟩
      · by_cases same : other = signature
        · subst same
          simp [here, recorded]
        · simp [same, elsewhere other same]
      · obtain ⟨validBefore, alone⟩ := invariant.noRemovals kept
        have noneBefore : signatureCandidates processed signature = [] :=
          preferredDecl_eq_none.mp (invariant.known_lookup signature ▸ recorded)
        refine ⟨fun other member => ?_, fun other => ?_⟩
        · rcases List.mem_append.mp member with before | isDecl
          · exact validBefore other before
          · rw [List.mem_singleton.mp isDecl, valid, signed]
            exact ⟨rfl, rfl⟩
        · rw [signatureCandidates_snoc]
          by_cases same : other = signature
          · subst same
            simp [noneBefore, valid, signed]
          · simpa [signed, Ne.symm same] using alone other
    | some uniqueEntry =>
      refine ⟨(if uniqueEntry.isUnavailable && !decl.isUnavailable then
          assignEntry known signature decl else known, true),
        by simp [dedupStep, valid, signed, recorded], fun other => ?_, nofun⟩
      by_cases same : other = signature
      · subst same
        rw [here, recorded]
        by_cases replaced : (uniqueEntry.isUnavailable && !decl.isUnavailable) = true <;>
          simp [replaced, recorded]
      · rw [elsewhere other same]
        split <;> simp [same]

/-- **Run lemma**: the loop over the entries left stops, when every valid one has a signature,
and keeps the invariant. -/
theorem foldlM_dedupStep : ∀ (rest : List ValueDecl) {processed : List ValueDecl}
    {state : DedupState}, DedupInvariant processed state →
    (∀ decl ∈ rest, decl.isInvalid = false → (getDynamicResultSignature decl).isSome) →
    ∃ state', rest.foldlM dedupStep state = some state' ∧
      DedupInvariant (processed ++ rest) state'
  | [], processed, state, invariant, _ => ⟨state, rfl, by simpa using invariant⟩
  | decl :: rest, processed, state, invariant, objcMembers => by
    obtain ⟨state₁, stepped, invariant₁⟩ :=
      dedupStep_spec invariant (objcMembers decl (List.mem_cons_self _ _))
    obtain ⟨state', looped, invariant'⟩ := foldlM_dedupStep rest invariant₁
      fun other member => objcMembers other (List.mem_cons_of_mem _ member)
    refine ⟨state', ?_, by simpa using invariant'⟩
    simp [List.foldlM_cons, stepped, looped]

/-- Without removals every entry is the preferred declaration of its signature. -/
theorem isPreferredEntry_of_noRemovals {decls : List ValueDecl} {state : DedupState}
    (invariant : DedupInvariant decls state) (kept : state.2 = false) :
    ∀ decl ∈ decls, isPreferredEntry decls decl = true := by
  obtain ⟨validAll, alone⟩ := invariant.noRemovals kept
  intro decl member
  obtain ⟨valid, hasSignature⟩ := validAll decl member
  obtain ⟨signature, signed⟩ := Option.isSome_iff_exists.mp hasSignature
  have candidate : decl ∈ signatureCandidates decls signature := by
    simp [signatureCandidates, member, valid, signed]
  have single : signatureCandidates decls signature = [decl] := by
    have bound := alone signature
    match others : signatureCandidates decls signature, candidate with
    | [other], candidate => rw [List.mem_singleton.mp candidate]
    | _ :: _ :: _, _ => simp [others] at bound
  simp [isPreferredEntry, valid, signed, preferredDecl_of_singleton single]

/-- **Dynamic lookup keeps the preferred entries.** On an `AnyObject` base, when every valid
declaration found is a function or a storage declaration, the lookup stops, and gives the raw
result filtered to the valid entries that are the preferred declaration of their signature. -/
theorem performMemberLookup_anyObject {env : MemberLookupEnv} {base : Ty} {name : Nat}
    (anyObject : env.isAnyObject base = true)
    (objcMembers : ∀ decl ∈ env.lookup base name, decl.isInvalid = false →
      (getDynamicResultSignature decl).isSome) :
    performMemberLookup env base name =
      some ((env.lookup base name).filter (isPreferredEntry (env.lookup base name))) := by
  simp only [performMemberLookup, anyObject, Bool.not_true, Bool.or_false]
  split
  · rename_i empty
    simp [List.isEmpty_iff.mp empty]
  · obtain ⟨⟨known, anyRemovals⟩, looped, invariant⟩ :=
      foldlM_dedupStep (env.lookup base name) dedupInvariant_initial objcMembers
    simp only [List.nil_append] at invariant
    have sameFilter : keepsDynamicResult known = isPreferredEntry (env.lookup base name) := by
      funext decl
      simp only [keepsDynamicResult, isPreferredEntry, ← invariant.known_lookup]
    simp only [looped, Option.bind_eq_bind, Option.some_bind, sameFilter]
    cases anyRemovals
    · simp [List.filter_eq_self.mpr (isPreferredEntry_of_noRemovals invariant rfl)]
    · rfl

/-! ## The cache -/

/-- Every cached lookup is what the lookup gives. -/
def CacheFaithful (env : MemberLookupEnv) (memberLookups : List (MemberLookupKey × List ValueDecl)) :
    Prop :=
  ∀ base name result, memberLookups.lookup ⟨base, name⟩ = some result →
    performMemberLookup env base name = some result

/-- **The cache step**: from a faithful cache, `lookupMember` returns the lookup, caches it, and
leaves a faithful cache. -/
theorem lookupMember_spec {env : MemberLookupEnv}
    {memberLookups : List (MemberLookupKey × List ValueDecl)} {base : Ty} {name : Nat}
    {result : List ValueDecl} (faithful : CacheFaithful env memberLookups)
    (performed : performMemberLookup env base name = some result) :
    ∃ memberLookups', lookupMember env memberLookups base name = some (result, memberLookups') ∧
      memberLookups'.lookup ⟨base, name⟩ = some result ∧ CacheFaithful env memberLookups' := by
  cases cached : memberLookups.lookup ⟨base, name⟩ with
  | some earlier =>
    have same : earlier = result := Option.some.inj ((faithful _ _ _ cached).symm.trans performed)
    subst same
    exact ⟨memberLookups, by simp [lookupMember, cached], cached, faithful⟩
  | none =>
    refine ⟨assignEntry memberLookups ⟨base, name⟩ result,
      by simp [lookupMember, cached, performed], by simp, fun base' name' result' found => ?_⟩
    by_cases same : (⟨base', name'⟩ : MemberLookupKey) = ⟨base, name⟩
    · cases same
      rw [lookup_assignEntry, if_pos rfl] at found
      exact Option.some.inj found ▸ performed
    · rw [lookup_assignEntry, if_neg same] at found
      exact faithful _ _ _ found

/-- **Dynamic member lookup deduplicates by signature, up to repeated entries.** From a faithful
cache and on an `AnyObject` base, when every valid declaration found is a function or a storage
declaration, `lookupMember` returns and caches the raw result filtered to the entries that are
the preferred declaration of their signature. That list holds no invalid declaration. Each of
its entries is the preferred declaration of its signature, and the preferred declaration of each
valid declaration's signature is in it. Two of its entries with one signature are the same
declaration, so when the raw result lists no declaration twice, no two of its entries share a
signature. -/
theorem lookupMember_dynamic_dedup {env : MemberLookupEnv}
    {memberLookups : List (MemberLookupKey × List ValueDecl)} {base : Ty} {name : Nat}
    (faithful : CacheFaithful env memberLookups) (anyObject : env.isAnyObject base = true)
    (objcMembers : ∀ decl ∈ env.lookup base name, decl.isInvalid = false →
      (getDynamicResultSignature decl).isSome) :
    ∃ result memberLookups', lookupMember env memberLookups base name = some (result, memberLookups') ∧
      result = (env.lookup base name).filter (isPreferredEntry (env.lookup base name)) ∧
      memberLookups'.lookup ⟨base, name⟩ = some result ∧ CacheFaithful env memberLookups' ∧
      (∀ decl ∈ result, decl.isInvalid = false) ∧
      (∀ decl ∈ result, ∃ signature, getDynamicResultSignature decl = some signature ∧
        preferredDecl (env.lookup base name) signature = some decl) ∧
      (∀ decl ∈ env.lookup base name, decl.isInvalid = false → ∃ signature preferred,
        getDynamicResultSignature decl = some signature ∧
        preferredDecl (env.lookup base name) signature = some preferred ∧ preferred ∈ result) ∧
      (∀ decl ∈ result, ∀ decl' ∈ result,
        getDynamicResultSignature decl = getDynamicResultSignature decl' → decl = decl') ∧
      ((env.lookup base name).Nodup →
        result.Pairwise fun decl decl' =>
          getDynamicResultSignature decl ≠ getDynamicResultSignature decl') := by
  obtain ⟨memberLookups', looked, cached, faithful'⟩ :=
    lookupMember_spec faithful (performMemberLookup_anyObject anyObject objcMembers)
  -- every entry kept is the preferred declaration of its signature
  have preferredEntries : ∀ decl ∈ (env.lookup base name).filter
      (isPreferredEntry (env.lookup base name)), decl.isInvalid = false ∧
      ∃ signature, getDynamicResultSignature decl = some signature ∧
        preferredDecl (env.lookup base name) signature = some decl := by
    intro decl member
    have kept := (List.mem_filter.mp member).2
    unfold isPreferredEntry at kept
    split at kept <;> simp_all
  have sameSignature : ∀ decl ∈ (env.lookup base name).filter
      (isPreferredEntry (env.lookup base name)), ∀ decl' ∈ (env.lookup base name).filter
      (isPreferredEntry (env.lookup base name)),
      getDynamicResultSignature decl = getDynamicResultSignature decl' → decl = decl' := by
    intro decl member decl' member' sameSig
    obtain ⟨-, signature, signed, preferred⟩ := preferredEntries decl member
    obtain ⟨-, signature', signed', preferred'⟩ := preferredEntries decl' member'
    rw [signed, signed', Option.some.injEq] at sameSig
    subst sameSig
    exact Option.some.inj (preferred.symm.trans preferred')
  refine ⟨_, memberLookups', looked, rfl, cached, faithful', fun decl member =>
    (preferredEntries decl member).1, fun decl member => (preferredEntries decl member).2,
    fun decl member valid => ?_, sameSignature, fun noRepeats => ?_⟩
  · obtain ⟨signature, signed⟩ := Option.isSome_iff_exists.mp (objcMembers decl member valid)
    have candidate : decl ∈ signatureCandidates (env.lookup base name) signature := by
      simp [signatureCandidates, member, valid, signed]
    obtain ⟨preferred, found⟩ := Option.ne_none_iff_exists'.mp
      (show preferredDecl (env.lookup base name) signature ≠ none from fun none => by
        simp [preferredDecl_eq_none.mp none] at candidate)
    have inCandidates := preferredDecl_mem found
    simp only [signatureCandidates, List.mem_filter, Bool.and_eq_true, Bool.not_eq_true',
      beq_iff_eq] at inCandidates
    refine ⟨signature, preferred, signed, found, List.mem_filter.mpr ⟨inCandidates.1, ?_⟩⟩
    simp [isPreferredEntry, inCandidates.2.1, inCandidates.2.2, found]
  · exact ((List.filter_sublist _).nodup noRepeats).imp_of_mem
      fun member member' different sameSig => different (sameSignature _ member _ member' sameSig)

/-- Two methods of one signature, the first unavailable, and an invalid declaration. -/
def overloadedMethods : List ValueDecl :=
  [⟨1, .function false 1 .unresolved, false, true⟩, ⟨2, .function false 1 .unresolved, false, false⟩,
    ⟨3, .other, true, false⟩]

/-- The first lookup of the overloaded methods on an `AnyObject` base. -/
theorem lookupMember_dynamic_dedup_overloaded :
    ∃ result memberLookups', lookupMember ⟨fun _ _ => overloadedMethods, fun _ => true⟩ []
        .unresolved 0 = some (result, memberLookups') ∧
      result = overloadedMethods.filter (isPreferredEntry overloadedMethods) ∧
      memberLookups'.lookup ⟨.unresolved, 0⟩ = some result ∧
      CacheFaithful ⟨fun _ _ => overloadedMethods, fun _ => true⟩ memberLookups' ∧
      (∀ decl ∈ result, decl.isInvalid = false) ∧
      (∀ decl ∈ result, ∃ signature, getDynamicResultSignature decl = some signature ∧
        preferredDecl overloadedMethods signature = some decl) ∧
      (∀ decl ∈ overloadedMethods, decl.isInvalid = false → ∃ signature preferred,
        getDynamicResultSignature decl = some signature ∧
        preferredDecl overloadedMethods signature = some preferred ∧ preferred ∈ result) ∧
      (∀ decl ∈ result, ∀ decl' ∈ result,
        getDynamicResultSignature decl = getDynamicResultSignature decl' → decl = decl') ∧
      (overloadedMethods.Nodup →
        result.Pairwise fun decl decl' =>
          getDynamicResultSignature decl ≠ getDynamicResultSignature decl') :=
  @lookupMember_dynamic_dedup ⟨fun _ _ => overloadedMethods, fun _ => true⟩ [] .unresolved 0
    (fun _ _ _ found => by cases found) rfl (by decide)

/-- A valid, available function declared once and found twice. -/
def repeatedMethod : ValueDecl := ⟨0, .function false 1 .unresolved, false, false⟩

/-- A declaration listed twice in the raw result of an `AnyObject` lookup is the preferred one of
its signature, and the filter keeps both copies: the cached result has two entries with one
signature. -/
theorem lookupMember_keeps_repeated_declaration :
    lookupMember ⟨fun _ _ => [repeatedMethod, repeatedMethod], fun _ => true⟩ [] .unresolved 0 =
      some ([repeatedMethod, repeatedMethod],
        [(⟨.unresolved, 0⟩, [repeatedMethod, repeatedMethod])]) ∧
      getDynamicResultSignature repeatedMethod = some ⟨false, 1, .unresolved⟩ :=
  ⟨by decide, rfl⟩

end Constraints
