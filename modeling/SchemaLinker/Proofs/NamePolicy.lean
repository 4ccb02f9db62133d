import SchemaLinker.Proofs.Assembly
import SchemaLinker.Proofs.Verdict

/-!
# `SchemaLinker.Proofs.NamePolicy`: what the strict policy accepts

Under the strict policy a name that several types share is an error, and
under the other policy it leads to the first of them. A review looks at the
name by which an attribute refers to an entity, which is that of a
reference type if the attribute has one (`Catalog.ambiguousTargets`). Where
no such name is shared, both policies give every attribute the same target
and the same other sides (`target?_withPolicy`, `inverses_withPolicy`).
Where one is shared, the target is the first candidate or nothing
(`target?_of_ambiguousTargets_ne_nil`). `agreeUnlessShared_assemble` says
both of one list of entities under the two policies.

The rule for plain columns looks up the type of the column, also where an
explicit reference takes its place. So there is one thing that only the
other policy finds: a plain column whose own type is a shared name.
`hasErrors_withPolicy_iff` says that a catalog without strict errors has no
other errors than these, and `hasErrors_firstMatch_iff` says so of a list of
built entities.

`hasErrors_withPolicy_of_plain` is a result in its own right, for schemas whose
plain columns make no explicit references: there the policy may be relaxed,
and what was accepted stays accepted.
-/

set_option autoImplicit false

namespace SchemaLinker

/-- The attribute without an explicit reference, so that its own type says
what it refers to. -/
def Attribute.byOwnType (a : Attribute) : Attribute :=
  { a with referencedTable := none, referencedType := none }

/-- There are no errors when no diagnostic is one. -/
theorem Diagnostics.hasErrors_eq_false_iff {ds : Diagnostics} :
    ds.hasErrors = false ↔ ∀ d ∈ ds, d.isError = false := by
  simp only [hasErrors, List.any_eq_false, Bool.not_eq_true]

namespace Catalog

/-- A name that no two entities share finds the same entity under every
policy. -/
theorem entityOfName?_of_length_le {c : Catalog} {name : String}
    (h : (c.entitiesNamed name).length ≤ 1) :
    c.entityOfName? name = (c.entitiesNamed name).head? := by
  simp only [entityOfName?]
  cases c.policy with
  | firstMatch => rfl
  | strict =>
    rcases hl : c.entitiesNamed name with _ | ⟨e, _ | ⟨f, rest⟩⟩
    · rfl
    · rfl
    · rw [hl] at h
      exact absurd h (by simp)

/-- Where there is nothing to decide about a path, it is a type or its
simple name is not shared. -/
theorem ambiguousTargets_eq_nil_iff {c : Catalog} {a : Attribute} :
    c.ambiguousTargets a = [] ↔
      ∀ p, loosePath? a = some p → c.entity? p = none →
        (c.entitiesNamed p.simpleName).length ≤ 1 := by
  simp only [ambiguousTargets]
  cases loosePath? a with
  | none => simp
  | some p =>
    simp only [Option.some.injEq, forall_eq']
    cases c.entity? p with
    | some e => simp
    | none =>
      simp only [Option.isSome_none, Bool.false_eq_true, if_false, forall_const]
      split
      · rename_i hshared
        have hne : c.entitiesNamed p.simpleName ≠ [] := List.ne_nil_of_length_pos (by omega)
        exact iff_of_false hne (by omega)
      · rename_i hsingle
        exact iff_of_true rfl (by omega)

/-- A shared name is a path that is no type, and several entities have its
simple name. -/
theorem exists_path_of_ambiguousTargets_ne_nil {c : Catalog} {a : Attribute}
    (h : c.ambiguousTargets a ≠ []) :
    ∃ p, loosePath? a = some p ∧ c.entity? p = none ∧
      c.ambiguousTargets a = c.entitiesNamed p.simpleName ∧ 2 ≤ (c.ambiguousTargets a).length := by
  simp only [ambiguousTargets] at h ⊢
  cases hloose : loosePath? a with
  | none => simp [hloose] at h
  | some p =>
    cases hty : c.entity? p with
    | some e => simp [hloose, hty] at h
    | none =>
      simp only [hloose, hty, Option.isSome_none, Bool.false_eq_true, if_false] at h ⊢
      split at h
      · rename_i hshared
        refine ⟨p, rfl, hty, ?_⟩
        rw [if_pos hshared]
        exact ⟨rfl, hshared⟩
      · exact absurd rfl h

/-- A path by which an attribute refers loosely is looked up as a type and
then as a simple name. -/
theorem target?_of_loosePath? {c : Catalog} {a : Attribute} {p : Path}
    (h : loosePath? a = some p) :
    c.target? a = (c.entity? p).or (c.entityOfName? p.simpleName) := by
  simp only [loosePath?] at h
  simp only [target?]
  split at h
  · cases h
  · rename_i ty htable hty
    obtain ⟨hpath, hplain⟩ := Option.filter_eq_some_iff.1 h
    simp only [hpath, Option.bind_some, entityOfPath?]
    rw [if_neg (by simpa using hplain)]
  · simp only [entityOfType?, h, Option.bind_some]

/-- Where a name is shared, the first of its entities is taken, or
nothing. -/
theorem target?_of_ambiguousTargets_ne_nil {c : Catalog} {a : Attribute}
    (h : c.ambiguousTargets a ≠ []) :
    c.target? a =
      match c.policy with
      | .firstMatch => (c.ambiguousTargets a).head?
      | .strict => none := by
  obtain ⟨p, hloose, hty, hnamed, hlength⟩ := exists_path_of_ambiguousTargets_ne_nil h
  rw [target?_of_loosePath? hloose, hty, Option.none_or, hnamed]
  rw [hnamed] at hlength
  simp only [entityOfName?]
  cases c.policy with
  | firstMatch => rfl
  | strict =>
    -- Of several entities none is the only one.
    cases honly : only? (c.entitiesNamed p.simpleName) with
    | none => rfl
    | some e =>
      rw [only?_eq_some_iff.1 honly] at hlength
      exact absurd hlength (by simp)

variable {c : Catalog} (policy : NamePolicy)

/-- An attribute that does not refer loosely does not depend on the
policy. -/
theorem target?_withPolicy_of_loosePath?_eq_none {a : Attribute} (h : loosePath? a = none) :
    (c.withPolicy policy).target? a = c.target? a := by
  simp only [loosePath?] at h
  simp only [target?]
  split
  · rfl
  · rename_i ty htable hty
    rw [htable, hty] at h
    refine Option.bind_congr fun p hp => ?_
    have hpackage : p.hasPackage = true := by simpa [hp] using h
    simp only [entityOfPath?]
    rw [if_pos hpackage, if_pos hpackage]
    rfl
  · rename_i htable hty
    rw [htable, hty] at h
    have hpath : a.ty.element.path? = none := h
    simp only [entityOfType?]
    rw [hpath]
    rfl

/-- Where there is nothing to decide, the policy does not matter. -/
theorem target?_withPolicy {a : Attribute} (h : c.ambiguousTargets a = []) :
    (c.withPolicy policy).target? a = c.target? a := by
  cases hloose : loosePath? a with
  | none => exact target?_withPolicy_of_loosePath?_eq_none policy hloose
  | some p =>
    rw [target?_of_loosePath? hloose, target?_of_loosePath? hloose]
    show (c.entity? p).or ((c.withPolicy policy).entityOfName? p.simpleName) = _
    cases hty : c.entity? p with
    | some e => rfl
    | none =>
      have hlength := ambiguousTargets_eq_nil_iff.1 h p hloose hty
      rw [entityOfName?_of_length_le hlength,
        entityOfName?_of_length_le (c := c.withPolicy policy) hlength]
      rfl

/-- The other sides are the same when nothing has to be decided about any
attribute. -/
theorem inverses_withPolicy (hopen : ∀ v ∈ c.visits, c.ambiguousTargets v.2 = []) (e : Entity)
    (a : Attribute) {t : Entity} (ht : t ∈ c.entities) :
    (c.withPolicy policy).inverses e a t = c.inverses e a t := by
  have hback : (c.withPolicy policy).backReferences e a t = c.backReferences e a t := by
    simp only [backReferences]
    refine List.filter_congr fun b hb => ?_
    have hvisited : (t, b) ∈ c.visits := mem_visits.2 ⟨ht, (List.mem_filter.1 hb).1⟩
    rw [target?_withPolicy policy (hopen _ hvisited)]
  simp only [inverses, mappedAttributes]
  rw [hback]

/-- Then an attribute upholds what it owes under the other policy if, as a
plain column, its type finds nothing there. -/
theorem Upholds.withPolicy_iff (hopen : ∀ v ∈ c.visits, c.ambiguousTargets v.2 = [])
    {v : Entity × Attribute} (hv : v ∈ c.visits) (h : c.Upholds v) :
    (c.withPolicy policy).Upholds v ↔
      (v.2.cardinality = none → (c.withPolicy policy).entityOfType? v.2.ty = none) := by
  have htarget := target?_withPolicy policy (hopen v hv)
  refine ⟨fun hother => hother.plain, fun hplain => ⟨hplain, ?_, ?_, ?_⟩⟩
  · rw [htarget]
    exact h.dangling
  · intro k t hk ht hi
    rw [htarget] at ht
    rw [inverses_withPolicy policy hopen v.1 v.2 (mem_of_target? ht)] at hi
    exact h.alone k t hk ht hi
  · intro k t b hk ht hi
    rw [htarget] at ht
    rw [inverses_withPolicy policy hopen v.1 v.2 (mem_of_target? ht)] at hi
    exact h.paired k t b hk ht hi

/-- A type that finds nothing under the strict policy finds nothing under
the other, unless its name is shared. -/
theorem entityOfType?_firstMatch_iff {a : Attribute} (h : c.entityOfType? a.ty = none) :
    (c.withPolicy .firstMatch).entityOfType? a.ty = none ↔
      c.ambiguousTargets a.byOwnType = [] := by
  -- Without its references an attribute refers to its own type.
  have hown : c.target? a.byOwnType = none := h
  show (c.withPolicy .firstMatch).target? a.byOwnType = none ↔ _
  constructor
  · refine fun hnone => Classical.byContradiction fun hshared => ?_
    rw [target?_of_ambiguousTargets_ne_nil (c := c.withPolicy .firstMatch) hshared] at hnone
    exact hshared (List.head?_eq_none_iff.1 hnone)
  · intro hopen
    rw [target?_withPolicy .firstMatch hopen, hown]

/-- A strict catalog is reviewed without errors. Then it is so under the
other policy exactly when no plain column has a shared name for its
type. -/
theorem hasErrors_withPolicy_iff (hc : c.AllKeyed) (hstrict : c.policy = .strict)
    {oneSided other : Bool} (hquiet : (c.review oneSided).diagnostics.hasErrors = false) :
    ((c.withPolicy .firstMatch).review other).diagnostics.hasErrors = false ↔
      ∀ v ∈ c.visits, v.2.cardinality = none → c.ambiguousTargets v.2.byOwnType = [] := by
  obtain ⟨hopen, hupheld⟩ :=
    (isError_review_iff hc oneSided).1 (Diagnostics.hasErrors_eq_false_iff.1 hquiet)
  have hopen := hopen hstrict
  rw [Diagnostics.hasErrors_eq_false_iff,
    isError_review_iff (c := c.withPolicy .firstMatch) hc other]
  have hplain : ∀ v ∈ c.visits, ((c.withPolicy .firstMatch).Upholds v ↔
      (v.2.cardinality = none → c.ambiguousTargets v.2.byOwnType = [])) := by
    intro v hv
    rw [(hupheld v hv).withPolicy_iff .firstMatch hopen hv]
    exact forall_congr' fun hk => entityOfType?_firstMatch_iff ((hupheld v hv).plain hk)
  constructor
  · rintro ⟨-, hall⟩ v hv
    exact (hplain v hv).1 (hall v hv)
  · intro hall
    refine ⟨fun hpolicy => ?_, fun v hv => (hplain v hv).2 (hall v hv)⟩
    cases hpolicy

/-- Where plain columns make no explicit references, what the strict policy
accepts the other accepts, too. -/
theorem hasErrors_withPolicy_of_plain (hc : c.AllKeyed) (hstrict : c.policy = .strict)
    {oneSided other : Bool} (hquiet : (c.review oneSided).diagnostics.hasErrors = false)
    (hplain : ∀ v ∈ c.visits, v.2.cardinality = none →
      v.2.referencedTable = none ∧ v.2.referencedType = none) :
    ((c.withPolicy .firstMatch).review other).diagnostics.hasErrors = false := by
  refine (hasErrors_withPolicy_iff hc hstrict hquiet).2 fun v hv hk => ?_
  obtain ⟨htable, hty⟩ := hplain v hv hk
  have hsame : v.2.byOwnType = v.2 := by
    simp only [Attribute.byOwnType]
    rw [← htable, ← hty]
  rw [hsame]
  exact ((isError_review_iff hc oneSided).1 (Diagnostics.hasErrors_eq_false_iff.1 hquiet)).1
    hstrict v hv

/-- Built entities are put into a strict catalog, and its review has no
error. Put into a catalog that takes the first match, they are reviewed
without an error exactly when no plain column has for its own type a name
that several entities share. -/
theorem hasErrors_firstMatch_iff {entities : List Entity} (hbuilt : ∀ e ∈ entities, e.IsBuilt)
    (model : String) (t : Embeddables) (oneSided other : Bool)
    (hquiet : ((assemble model .strict t entities).review oneSided).diagnostics.hasErrors =
      false) :
    ((assemble model .firstMatch t entities).review other).diagnostics.hasErrors = false ↔
      ∀ v ∈ (assemble model .firstMatch t entities).visits, v.2.cardinality = none →
        (assemble model .firstMatch t entities).ambiguousTargets v.2.byOwnType = [] := by
  rw [← assemble_withPolicy model .strict .firstMatch t entities]
  exact hasErrors_withPolicy_iff (allKeyed_assemble hbuilt model .strict t)
    (receiveAll_policy _ entities) hquiet

/-- Two catalogs agree on what an attribute refers to, except where a name is
shared. -/
structure AgreeUnlessShared (first strict : Catalog) (a : Attribute) : Prop where
  /-- Both name the same candidates, in the same order. -/
  candidates : first.ambiguousTargets a = strict.ambiguousTargets a
  /-- If there are candidates, there are several, of which one catalog takes
  the first and the other none. -/
  shared : first.ambiguousTargets a ≠ [] →
    2 ≤ (first.ambiguousTargets a).length ∧
      first.target? a = (first.ambiguousTargets a).head? ∧ strict.target? a = none
  unshared : first.ambiguousTargets a = [] → first.target? a = strict.target? a

/-- Any entities are put into a catalog that takes the first match and into a
strict one. Then both agree on every attribute, except where they report that
its name is shared. -/
theorem agreeUnlessShared_assemble (model : String) (t : Embeddables) (entities : List Entity)
    (a : Attribute) :
    (assemble model .firstMatch t entities).AgreeUnlessShared
      (assemble model .strict t entities) a := by
  have hfirst : (assemble model .firstMatch t entities).policy = .firstMatch :=
    receiveAll_policy _ entities
  rw [← assemble_withPolicy model .firstMatch .strict t entities]
  generalize assemble model .firstMatch t entities = c at hfirst
  refine ⟨rfl, fun hshared => ?_, fun hnone => (target?_withPolicy .strict hnone).symm⟩
  obtain ⟨-, -, -, -, hlength⟩ := exists_path_of_ambiguousTargets_ne_nil hshared
  refine ⟨hlength, ?_, target?_of_ambiguousTargets_ne_nil (c := c.withPolicy .strict) hshared⟩
  rw [target?_of_ambiguousTargets_ne_nil hshared, hfirst]

/-- People of two packages, and what refers to them by their simple name. -/
def twoPeople (policy : NamePolicy) : Catalog :=
  assemble defaultModel policy .empty
    (EntityDraft.buildAll
      [EntityDraft.ofType ⟨["a", "Person"]⟩, EntityDraft.ofType ⟨["b", "Person"]⟩])

/-- A list of people may be of either package: the first match takes the first,
and the strict policy none. -/
theorem target?_twoPeople :
    let people := Attribute.column "people" (.list (.named ⟨["Person"]⟩))
    ((twoPeople .firstMatch).ambiguousTargets people).map Entity.ty =
        [⟨["a", "Person"]⟩, ⟨["b", "Person"]⟩] ∧
      ((twoPeople .firstMatch).target? people).map Entity.ty = some ⟨["a", "Person"]⟩ ∧
      (twoPeople .strict).target? people = none := by
  intro people
  have hnames : ((twoPeople .firstMatch).ambiguousTargets people).map Entity.ty =
      [⟨["a", "Person"]⟩, ⟨["b", "Person"]⟩] := by decide +kernel
  have hshared : (twoPeople .firstMatch).ambiguousTargets people ≠ [] := by
    intro h
    rw [h] at hnames
    cases hnames
  obtain ⟨-, htarget, hstrict⟩ :=
    (agreeUnlessShared_assemble defaultModel .empty _ people).shared hshared
  refine ⟨hnames, ?_, hstrict⟩
  calc ((twoPeople .firstMatch).target? people).map Entity.ty
      = (((twoPeople .firstMatch).ambiguousTargets people).map Entity.ty).head? := by
        rw [List.head?_map]
        exact congrArg (Option.map Entity.ty) htarget
    _ = some ⟨["a", "Person"]⟩ := by rw [hnames, List.head?_cons]

/-- People of two packages and a phone whose owner refers to those of the
first by an explicit reference. -/
def phoneOfSharedName (cardinality : Option Cardinality) : List EntityDraft :=
  [EntityDraft.ofType ⟨["a", "Person"]⟩, EntityDraft.ofType ⟨["b", "Person"]⟩,
    { EntityDraft.ofType ⟨["Phone"]⟩ with
      attributes := [{ Attribute.column "owner" (.named ⟨["Person"]⟩) with
        cardinality := cardinality
        referencedType := some (.named ⟨["a", "Person"]⟩) }] }]

/-- The review of these entities under a policy. -/
def reviewPhone (policy : NamePolicy) (cardinality : Option Cardinality) : Review :=
  (assemble defaultModel policy .empty
    (EntityDraft.buildAll (phoneOfSharedName cardinality))).review true

/-- An owner that is an association is accepted under both policies. -/
theorem hasErrors_reviewPhone :
    (reviewPhone .strict (some .manyToOne)).diagnostics.hasErrors = false ∧
      (reviewPhone .firstMatch (some .manyToOne)).diagnostics.hasErrors = false :=
  ⟨by decide +kernel, (hasErrors_firstMatch_iff (fun _ => EntityDraft.isBuilt_of_mem_buildAll)
    defaultModel .empty true true (by decide +kernel)).2 (by decide +kernel)⟩

/-- An owner that is a plain column is accepted under the strict policy, and
is an error where the first match is taken. -/
theorem plainReference_reviewPhone :
    (∀ e ∈ EntityDraft.buildAll (phoneOfSharedName none), e.IsBuilt) ∧
      (reviewPhone .strict none).findings = [] ∧
      (reviewPhone .firstMatch none).findings =
        [(⟨⟨["Phone"]⟩, "owner"⟩, .plainReference ⟨["a", "Person"]⟩)] ∧
      (reviewPhone .firstMatch none).diagnostics.hasErrors = true :=
  ⟨fun _ => EntityDraft.isBuilt_of_mem_buildAll, by decide +kernel, by decide +kernel,
    by decide +kernel⟩

end Catalog

end SchemaLinker
