import SchemaLinker.Proofs.Assembly
import SchemaLinker.Proofs.History
import SchemaLinker.Proofs.PairTally

/-!
# `SchemaLinker.Proofs.DeclarationOrder`: the order of entities under the strict policy

Where a simple name finds the first of several entities, their order
matters. Under the strict policy a look-up answers what is the only one of
its kind. So catalogs that hold the same entities in two orders
(`Catalog.Rearranged`) answer every look-up alike, and their attributes
have the same targets, other sides and pairs.

What a review reports may still differ. The error of a pair is charged to
the side that is visited first, and so is the request for a junction that
neither side declares. But there are as many errors and as many requests
in both orders (`Rearranged.length_errors`, `Rearranged.length_requests`),
and the warnings are the same but for their order (`Rearranged.warnings`).

`sameVerdict_of_perm` says so of catalogs that are put together from a
list of built entities, and from the list rearranged.
-/

set_option autoImplicit false

namespace SchemaLinker.Catalog

/-- Two strict catalogs with the same entities in two orders. -/
structure Rearranged (c d : Catalog) : Prop where
  entities : c.entities.Perm d.entities
  policyLeft : c.policy = .strict
  policyRight : d.policy = .strict

/-- Two catalogs whose attributes lead to the same entities and whose
reviews say as much. -/
structure SameVerdict (oneSided : Bool) (c d : Catalog) : Prop where
  target : ∀ a, c.target? a = d.target? a
  hasErrors :
    (c.review oneSided).diagnostics.hasErrors = (d.review oneSided).diagnostics.hasErrors
  errors :
    (c.review oneSided).diagnostics.errors.length = (d.review oneSided).diagnostics.errors.length
  /-- The warnings are the same, in another order. -/
  warnings :
    (c.review oneSided).diagnostics.warnings.Perm (d.review oneSided).diagnostics.warnings
  requests : (c.review oneSided).requests.length = (d.review oneSided).requests.length

/-- The only element of a list is so in any order. -/
theorem only?_of_perm {α : Type} {l m : List α} (h : l.Perm m) : only? l = only? m := by
  refine Option.ext fun a => ?_
  rw [only?_eq_some_iff, only?_eq_some_iff]
  constructor
  · rintro rfl
    exact (List.singleton_perm.1 h).symm
  · rintro rfl
    exact List.perm_singleton.1 h

/-- A name that the strict policy leaves open is an error. -/
theorem filter_warning_ofSharedName {c : Catalog} (h : c.policy = .strict) (a : Attribute) :
    ((Finding.ofSharedName c a).toList.filter fun f => f.severity == .warning) = [] := by
  simp only [Finding.ofSharedName]
  cases c.ambiguousTargets a with
  | nil => rfl
  | cons first others =>
    rw [h]
    rfl

namespace Rearranged

variable {c d : Catalog} (h : c.Rearranged d)

include h

/-! ### Look-ups -/

/-- Types are distinct, so a look-up by type does not depend on the order. -/
theorem entity?_eq : c.entity? = d.entity? := by
  funext ty
  refine Option.ext fun e => ?_
  rw [entity?_eq_some_iff, entity?_eq_some_iff, h.entities.mem_iff]

/-- Neither does one by table, which answers only where a single entity has it. -/
theorem entityOfTable?_eq : c.entityOfTable? = d.entityOfTable? := by
  funext table
  exact only?_of_perm (h.entities.filter _)

/-- The entities of a name are the same, in another order. -/
theorem perm_entitiesNamed (name : String) : (c.entitiesNamed name).Perm (d.entitiesNamed name) :=
  h.entities.filter _

/-- The policy is needed here: a first entity would depend on the order. -/
theorem entityOfName?_eq : c.entityOfName? = d.entityOfName? := by
  funext name
  simp only [entityOfName?]
  rw [h.policyLeft, h.policyRight]
  exact only?_of_perm (h.perm_entitiesNamed name)

/-- A path is looked up as a type first, and by its name then. -/
theorem entityOfPath?_eq : c.entityOfPath? = d.entityOfPath? := by
  funext p
  simp only [entityOfPath?]
  rw [h.entity?_eq, h.entityOfName?_eq]

/-- A type is looked up by the path inside. -/
theorem entityOfType?_eq : c.entityOfType? = d.entityOfType? := by
  funext t
  simp only [entityOfType?]
  rw [h.entity?_eq, h.entityOfName?_eq]

/-- Every attribute refers to the same entity. -/
theorem target?_eq : c.target? = d.target? := by
  funext a
  simp only [target?]
  rw [h.entityOfTable?_eq, h.entityOfPath?_eq, h.entityOfType?_eq]

/-- The entities of an open name may come in another order. -/
theorem perm_ambiguousTargets (a : Attribute) :
    (c.ambiguousTargets a).Perm (d.ambiguousTargets a) := by
  simp only [ambiguousTargets]
  rw [h.entity?_eq]
  cases loosePath? a with
  | none => exact .refl _
  | some p =>
    have hnamed := h.perm_entitiesNamed p.simpleName
    dsimp only
    rw [hnamed.length_eq]
    split
    · exact .refl _
    · split
      · exact hnamed
      · exact .refl _

/-- The policy leaves the same names open. -/
theorem undecided_eq : c.undecided = d.undecided := by
  funext a
  rw [Bool.eq_iff_iff, undecided_iff, undecided_iff, h.policyLeft, h.policyRight, Ne, Ne]
  rw [← List.isEmpty_iff, ← List.isEmpty_iff, (h.perm_ambiguousTargets a).isEmpty_eq]

/-- The same attributes map back, in the same order: all are of one entity. -/
theorem inverses_eq : c.inverses = d.inverses := by
  funext e a t
  simp only [inverses, mappedAttributes, backReferences]
  rw [h.target?_eq]

/-! ### What a visit looks at and finds -/

/-- The visits are the same, in another order. -/
theorem perm_visits : c.visits.Perm d.visits := h.entities.flatMap_right _

/-- A visit looks at the same pair. -/
theorem pair?_eq : c.pair? = d.pair? := by
  funext v
  simp only [pair?]
  rw [h.target?_eq, h.inverses_eq]

/-- A many-to-many association shares its junction with the same other side. -/
theorem sharedPair?_eq : c.sharedPair? = d.sharedPair? := by
  funext v
  simp only [sharedPair?]
  rw [h.target?_eq, h.inverses_eq]

/-- A visit wants the same junction. -/
theorem wish?_eq (oneSided : Bool) : c.wish? oneSided = d.wish? oneSided := by
  funext v
  simp only [wish?]
  rw [h.target?_eq, h.inverses_eq]

/-- The rules for columns and associations find the same. -/
theorem relationshipFinding_eq : c.relationshipFinding = d.relationshipFinding := by
  funext v
  simp only [relationshipFinding, Finding.ofPlainColumn]
  rw [h.target?_eq, h.inverses_eq, h.entityOfType?_eq]

/-- So does the rule for foreign keys. -/
theorem foreignKeyFinding_eq : c.foreignKeyFinding = d.foreignKeyFinding := by
  funext v
  simp only [foreignKeyFinding, Finding.ofForeignKey]
  rw [h.target?_eq]

/-- A visit stops at the same open names. -/
theorem whenDecided_eq {α : Type} (x : Entity × Attribute → Option α) :
    c.whenDecided x = d.whenDecided x := by
  funext v
  simp only [whenDecided]
  rw [h.undecided_eq]

/-- The same associations are in error. -/
theorem relationshipError_eq : c.relationshipError = d.relationshipError := by
  funext v
  simp only [relationshipError]
  rw [h.relationshipFinding_eq]

/-- The same foreign keys are. -/
theorem breaksForeignKey_eq : c.breaksForeignKey = d.breaksForeignKey := by
  funext v
  simp only [breaksForeignKey]
  rw [h.undecided_eq, h.foreignKeyFinding_eq]

/-- A visit gives the same warnings: what may differ is the order of the
types in the report about an open name, and that is an error. -/
theorem warnings_said (v : Entity × Attribute) :
    ((c.said [] v).filter fun f => f.severity == .warning) =
      (d.said [] v).filter fun f => f.severity == .warning := by
  simp only [said, List.filter_append]
  rw [filter_warning_ofSharedName h.policyLeft, filter_warning_ofSharedName h.policyRight,
    h.undecided_eq, h.pair?_eq, h.relationshipFinding_eq, h.foreignKeyFinding_eq]

/-! ### What a review says -/

variable (oneSided : Bool)

/-- As many errors are reported, though a pair may report at its other side. -/
theorem length_errors (hc : c.AllKeyed) :
    (c.review oneSided).diagnostics.errors.length =
      (d.review oneSided).diagnostics.errors.length := by
  -- Errors are counted as open names, broken keys and fruitful pairs, each in any order.
  rw [length_errors_review, length_errors_review, ← h.undecided_eq, ← h.breaksForeignKey_eq,
    ← h.pair?_eq, ← h.relationshipError_eq, ← h.whenDecided_eq, ← h.whenDecided_eq,
    h.perm_visits.countP_eq, h.perm_visits.countP_eq,
    Review.length_oncePerPair_of_perm h.perm_visits (pairsAgree_relationshipError hc)]

/-- There is an error in one order if there is one in the other. -/
theorem hasErrors_eq (hc : c.AllKeyed) :
    (c.review oneSided).diagnostics.hasErrors = (d.review oneSided).diagnostics.hasErrors := by
  have hcount : ∀ ds : Diagnostics, ds.hasErrors = true ↔ 0 < ds.errors.length := by
    intro ds
    simp only [Diagnostics.hasErrors, Diagnostics.errors]
    rw [← List.countP_eq_length_filter, List.countP_pos_iff, List.any_eq_true]
  rw [Bool.eq_iff_iff, hcount, hcount, h.length_errors oneSided hc]

/-- The warnings are the same, in another order. -/
theorem warnings :
    (c.review oneSided).diagnostics.warnings.Perm (d.review oneSided).diagnostics.warnings := by
  rw [warnings_review, warnings_review]
  simp only [h.warnings_said]
  exact h.perm_visits.flatMap_right _

/-- As many junctions are requested. -/
theorem length_requests :
    (c.review oneSided).requests.length = (d.review oneSided).requests.length := by
  rw [requests_review, requests_review, ← h.sharedPair?_eq, ← h.wish?_eq, ← h.whenDecided_eq,
    ← h.whenDecided_eq]
  exact Review.length_oncePerPair_of_perm h.perm_visits (pairsAgree_wish c oneSided c.visits)

/-- Catalogs of the same entities come to one verdict. -/
theorem sameVerdict (hc : c.AllKeyed) : c.SameVerdict oneSided d where
  target a := by rw [h.target?_eq]
  hasErrors := h.hasErrors_eq oneSided hc
  errors := h.length_errors oneSided hc
  warnings := h.warnings oneSided
  requests := h.length_requests oneSided

end Rearranged

/-- Built entities with distinct types come into a strict catalog, in two
orders. Then every attribute refers to the same entity, and the reviews
agree on whether there is an error, on the number of errors, on the
warnings and on the number of requests. -/
theorem sameVerdict_of_perm {l m : List Entity} (hperm : l.Perm m)
    (hbuilt : ∀ e ∈ l, e.IsBuilt) (hdistinct : (l.map Entity.ty).Nodup) (model : String)
    (t : Embeddables) (oneSided : Bool) :
    (assemble model .strict t l).SameVerdict oneSided (assemble model .strict t m) := by
  have hrearranged : (assemble model .strict t l).Rearranged (assemble model .strict t m) :=
    { entities := perm_entities_assemble hperm hdistinct model .strict t
      policyLeft := receiveAll_policy _ l
      policyRight := receiveAll_policy _ m }
  exact hrearranged.sameVerdict oneSided (allKeyed_assemble hbuilt model .strict t)

/-- People and groups, each with the other, where neither side declares the
junction. The people also have a town that is not there. -/
def undeclaredMembership : List EntityDraft :=
  [{ EntityDraft.ofType ⟨["Person"]⟩ with
      attributes := [.manyToMany "groups" "Group" none,
        { Attribute.column "town" (.named ⟨["Town"]⟩) with cardinality := some .manyToOne }] },
    { EntityDraft.ofType ⟨["Group"]⟩ with
      attributes := [.manyToMany "members" "Person" none] }]

/-- People and groups as they were declared, or the other way round. -/
def membershipCatalog (reversed : Bool) : Catalog :=
  assemble defaultModel .strict .empty
    (if reversed then (EntityDraft.buildAll undeclaredMembership).reverse
      else EntityDraft.buildAll undeclaredMembership)

/-- Either way there is one error, one warning and one request. The request
names the side that came first. -/
theorem sameVerdict_membershipCatalog :
    (membershipCatalog false).SameVerdict true (membershipCatalog true) ∧
      ((membershipCatalog false).review true).diagnostics.errors.length = 1 ∧
      ((membershipCatalog false).review true).diagnostics.warnings.length = 1 ∧
      ((membershipCatalog false).review true).requests =
        [⟨⟨["Person"]⟩, ⟨["Group"]⟩, "groups"⟩] ∧
      ((membershipCatalog true).review true).requests =
        [⟨⟨["Group"]⟩, ⟨["Person"]⟩, "members"⟩] :=
  ⟨sameVerdict_of_perm (List.reverse_perm _).symm
      (fun _ => EntityDraft.isBuilt_of_mem_buildAll) (by decide +kernel) defaultModel .empty true,
    by decide +kernel, by decide +kernel, by decide +kernel, by decide +kernel⟩

end SchemaLinker.Catalog
