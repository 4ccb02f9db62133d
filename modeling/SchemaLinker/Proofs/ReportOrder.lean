import Mathlib.Data.List.Nodup
import SchemaLinker.Proofs.Assembly
import SchemaLinker.Proofs.Review

/-!
# `SchemaLinker.Proofs.ReportOrder`: diagnostics in the order of declarations

A visit reports about its own attribute only, also where a rule concerns a
pair, and it reports three findings at most: one about a shared name, one about
the relationship, one about the foreign key. So the attributes that a review
reports about are the visited ones in order, each up to three times. This is
`Review.sublist_reported`, and the other facts are read off it.

`Review.reported` is the closed form of what a run of visits finds. It does not
mention one-sided junctions, so they play no part in the diagnostics.

`Catalog.StandsAt` gives the place of an attribute: the number of its entity in
the catalog and its own number in the entity. `inDeclarationOrder_assemble`
states the order by these places, for the catalog of a list of built entities.
-/

set_option autoImplicit false

namespace SchemaLinker

/-! ### What a run of visits reports -/

namespace Catalog

/-- A visit finds three things at most. -/
theorem length_said_le (c : Catalog) (checked : List (AttributeId × AttributeId))
    (v : Entity × Attribute) : (c.said checked v).length ≤ 3 := by
  have hone : ∀ f : Option Finding, f.toList.length ≤ 1 := fun f => by cases f <;> simp
  have hshared := hone (Finding.ofSharedName c v.2)
  have hrelationship := hone (Review.unlessHeld checked (c.pair? v) (c.relationshipFinding v))
  have hkey := hone (c.foreignKeyFinding v)
  simp only [said]
  split
  · rw [List.append_nil]
    omega
  · rw [List.length_append, List.length_append]
    omega

end Catalog

namespace Review

/-- What a run of visits reports, given the pairs that have had their
finding. -/
def reported (c : Catalog) :
    (checked : List (AttributeId × AttributeId)) → List (Entity × Attribute) →
      List (AttributeId × Finding)
  | _, [] => []
  | checked, v :: rest =>
    ((c.said checked v).map fun f => (v.1.idOf v.2, f)) ++
      reported c (remember checked (if c.undecided v.2 then none else c.pair? v)) rest

/-- The findings of a review are reported visit by visit. -/
theorem findings_foldl (c : Catalog) (oneSided : Bool) (visits : List (Entity × Attribute))
    (r : Review) :
    (visits.foldl (visit c oneSided) r).findings = r.findings ++ reported c r.checked visits := by
  induction visits generalizing r with
  | nil => exact (List.append_nil _).symm
  | cons v rest ih =>
    rw [List.foldl_cons, ih, visit_eq, reported, List.append_assoc]

/-- The reports are about the visited attributes in order, up to three about
each. -/
theorem sublist_reported (c : Catalog) (checked : List (AttributeId × AttributeId))
    (visits : List (Entity × Attribute)) :
    ((reported c checked visits).map Prod.fst).Sublist
      ((visits.map fun v => v.1.idOf v.2).flatMap (List.replicate 3)) := by
  induction visits generalizing checked with
  | nil => exact List.Sublist.refl _
  | cons v rest ih =>
    have hown : ((c.said checked v).map fun f => (v.1.idOf v.2, f)).map Prod.fst =
        List.replicate (c.said checked v).length (v.1.idOf v.2) := by
      rw [List.map_map]
      exact List.map_const' ..
    rw [reported, List.map_append, hown, List.map_cons, List.flatMap_cons]
    exact (List.replicate_sublist_replicate _ |>.2 (c.length_said_le checked v)).append (ih _)

end Review

/-! ### Places -/

/-- In a list without repetitions an earlier element has a smaller number. -/
theorem pairwise_lt_of_nodup {α : Type} {l : List α} (h : l.Nodup) :
    l.Pairwise fun a b => ∀ i j : Nat, l[i]? = some a → l[j]? = some b → i < j := by
  refine List.pairwise_iff_getElem.2 fun m n hm hn hlt i j hi hj => ?_
  obtain ⟨_, hi⟩ := List.getElem?_eq_some_iff.1 hi
  obtain ⟨_, hj⟩ := List.getElem?_eq_some_iff.1 hj
  rw [← h.getElem_inj_iff.1 hi, ← h.getElem_inj_iff.1 hj] at hlt
  exact hlt

/-- In a list without repetitions an element has one number. -/
theorem getElem?_eq_some_unique {α : Type} {l : List α} (h : l.Nodup) {a : α} {i j : Nat}
    (hi : l[i]? = some a) (hj : l[j]? = some a) : i = j := by
  obtain ⟨hlt, -⟩ := List.getElem?_eq_some_iff.1 hi
  exact (List.getElem?_inj hlt h).1 (hi.trans hj.symm)

/-- Repeating every element of a list multiplies its count. -/
theorem count_flatMap_replicate {α : Type} [DecidableEq α] (n : Nat) (l : List α) (x : α) :
    (l.flatMap (List.replicate n)).count x = n * l.count x := by
  induction l with
  | nil => rfl
  | cons y rest ih =>
    rw [List.flatMap_cons, List.count_append, ih, List.count_replicate, List.count_cons,
      Nat.mul_add, Nat.add_comm]
    split <;> simp

namespace Catalog

/-- The attribute is number `place.2` of entity number `place.1`. -/
def StandsAt (c : Catalog) (id : AttributeId) (place : Nat × Nat) : Prop :=
  ∃ e a, c.entities[place.1]? = some e ∧ e.attributes.values[place.2]? = some a ∧ e.idOf a = id

/-- The diagnostics are about attributes of the catalog, in the order of their
places, first by the entity and then by the attribute, and three at most are
about one attribute. -/
structure InDeclarationOrder (c : Catalog) (ds : Diagnostics) : Prop where
  placed : ∀ d ∈ ds, ∃! place, c.StandsAt d.subject place
  ordered : ds.Pairwise fun d d' => ∀ place place', c.StandsAt d.subject place →
    c.StandsAt d'.subject place' → Prod.Lex (· < ·) (· ≤ ·) place place'
  few : ∀ id, (ds.about id).length ≤ 3

variable {c : Catalog}

/-- No resident is there twice. -/
theorem nodup_entities (c : Catalog) : c.entities.Nodup := c.distinct.of_map _

/-- No attribute is in an entity twice. -/
theorem nodup_values (hc : c.AllKeyed) {e : Entity} (he : e ∈ c.entities) :
    e.attributes.values.Nodup :=
  (Entity.nodup_names (hc e he)).of_map _

/-- A visited attribute stands at the place of its entity and its own there. -/
theorem standsAt_iff (hc : c.AllKeyed) {v : Entity × Attribute} (hv : v ∈ c.visits)
    {place : Nat × Nat} :
    c.StandsAt (v.1.idOf v.2) place ↔
      c.entities[place.1]? = some v.1 ∧ v.1.attributes.values[place.2]? = some v.2 := by
  constructor
  · rintro ⟨e, a, he, ha, hid⟩
    have hmem : (e, a) ∈ c.visits :=
      mem_visits.2 ⟨List.mem_of_getElem? he, List.mem_of_getElem? ha⟩
    obtain rfl : (e, a) = v := eq_of_idOf_eq hc hmem hv hid
    exact ⟨he, ha⟩
  · rintro ⟨he, ha⟩
    exact ⟨v.1, v.2, he, ha, rfl⟩

/-- An attribute of the catalog has one place. -/
theorem existsUnique_standsAt (hc : c.AllKeyed) {v : Entity × Attribute} (hv : v ∈ c.visits) :
    ∃! place, c.StandsAt (v.1.idOf v.2) place := by
  obtain ⟨he, ha⟩ := mem_visits.1 hv
  obtain ⟨i, hi⟩ := List.mem_iff_getElem?.1 he
  obtain ⟨j, hj⟩ := List.mem_iff_getElem?.1 ha
  refine ⟨(i, j), (standsAt_iff hc hv).2 ⟨hi, hj⟩, fun place hplace => ?_⟩
  obtain ⟨hfst, hsnd⟩ := (standsAt_iff hc hv).1 hplace
  exact Prod.ext (getElem?_eq_some_unique c.nodup_entities hfst hi)
    (getElem?_eq_some_unique (nodup_values hc he) hsnd hj)

/-- The visits go from place to place. -/
theorem pairwise_visits (hc : c.AllKeyed) :
    c.visits.Pairwise fun u v => ∀ place place', c.StandsAt (u.1.idOf u.2) place →
      c.StandsAt (v.1.idOf v.2) place' → Prod.Lex (· < ·) (· < ·) place place' := by
  have hplaces : c.visits.Pairwise fun u v => ∀ place place' : Nat × Nat,
      c.entities[place.1]? = some u.1 → c.entities[place'.1]? = some v.1 →
      u.1.attributes.values[place.2]? = some u.2 → v.1.attributes.values[place'.2]? = some v.2 →
      Prod.Lex (· < ·) (· < ·) place place' := by
    simp only [visits]
    rw [List.pairwise_flatMap]
    constructor
    · -- Two visits of one entity differ in the number of the attribute.
      intro e he
      rw [List.pairwise_map]
      refine (pairwise_lt_of_nodup (nodup_values hc he)).imp ?_
      intro a b hlt place place' hi hi' hj hj'
      have hsame : place.1 = place'.1 := getElem?_eq_some_unique c.nodup_entities hi hi'
      exact Prod.lex_def.2 (Or.inr ⟨hsame, hlt _ _ hj hj'⟩)
    · refine (pairwise_lt_of_nodup c.nodup_entities).imp ?_
      intro e f hlt u hu v hv place place' hi hi' _ _
      obtain ⟨a, -, rfl⟩ := List.mem_map.1 hu
      obtain ⟨b, -, rfl⟩ := List.mem_map.1 hv
      exact Prod.lex_def.2 (Or.inl (hlt _ _ hi hi'))
  refine hplaces.imp_of_mem fun hu hv hlt place place' hplace hplace' => ?_
  obtain ⟨hi, hj⟩ := (standsAt_iff hc hu).1 hplace
  obtain ⟨hi', hj'⟩ := (standsAt_iff hc hv).1 hplace'
  exact hlt place place' hi hi' hj hj'

/-! ### Diagnostics -/

/-- The attributes that the diagnostics of a review are about. -/
theorem sublist_subjects_review (c : Catalog) (oneSided : Bool) :
    ((c.review oneSided).diagnostics.map Diagnostic.subject).Sublist
      ((c.visits.map fun v => v.1.idOf v.2).flatMap (List.replicate 3)) := by
  have hfindings : (c.review oneSided).findings = Review.reported c [] c.visits :=
    Review.findings_foldl c oneSided c.visits Review.start
  simp only [Review.diagnostics]
  rw [hfindings, List.map_map]
  exact Review.sublist_reported c [] c.visits

/-- One-sided junctions play no part in the diagnostics. -/
theorem diagnostics_review_eq (c : Catalog) (oneSided other : Bool) :
    (c.review oneSided).diagnostics = (c.review other).diagnostics := by
  have hfindings : (c.review oneSided).findings = (c.review other).findings :=
    (Review.findings_foldl c oneSided c.visits Review.start).trans
      (Review.findings_foldl c other c.visits Review.start).symm
  simp only [Review.diagnostics]
  rw [hfindings]

/-- If every visited attribute is repeated, the places do not go back. -/
theorem pairwise_flatMap_replicate (hc : c.AllKeyed) (n : Nat) :
    ((c.visits.map fun v => v.1.idOf v.2).flatMap (List.replicate n)).Pairwise fun x y =>
      ∀ place place', c.StandsAt x place → c.StandsAt y place' →
        Prod.Lex (· < ·) (· ≤ ·) place place' := by
  rw [List.pairwise_flatMap]
  constructor
  · -- The repetitions of one attribute are at one place.
    intro id hid
    obtain ⟨v, hv, rfl⟩ := List.mem_map.1 hid
    refine List.pairwise_replicate.2 (Or.inr fun place place' hplace hplace' => ?_)
    cases (existsUnique_standsAt hc hv).unique hplace hplace'
    exact Prod.lex_def.2 (Or.inr ⟨rfl, Nat.le_refl _⟩)
  · rw [List.pairwise_map]
    refine (pairwise_visits hc).imp fun hlt x hx y hy place place' hplace hplace' => ?_
    cases List.eq_of_mem_replicate hx
    cases List.eq_of_mem_replicate hy
    rcases Prod.lex_def.1 (hlt place place' hplace hplace') with hfst | ⟨hfst, hsnd⟩
    · exact Prod.lex_def.2 (Or.inl hfst)
    · exact Prod.lex_def.2 (Or.inr ⟨hfst, Nat.le_of_lt hsnd⟩)

/-- Three diagnostics at most are about one attribute. -/
theorem length_about_review_le (hc : c.AllKeyed) (oneSided : Bool) (id : AttributeId) :
    (Diagnostics.about (c.review oneSided).diagnostics id).length ≤ 3 := by
  have habout : (Diagnostics.about (c.review oneSided).diagnostics id).length =
      ((c.review oneSided).diagnostics.map Diagnostic.subject).count id := by
    rw [List.count_eq_countP, List.countP_map, List.countP_eq_length_filter]
    rfl
  have hone : (c.visits.map fun v => v.1.idOf v.2).count id ≤ 1 :=
    List.nodup_iff_count_le_one.1 (nodup_ids hc) id
  have hthree := (sublist_subjects_review c oneSided).count_le id
  rw [count_flatMap_replicate] at hthree
  omega

/-- A review of keyed entities reports in the order of their declarations. -/
theorem inDeclarationOrder_review (hc : c.AllKeyed) (oneSided : Bool) :
    c.InDeclarationOrder (c.review oneSided).diagnostics := by
  refine ⟨fun d hd => ?_, ?_, fun id => length_about_review_le hc oneSided id⟩
  · obtain ⟨v, hv, f, -, rfl⟩ := mem_diagnostics_review hd
    exact existsUnique_standsAt hc hv
  · exact List.pairwise_map.1
      ((pairwise_flatMap_replicate hc 3).sublist (sublist_subjects_review c oneSided))

/-- Built entities are added to a catalog. The diagnostics of a review are about
attributes of the catalog, in the order of their declarations and three at most
about each, and they do not depend on whether one-sided associations get
junctions. -/
theorem inDeclarationOrder_assemble {entities : List Entity} (hbuilt : ∀ e ∈ entities, e.IsBuilt)
    (model : String) (policy : NamePolicy) (embeddables : Embeddables) :
    let c := assemble model policy embeddables entities
    (∀ oneSided, c.InDeclarationOrder (c.review oneSided).diagnostics) ∧
    ∀ oneSided other, (c.review oneSided).diagnostics = (c.review other).diagnostics := by
  intro c
  have hkeyed : c.AllKeyed := allKeyed_assemble hbuilt model policy embeddables
  exact ⟨inDeclarationOrder_review hkeyed, diagnostics_review_eq c⟩

/-- Two types of one simple name, and phones whose owner is meant to be one of
them: an association to many that nothing maps back to, and a foreign key
although the owner has no primary key. A phone also says whom it calls, without
an annotation. -/
def sharedPhones : List EntityDraft :=
  let owner : Attribute :=
    { Attribute.column "owner" (.named ⟨["Person"]⟩) with
      cardinality := some .oneToMany
      foreignKey := true }
  [EntityDraft.ofType ⟨["a", "Person"]⟩, EntityDraft.ofType ⟨["b", "Person"]⟩,
    { EntityDraft.ofType ⟨["Phone"]⟩ with
      attributes := [owner, Attribute.column "calls" (.named ⟨["a", "Person"]⟩)] }]

/-- Three diagnostics are about the owner, and the one about the call comes
last. -/
theorem inDeclarationOrder_sharedPhones :
    let c := assemble "default" .firstMatch .empty (EntityDraft.buildAll sharedPhones)
    (c.review true).diagnostics.map toString =
      ["warning: Phone::owner: type name `Person` is ambiguous; matches `a::Person`, " ++
          "`b::Person`; using `a::Person`",
        "error: Phone::owner: no matching ManyToOne found on `a::Person`",
        "warning: Phone::owner: couldn't find referenced key attribute on `a::Person`",
        "error: Phone::calls: entity reference `a::Person` is missing a relationship annotation"] ∧
    (∀ oneSided, c.InDeclarationOrder (c.review oneSided).diagnostics) ∧
    ∀ oneSided other, (c.review oneSided).diagnostics = (c.review other).diagnostics :=
  ⟨by decide +kernel, inDeclarationOrder_assemble (fun _ => EntityDraft.isBuilt_of_mem_buildAll)
    "default" .firstMatch .empty⟩

end Catalog

end SchemaLinker
