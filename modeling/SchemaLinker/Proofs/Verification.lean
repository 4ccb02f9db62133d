import SchemaLinker.Proofs.Assembly

/-!
# `SchemaLinker.Proofs.Verification`: what flattening leaves of `Entity.verify`

A catalog verifies an entity as it is declared and keeps it flattened. The
type is the same, and no name becomes empty, for what comes in for an
attribute has that attribute's name in front. So of the rules of
`Entity.verify` only one can be lost: an embeddable is not verified, and its
attributes bring their junctions along.

`verify_resident_iff` is this for every resident after any attempts to add
entities. It has a type and named attributes, and it passes `Entity.verify`
exactly when every declaration of a junction that it took over from an
embeddable stands on a many-to-many association. `strayJunction_takenOver`
is an embeddable for which this fails.
-/

set_option autoImplicit false

namespace SchemaLinker

/-- The attribute declares a junction without being a many-to-many
association. -/
def Attribute.HasStrayJunction (a : Attribute) : Prop :=
  a.junction.isSome = true ∧ a.isManyToMany = false

/-- The attribute is `inner` as an entity takes it over, and `inner` belongs
to an embeddable of the table. -/
def Embeddables.TakesOver (t : Embeddables) (inner a : Attribute) : Prop :=
  (∃ f ∈ t.values, inner ∈ f.attributes.values) ∧ ∃ outer, a = inner.nestedIn outer

namespace Embeddables

variable {t : Embeddables}

/-- An attribute that was taken over declares the junction of the
embeddable's attribute, and it is the same association. -/
theorem TakesOver.hasStrayJunction_iff {inner a : Attribute} (h : t.TakesOver inner a) :
    a.HasStrayJunction ↔ inner.HasStrayJunction := by
  obtain ⟨-, outer, rfl⟩ := h
  exact Iff.rfl

/-- A nested attribute has a name, whatever those it is made of. -/
theorem nestedIn_name_ne_empty (inner outer : Attribute) : (inner.nestedIn outer).name ≠ "" := by
  intro hname
  have hlength := congrArg String.length hname
  have hseparator : ("_" : String).length = 1 := rfl
  change (outer.name ++ "_" ++ inner.name).length = 0 at hlength
  rw [String.length_append, String.length_append, hseparator] at hlength
  omega

/-- The attributes of a flattened entity have names, and if one declares a
stray junction it was taken over. -/
theorem checked_flatten {e : Entity} (he : e.verify = .ok ()) :
    ∀ a ∈ (t.flatten e).attributes.values,
      a.name ≠ "" ∧ (a.HasStrayJunction → ∃ inner, t.TakesOver inner a) := by
  have hdeclared : ∀ a ∈ e.attributes.values,
      a.name ≠ "" ∧ (a.HasStrayJunction → ∃ inner, t.TakesOver inner a) := by
    intro a ha
    obtain ⟨hname, hjunction⟩ :=
      Attribute.check_eq_none_iff.1 ((Entity.verify_eq_ok_iff.1 he).2 a ha)
    exact ⟨hname, fun ⟨hsome, hnot⟩ => absurd (hjunction hsome) (Bool.eq_false_iff.1 hnot)⟩
  refine forall_mem_flatten
    (Q := fun a => a.name ≠ "" ∧ (a.HasStrayJunction → ∃ inner, t.TakesOver inner a)) ?_ e hdeclared
  intro f hf inner hin outer _
  exact ⟨nestedIn_name_ne_empty inner outer, fun _ => ⟨inner, ⟨f, hf, hin⟩, outer, rfl⟩⟩

end Embeddables

namespace Catalog

/-- A resident came in as the flattened form of a verified entity. -/
theorem exists_verified_of_mem_assemble {model : String} {policy : NamePolicy} {t : Embeddables}
    {entities : List Entity} {f : Entity} (hf : f ∈ (assemble model policy t entities).entities) :
    ∃ e ∈ entities, e.verify = .ok () ∧ f = t.flatten e := by
  rw [entities_assemble] at hf
  obtain ⟨e, he, rfl⟩ := List.mem_map.1 hf
  obtain ⟨hmem, hadmits⟩ := List.mem_filter.1 ((firstOfEach_sublist _).subset he)
  exact ⟨e, hmem, (admits_iff.1 hadmits).2, rfl⟩

/-- Try to add any entities to an empty catalog, with any embeddables. Each
resident then has a type and only attributes with names. It passes
`Entity.verify` exactly when every attribute of an embeddable that it took
over and that declares a junction is a many-to-many association. -/
theorem verify_resident_iff {model : String} {policy : NamePolicy} {t : Embeddables}
    {entities : List Entity} {e : Entity} (he : e ∈ (assemble model policy t entities).entities) :
    e.ty.isEmpty = false ∧ (∀ a ∈ e.attributes.values, a.name ≠ "") ∧
      (e.verify = .ok () ↔
        ∀ a ∈ e.attributes.values, ∀ inner, t.TakesOver inner a →
          inner.junction.isSome = true → inner.isManyToMany = true) := by
  obtain ⟨d, -, hverify, rfl⟩ := exists_verified_of_mem_assemble he
  have hchecked := Embeddables.checked_flatten (t := t) hverify
  have hty : (t.flatten d).ty.isEmpty = false := by
    rw [Embeddables.flatten_ty]
    exact (Entity.verify_eq_ok_iff.1 hverify).1
  refine ⟨hty, fun a ha => (hchecked a ha).1, ?_⟩
  rw [Entity.verify_eq_ok_iff]
  simp only [Attribute.check_eq_none_iff]
  constructor
  · rintro ⟨-, hall⟩ a ha inner htaken hsome
    -- A stray junction of the embeddable would be one of the resident.
    refine Bool.of_not_eq_false fun hnot => ?_
    obtain ⟨hjunction, hmany⟩ := htaken.hasStrayJunction_iff.2 ⟨hsome, hnot⟩
    rw [(hall a ha).2 hjunction] at hmany
    cases hmany
  · intro hall
    refine ⟨hty, fun a ha => ⟨(hchecked a ha).1, fun hsome => ?_⟩⟩
    refine Bool.of_not_eq_false fun hnot => ?_
    obtain ⟨inner, htaken⟩ := (hchecked a ha).2 ⟨hsome, hnot⟩
    obtain ⟨hjunction, hmany⟩ := htaken.hasStrayJunction_iff.1 ⟨hsome, hnot⟩
    rw [hall a ha inner htaken hjunction] at hmany
    cases hmany

/-- A profile has a list of groups and declares their junction. Whether this
is an association is left open. -/
def profileTable (cardinality : Option Cardinality) : Embeddables :=
  OrderedMap.empty.insert ⟨["Profile"]⟩
    { ty := ⟨["Profile"]⟩
      attributes := OrderedMap.empty.insert "groups"
        { Attribute.column "groups" (.list (.named ⟨["Group"]⟩)) with
          cardinality := cardinality
          junction := some ⟨"", [], .explicit⟩ } }

/-- Two attempts to add a person with a profile, and one to add an entity
without a type. -/
def profiledPeople : List Entity :=
  let drafts := EntityDraft.buildAll
    [{ EntityDraft.ofType ⟨["Person"]⟩ with
        attributes := [.column "profile" (.named ⟨["Profile"]⟩)] }]
  let nameless := drafts.map fun e => { e with ty := ⟨[]⟩ }
  drafts ++ nameless ++ drafts

/-- Where the groups of a profile are many-to-many, the person takes over
their junction and passes. -/
theorem verify_profiledPeople :
    ∃ e ∈ (assemble defaultModel .firstMatch (profileTable (some .manyToMany))
        profiledPeople).entities,
      (e.attributes.values.map fun a => (a.name, a.junction.isSome)) =
        [("profile_groups", true)] ∧
      e.verify = .ok () := by
  have hrun : (assemble defaultModel .firstMatch (profileTable (some .manyToMany))
      profiledPeople).entities.any (fun e => decide
        ((e.attributes.values.map fun a => (a.name, a.junction.isSome)) =
          [("profile_groups", true)])) = true := by decide +kernel
  obtain ⟨e, he, hattributes⟩ := List.any_eq_true.1 hrun
  refine ⟨e, he, of_decide_eq_true hattributes, ?_⟩
  have htable : ∀ f ∈ (profileTable (some .manyToMany)).values, ∀ inner ∈ f.attributes.values,
      inner.isManyToMany = true := by decide +kernel
  refine (verify_resident_iff he).2.2.2 fun a _ inner htaken _ => ?_
  obtain ⟨⟨f, hf, hinner⟩, -⟩ := htaken
  exact htable f hf inner hinner

/-- Where they are a plain column, the person is resident all the same, and
does not pass. The catalog would not take it in as it keeps it. -/
theorem strayJunction_takenOver :
    ∃ e ∈ (assemble defaultModel .firstMatch (profileTable none) profiledPeople).entities,
      (e.attributes.values.map fun a => (a.name, a.junction.isSome, a.cardinality)) =
        [("profile_groups", true, none)] ∧
      e.verify ≠ .ok () := by
  have hrun : (assemble defaultModel .firstMatch (profileTable none)
      profiledPeople).entities.any (fun e => decide
        ((e.attributes.values.map fun a => (a.name, a.junction.isSome, a.cardinality)) =
          [("profile_groups", true, none)]) && !e.verify.isOk) = true := by decide +kernel
  obtain ⟨e, he, htest⟩ := List.any_eq_true.1 hrun
  rw [Bool.and_eq_true] at htest
  refine ⟨e, he, of_decide_eq_true htest.1, fun hverify => ?_⟩
  rw [hverify] at htest
  cases htest.2

end Catalog

end SchemaLinker
