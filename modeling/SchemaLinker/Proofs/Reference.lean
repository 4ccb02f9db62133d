import SchemaLinker.Catalog.Inverse
import SchemaLinker.Proofs.AttributeNames
import SchemaLinker.Review.Basic

/-!
# `SchemaLinker.Proofs.Reference`: references stay inside a catalog

What an attribute refers to is a resident entity (`mem_of_target?`), and
the other sides of an association are attributes of its target
(`mem_of_mem_inverses`). In a catalog of keyed entities an attribute
named across entities is visited once: `eq_of_idOf_eq`, `nodup_ids`.
-/

set_option autoImplicit false

namespace SchemaLinker.Catalog

/-- Every entity of the catalog holds its attributes under their names. -/
def AllKeyed (c : Catalog) : Prop := ∀ e ∈ c.entities, e.Keyed

/-- The only element is the whole list. -/
theorem only?_eq_some_iff {α : Type} {l : List α} {a : α} : only? l = some a ↔ l = [a] := by
  simp only [only?]
  split
  · simp
  · rename_i hne
    constructor
    · intro h
      cases h
    · intro h
      exact absurd h (hne a)

/-- The entity of a table is the only one that has it. -/
theorem entityOfTable?_eq_some_iff {c : Catalog} {table : String} {e : Entity} :
    c.entityOfTable? table = some e ↔ c.entitiesOfTable table = [e] :=
  only?_eq_some_iff

/-- The entities of a table are the residents that have it, in whatever case. -/
theorem mem_entitiesOfTable {c : Catalog} {table : String} {e : Entity} :
    e ∈ c.entitiesOfTable table ↔ e ∈ c.entities ∧ Text.sameFolded e.tableName table = true :=
  List.mem_filter

/-- A table is taken when some resident has it. -/
theorem entitiesOfTable_ne_nil_iff {c : Catalog} {table : String} :
    c.entitiesOfTable table ≠ [] ↔
      ∃ e ∈ c.entities, Text.sameFolded e.tableName table = true := by
  rw [Ne, List.eq_nil_iff_forall_not_mem, Classical.not_forall]
  simp only [Classical.not_not, mem_entitiesOfTable]

/-- The entity of a table is a resident. -/
theorem mem_of_entityOfTable? {c : Catalog} {table : String} {e : Entity}
    (h : c.entityOfTable? table = some e) : e ∈ c.entities := by
  have hmem : e ∈ c.entitiesOfTable table := by
    rw [entityOfTable?_eq_some_iff.1 h]
    exact List.mem_singleton_self e
  exact (mem_entitiesOfTable.1 hmem).1

/-- Whatever the policy, a simple name finds the first entity of that
name, if it finds one. -/
theorem head?_of_entityOfName? {c : Catalog} {name : String} {e : Entity}
    (h : c.entityOfName? name = some e) : (c.entitiesNamed name).head? = some e := by
  simp only [entityOfName?] at h
  split at h
  · exact h
  · rw [only?_eq_some_iff.1 h]
    rfl

/-- So is the entity of a name. -/
theorem mem_of_entityOfName? {c : Catalog} {name : String} {e : Entity}
    (h : c.entityOfName? name = some e) : e ∈ c.entities :=
  (List.mem_filter.1 (List.mem_of_head? (head?_of_entityOfName? h))).1

/-- So is the entity of a path. -/
theorem mem_of_entityOfPath? {c : Catalog} {p : Path} {e : Entity}
    (h : c.entityOfPath? p = some e) : e ∈ c.entities := by
  simp only [entityOfPath?] at h
  rcases Option.or_eq_some_iff.1 h with hty | ⟨-, hname⟩
  · exact mem_of_entity? hty
  · split at hname
    · cases hname
    · exact mem_of_entityOfName? hname

/-- So is the entity of a type. -/
theorem mem_of_entityOfType? {c : Catalog} {t : DataType} {e : Entity}
    (h : c.entityOfType? t = some e) : e ∈ c.entities := by
  simp only [entityOfType?] at h
  obtain ⟨p, -, hp⟩ := Option.bind_eq_some_iff.1 h
  rcases Option.or_eq_some_iff.1 hp with hty | ⟨-, hname⟩
  · exact mem_of_entity? hty
  · exact mem_of_entityOfName? hname

/-- What an attribute refers to is resident. -/
theorem mem_of_target? {c : Catalog} {a : Attribute} {t : Entity} (h : c.target? a = some t) :
    t ∈ c.entities := by
  simp only [target?] at h
  split at h
  · exact mem_of_entityOfTable? h
  · obtain ⟨p, -, hp⟩ := Option.bind_eq_some_iff.1 h
    exact mem_of_entityOfPath? hp
  · exact mem_of_entityOfType? h

/-- What an association maps to are attributes of its target. -/
theorem mem_of_mem_mappedAttributes {c : Catalog} {e t : Entity} {a b : Attribute}
    (h : b ∈ c.mappedAttributes e a t) : b ∈ t.attributes.values := by
  simp only [mappedAttributes] at h
  split at h
  · rename_i name _
    exact OrderedMap.mem_values_iff.2 ⟨name, Option.mem_toList.1 h⟩
  · have hback : b ∈ c.backReferences e a t :=
      (narrow_sublist _ _).subset ((narrow_sublist _ _).subset h)
    have hassoc : b ∈ t.associations := (List.mem_filter.1 hback).1
    exact (List.mem_filter.1 hassoc).1

/-- The other sides of an association are attributes of its target and
not the association itself. -/
theorem mem_of_mem_inverses {c : Catalog} {e t : Entity} {a b : Attribute}
    (h : b ∈ c.inverses e a t) :
    b ∈ t.attributes.values ∧ ¬(t.ty = e.ty ∧ b.name = a.name) := by
  obtain ⟨hmapped, hother⟩ := List.mem_filter.1 h
  refine ⟨mem_of_mem_mappedAttributes hmapped, ?_⟩
  rintro ⟨hty, hname⟩
  simp [hty, hname] at hother

/-- A visit is a resident with one of its attributes. -/
theorem mem_visits {c : Catalog} {v : Entity × Attribute} :
    v ∈ c.visits ↔ v.1 ∈ c.entities ∧ v.2 ∈ v.1.attributes.values := by
  simp only [visits]
  rw [List.mem_flatMap]
  constructor
  · rintro ⟨e, he, hv⟩
    obtain ⟨a, ha, rfl⟩ := List.mem_map.1 hv
    exact ⟨he, ha⟩
  · rintro ⟨he, ha⟩
    exact ⟨v.1, he, List.mem_map.2 ⟨v.2, ha, rfl⟩⟩

/-- The only other side of an association is visited, too. -/
theorem mem_visits_of_inverses {c : Catalog} {e t : Entity} {a b : Attribute}
    (ht : c.target? a = some t) (hone : c.inverses e a t = [b]) : (t, b) ∈ c.visits := by
  have hmem : b ∈ c.inverses e a t := by
    rw [hone]
    exact List.mem_singleton_self b
  exact mem_visits.2 ⟨mem_of_target? ht, (mem_of_mem_inverses hmem).1⟩

/-- Residents of one type are one. -/
theorem eq_of_mem_of_ty_eq {c : Catalog} {e f : Entity} (he : e ∈ c.entities)
    (hf : f ∈ c.entities) (h : e.ty = f.ty) : e = f :=
  eq_of_ty_eq c.distinct he hf h

/-- An attribute named across entities is one visit. -/
theorem eq_of_idOf_eq {c : Catalog} (hc : c.AllKeyed) {u v : Entity × Attribute}
    (hu : u ∈ c.visits) (hv : v ∈ c.visits) (h : u.1.idOf u.2 = v.1.idOf v.2) : u = v := by
  obtain ⟨hue, hua⟩ := mem_visits.1 hu
  obtain ⟨hve, hva⟩ := mem_visits.1 hv
  obtain ⟨hty, hname⟩ := AttributeId.mk.inj h
  have hentity : u.1 = v.1 := eq_of_mem_of_ty_eq hue hve hty
  rw [← hentity] at hva
  exact Prod.ext hentity (Entity.eq_of_name_eq (hc _ hue) hua hva hname)

/-- The visits of a list of entities with distinct types have distinct
attributes. -/
theorem nodup_ids_of_keyed (l : List Entity) (hl : (l.map Entity.ty).Nodup)
    (hkeyed : ∀ e ∈ l, e.Keyed) :
    ((l.flatMap fun e => e.attributes.values.map fun a => (e, a)).map
      fun v => v.1.idOf v.2).Nodup := by
  induction l with
  | nil => exact List.nodup_nil
  | cons e rest ih =>
    rw [List.map_cons, List.nodup_cons] at hl
    rw [List.flatMap_cons, List.map_append, List.nodup_append]
    refine ⟨?_, ih hl.2 fun f hf => hkeyed f (List.mem_cons_of_mem _ hf), ?_⟩
    · -- The names of one entity's attributes are distinct.
      have hnames := Entity.nodup_names (hkeyed e List.mem_cons_self)
      rw [List.map_map]
      simp only [List.Nodup] at hnames ⊢
      rw [List.pairwise_map] at hnames ⊢
      exact hnames.imp fun hne h => hne (AttributeId.mk.inj h).2
    · -- Another entity's attributes carry another type.
      intro x hx y hy hxy
      obtain ⟨u, hu, rfl⟩ := List.mem_map.1 hx
      obtain ⟨a, -, rfl⟩ := List.mem_map.1 hu
      obtain ⟨v, hv, rfl⟩ := List.mem_map.1 hy
      obtain ⟨f, hf, hv⟩ := List.mem_flatMap.1 hv
      obtain ⟨b, -, rfl⟩ := List.mem_map.1 hv
      exact hl.1 (List.mem_map.2 ⟨f, hf, (AttributeId.mk.inj hxy).1.symm⟩)

/-- In a catalog of keyed entities no attribute is visited twice. -/
theorem nodup_ids {c : Catalog} (hc : c.AllKeyed) :
    (c.visits.map fun v => v.1.idOf v.2).Nodup :=
  nodup_ids_of_keyed c.entities c.distinct hc

end SchemaLinker.Catalog
