import SchemaLinker.Embeddables
import SchemaLinker.Text.AsciiCase

/-!
# `SchemaLinker.Catalog.Basic`: the entities of one model

A `Catalog` holds the entities of one model in the order in which they
came, one per type. `Catalog.add` takes an entity in: it has to belong
to the model and pass `Entity.verify`, its embedded attributes are
flattened, and then it is new, known already, or in conflict with the
resident entity of its type.

* `add_of_foreign`, `add_of_verify_error`, `add_of_new`,
  `add_of_resident`: the four cases of `add`.
* `Admission.catalog`: the catalog after an attempt, changed only when
  the entity was new.
* `entity?_eq_some_iff`: an entity is found by its type exactly when it
  is resident.
-/

set_option autoImplicit false

namespace SchemaLinker

/-- What a simple name that several types share refers to. -/
inductive NamePolicy
  /-- The first of them. -/
  | firstMatch
  /-- Nothing. -/
  | strict
deriving DecidableEq

/-- The entities of one model. -/
structure Catalog where
  model : String
  policy : NamePolicy
  embeddables : Embeddables
  /-- The resident entities in the order in which they came. -/
  entities : List Entity
  /-- No two entities have one type. -/
  distinct : (entities.map Entity.ty).Nodup

namespace Catalog

/-- A catalog without entities. -/
def empty (model : String) (policy : NamePolicy) (embeddables : Embeddables) : Catalog where
  model := model
  policy := policy
  embeddables := embeddables
  entities := []
  distinct := List.nodup_nil

/-- The entity of a type. -/
def entity? (c : Catalog) (ty : Path) : Option Entity := c.entities.find? fun e => e.ty == ty

/-- The only element of a list. -/
def only? {α : Type} : List α → Option α
  | [a] => some a
  | _ => none

/-- The entities mapped to a table, ASCII case set aside. -/
def entitiesOfTable (c : Catalog) (table : String) : List Entity :=
  c.entities.filter fun e => Text.sameFolded e.tableName table

/-- The entity mapped to a table, if it is only one. -/
def entityOfTable? (c : Catalog) (table : String) : Option Entity :=
  only? (c.entitiesOfTable table)

/-- The entities of a simple name. -/
def entitiesNamed (c : Catalog) (name : String) : List Entity :=
  c.entities.filter fun e => e.ty.simpleName == name

/-- Nothing is found under a type exactly when no resident has it. -/
theorem entity?_eq_none_iff {c : Catalog} {ty : Path} :
    c.entity? ty = none ↔ ty ∉ c.entities.map Entity.ty := by
  simp [entity?]

/-- What is found is a resident. -/
theorem mem_of_entity? {c : Catalog} {ty : Path} {e : Entity} (h : c.entity? ty = some e) :
    e ∈ c.entities :=
  List.mem_of_find?_eq_some h

/-- It has the type that was looked up. -/
theorem ty_of_entity? {c : Catalog} {ty : Path} {e : Entity} (h : c.entity? ty = some e) :
    e.ty = ty := by
  simpa using List.find?_some h

/-- The catalog with one more entity at the end. -/
def append (c : Catalog) (e : Entity) (h : c.entity? e.ty = none) : Catalog where
  model := c.model
  policy := c.policy
  embeddables := c.embeddables
  entities := c.entities ++ [e]
  distinct := by
    rw [List.map_append]
    refine List.nodup_append.2 ⟨c.distinct, by simp, ?_⟩
    intro a ha b hb
    simp only [List.map_cons, List.map_nil, List.mem_singleton] at hb
    exact fun hab => entity?_eq_none_iff.1 h (hb ▸ hab ▸ ha)

/-- The outcome of taking in an entity. -/
inductive Admission
  /-- The entity was new. -/
  | added (catalog : Catalog)
  /-- The entity was known already. -/
  | ignored
  /-- The entity was refused. -/
  | rejected (fault : Fault)

/-- Takes an entity in. An entity of a resident type is ignored when it
says the same or was synthesized, and refused otherwise. -/
def add (c : Catalog) (e : Entity) : Admission :=
  if e.model ≠ c.model then
    .rejected (FaultKind.invalidSchema (.foreignModel e.ty e.model c.model)).fault
  else match e.verify with
    | .error fault => .rejected fault
    | .ok () =>
      -- Residents are flattened, so entities are compared in that form.
      let flat := c.embeddables.flatten e
      match h : c.entity? flat.ty with
      | none => .added (c.append flat h)
      | some resident =>
        if resident.agrees flat || flat.synthesized then .ignored
        else .rejected (FaultKind.duplicateEntity (toString flat.ty)).fault

/-- The catalog after an attempt to take in an entity. -/
def Admission.catalog (before : Catalog) : Admission → Catalog
  | .added after => after
  | .ignored => before
  | .rejected _ => before

/-- An entity of another model is refused. -/
theorem add_of_foreign {c : Catalog} {e : Entity} (h : e.model ≠ c.model) :
    c.add e = .rejected (FaultKind.invalidSchema (.foreignModel e.ty e.model c.model)).fault := by
  simp [add, h]

/-- An entity that cannot stand is refused. -/
theorem add_of_verify_error {c : Catalog} {e : Entity} {f : Fault} (h : e.model = c.model)
    (hv : e.verify = .error f) : c.add e = .rejected f := by
  simp [add, h, hv]

/-- An entity of a new type comes in at the end. -/
theorem add_of_new {c : Catalog} {e : Entity} (h : e.model = c.model) (hv : e.verify = .ok ())
    (hnew : c.entity? (c.embeddables.flatten e).ty = none) :
    c.add e = .added (c.append (c.embeddables.flatten e) hnew) := by
  simp only [add, h, hv, ne_eq, not_true_eq_false, if_false]
  split
  · rfl
  · next r hr => rw [hnew] at hr; cases hr

/-- An entity of a resident type is ignored or refused. -/
theorem add_of_resident {c : Catalog} {e resident : Entity} (h : e.model = c.model)
    (hv : e.verify = .ok ()) (hres : c.entity? (c.embeddables.flatten e).ty = some resident) :
    c.add e =
      if resident.agrees (c.embeddables.flatten e) || (c.embeddables.flatten e).synthesized then
        .ignored
      else .rejected (FaultKind.duplicateEntity (toString (c.embeddables.flatten e).ty)).fault := by
  simp only [add, h, hv, ne_eq, not_true_eq_false, if_false]
  split
  · next hr => rw [hres] at hr; cases hr
  · next r hr => rw [hres] at hr; cases hr; rfl

/-- In a list without repeated types a type has one entity. -/
theorem eq_of_ty_eq {l : List Entity} (h : (l.map Entity.ty).Nodup) {e f : Entity} (he : e ∈ l)
    (hf : f ∈ l) (hty : e.ty = f.ty) : e = f := by
  induction l with
  | nil => simp at he
  | cons g l ih =>
    simp only [List.map_cons, List.nodup_cons, List.mem_map, not_exists, not_and] at h
    rcases List.mem_cons.1 he with heg | hel <;> rcases List.mem_cons.1 hf with hfg | hfl
    · rw [heg, hfg]
    · exact absurd (heg ▸ hty.symm) (h.1 f hfl)
    · exact absurd (hfg ▸ hty) (h.1 e hel)
    · exact ih h.2 hel hfl

/-- Types are distinct, so a resident is what is found under its type. -/
theorem entity?_eq_some_iff {c : Catalog} {ty : Path} {e : Entity} :
    c.entity? ty = some e ↔ e ∈ c.entities ∧ e.ty = ty := by
  refine ⟨fun h => ⟨mem_of_entity? h, ty_of_entity? h⟩, ?_⟩
  rintro ⟨hmem, rfl⟩
  cases h : c.entity? e.ty with
  | none => exact absurd (List.mem_map_of_mem hmem) (entity?_eq_none_iff.1 h)
  | some f =>
    have hty := ty_of_entity? h
    have hf := mem_of_entity? h
    rw [eq_of_ty_eq c.distinct hf hmem hty]

end Catalog

end SchemaLinker
