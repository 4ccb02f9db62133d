import SchemaLinker.Fault.Basic
import SchemaLinker.OrderedMap

/-!
# `SchemaLinker.Entity`: entities, their drafts, and embeddables

An `Entity` maps a type to a table of a model and holds its attributes
under their names. An `EntityDraft` is an entity as it is written down;
`EntityDraft.build` fills in the defaults and refuses a draft that
repeats an attribute, has no type name, or has an attribute that cannot
stand. An `Embeddable` is a group of attributes that other entities
take over.

* `Entity.verify_eq_ok_iff`: what `verify` accepts.
* `EntityDraft.verify_of_build`: what is built has been verified.
-/

set_option autoImplicit false

namespace SchemaLinker

/-- A type mapped to a table. -/
structure Entity where
  ty : Path
  tableName : String
  model : String
  /-- The attributes under their names, in the order of declaration. -/
  attributes : OrderedMap String Attribute
  readOnly : Bool
  cacheable : Bool
  stateless : Bool
  /-- Made by resolution, not declared. -/
  synthesized : Bool
deriving DecidableEq

/-- A group of attributes that an attribute of its type stands for. -/
structure Embeddable where
  ty : Path
  attributes : OrderedMap String Attribute
deriving DecidableEq

namespace Entity

/-- The attribute under a name. -/
def attribute? (e : Entity) (name : String) : Option Attribute := e.attributes.get? name

/-- The attributes of the primary key. -/
def keyAttributes (e : Entity) : List Attribute := e.attributes.values.filter (·.key)

/-- The attributes that are foreign keys. -/
def foreignKeys (e : Entity) : List Attribute := e.attributes.values.filter (·.foreignKey)

/-- The attributes that are associations. -/
def associations (e : Entity) : List Attribute := e.attributes.values.filter (·.isAssociation)

/-- The primary key, if it is one attribute. -/
def singleKey? (e : Entity) : Option Attribute :=
  match e.keyAttributes with
  | [a] => some a
  | _ => none

/-- An attribute of the entity, named across entities. -/
def idOf (e : Entity) (a : Attribute) : AttributeId := ⟨e.ty, a.name⟩

/-- The same entity, the order of attributes and of cascade sets set
aside. -/
def agrees (e f : Entity) : Bool :=
  e.attributes.agrees Attribute.agrees f.attributes &&
    decide ({ e with attributes := f.attributes } = f)

/-- Refuses an entity without a type name or with an attribute that
cannot stand. -/
def verify (e : Entity) : Except Fault Unit :=
  if e.ty.isEmpty then .error (FaultKind.invalidSchema .emptyTypeName).fault
  else match e.attributes.values.findSome? Attribute.check with
    | some problem =>
      .error ((FaultKind.invalidSchema (.ofAttribute problem)).fault.within
        (.invalidSchema (.inEntity e.ty)))
    | none => .ok ()

/-- An entity verifies when it has a type and each of its attributes passes. -/
theorem verify_eq_ok_iff {e : Entity} :
    e.verify = .ok () ↔
      e.ty.isEmpty = false ∧ ∀ a ∈ e.attributes.values, a.check = none := by
  simp only [verify]
  split
  · next h => simp [h]
  · next h =>
    split
    · next p hp =>
      obtain ⟨a, ha, hap⟩ := List.exists_of_findSome?_eq_some hp
      simp only [reduceCtorEq, false_iff, not_and]
      intro _ hall
      simp [hall a ha] at hap
    · next hp => simpa [h] using hp

end Entity

/-- The model of entities that name none. -/
def defaultModel : String := "default"

/-- An entity as it is written down. -/
structure EntityDraft where
  ty : Path
  /-- The table, if it is not named like the type. -/
  tableName : Option String
  model : Option String
  attributes : List Attribute
  readOnly : Bool
  cacheable : Bool
  stateless : Bool
  synthesized : Bool

namespace EntityDraft

/-- A draft of a type with no attributes and every choice left open. -/
def ofType (ty : Path) : EntityDraft where
  ty := ty
  tableName := none
  model := none
  attributes := []
  readOnly := false
  cacheable := false
  stateless := false
  synthesized := false

/-- The attributes under their names, or the first name that comes a
second time. -/
def collect (seen : OrderedMap String Attribute) :
    List Attribute → Except String (OrderedMap String Attribute)
  | [] => .ok seen
  | a :: rest =>
    if seen.contains a.name then .error a.name else collect (seen.insert a.name a) rest

/-- The entity with the draft's choices and these attributes. -/
def entity (d : EntityDraft) (attributes : OrderedMap String Attribute) : Entity where
  ty := d.ty
  tableName := d.tableName.getD d.ty.simpleName
  model := d.model.getD defaultModel
  attributes := attributes
  readOnly := d.readOnly
  cacheable := d.cacheable
  stateless := d.stateless
  synthesized := d.synthesized

/-- The entity that a draft describes. Attributes may not repeat a name,
and the entity has to pass `Entity.verify`. -/
def build (d : EntityDraft) : Except Fault Entity :=
  match collect .empty d.attributes with
  | .error name => .error (FaultKind.invalidSchema (.repeatedAttribute d.ty name)).fault
  | .ok attributes => do
    (d.entity attributes).verify
    return d.entity attributes

/-- What a draft builds verifies. -/
theorem verify_of_build {d : EntityDraft} {e : Entity} (h : d.build = .ok e) :
    e.verify = .ok () := by
  simp only [build] at h
  split at h
  · simp at h
  · next m _ =>
    cases hv : (d.entity m).verify with
    | error f => simp [hv, bind, Except.bind] at h
    | ok u =>
      simp only [hv, bind, Except.bind, pure, Except.pure, Except.ok.injEq] at h
      subst h
      exact hv

end EntityDraft

end SchemaLinker
