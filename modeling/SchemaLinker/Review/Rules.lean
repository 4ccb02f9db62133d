import SchemaLinker.Catalog.Inverse
import SchemaLinker.DataType.Printer
import SchemaLinker.Review.Finding

/-!
# `SchemaLinker.Review.Rules`: the rules of a review

Each rule looks at one attribute of one entity in a catalog, or at the
two sides of an association, and answers at most one finding.

* `Finding.ofPair_isSome_comm`: two sides that agree on being an association
  break the pair rule together, whichever is looked at first.
-/

set_option autoImplicit false

namespace SchemaLinker

namespace Finding

/-- The name that an attribute refers to should belong to one type. -/
def ofSharedName (c : Catalog) (a : Attribute) : Option Finding :=
  match c.ambiguousTargets a with
  | [] => none
  | first :: others => some (.ambiguousName first.ty (others.map Entity.ty) c.policy)

/-- A plain column should not have the type of an entity. -/
def ofPlainColumn (c : Catalog) (a : Attribute) : Option Finding :=
  (c.entityOfType? a.ty).map fun target => .plainReference target.ty

/-- An association that nothing maps back to has to hold by itself. -/
def ofOneSide (a : Attribute) (cardinality : Cardinality) (target : Entity) : Option Finding :=
  match cardinality with
  | .oneToOne => if a.foreignKey then none else some .unkeyedOneToOne
  | .oneToMany => some (.missingManyToOne target.ty)
  | _ => none

/-- The two sides of an association have to fit together: inverse
cardinalities, the junction of a many-to-many declared on one side, and
the foreign key of a one-to-one on one side. -/
def ofPair (source : AttributeId) (a : Attribute) (cardinality : Cardinality)
    (mapped : AttributeId) (b : Attribute) : Option Finding :=
  match b.cardinality with
  | none => some (.inverseWithoutRelationship source cardinality mapped)
  | some actual =>
    if actual ≠ cardinality.inverse then some (.inverseMismatch source cardinality mapped actual)
    else
      match cardinality with
      | .manyToMany =>
        match a.junction.isSome, b.junction.isSome with
        | false, false => some (.junctionUndeclared source mapped)
        | true, true => some (.junctionDeclaredTwice source mapped)
        | _, _ => none
      | .oneToOne =>
        match a.foreignKey, b.foreignKey with
        | false, false => some .foreignKeyUndeclared
        | true, true => some (.foreignKeyDeclaredTwice source mapped)
        | _, _ => none
      | _ => none

/-- What an unresolved association says it refers to. -/
def targetDescription (a : Attribute) : String :=
  match a.referencedTable, a.referencedType with
  | some table, _ => table
  | none, some ty => toString ty.element
  | none, none => toString a.ty.element

/-- A foreign key should find the attribute it stores, and its target
should not lead back. A plain column may point outside the catalog. -/
def ofForeignKey (c : Catalog) (entity : Entity) (a : Attribute) : Option Finding :=
  match c.target? a with
  | none => if a.isAssociation then some (.danglingForeignKey a.name) else none
  | some target =>
    if (Catalog.targetColumn? a target).isNone then
      some (.missingColumn a.referencedColumn target.ty)
    -- A reference to the own entity is no circle.
    else if target.ty = entity.ty then none
    else
      (target.foreignKeys.find? fun b => (c.target? b).any fun t => t.ty == entity.ty).map
        fun back => .circularForeignKey entity.ty target.ty (target.idOf back)

/-- Two associations are found to misfit from both sides, or from neither. -/
theorem ofPair_isSome_comm {a b : Attribute} {ca cb : Cardinality} {ia ib : AttributeId}
    (ha : a.cardinality = some ca) (hb : b.cardinality = some cb) :
    (ofPair ia a ca ib b).isSome = (ofPair ib b cb ia a).isSome := by
  simp only [ofPair, ha, hb]
  cases ca <;> cases cb <;> cases a.junction <;> cases b.junction <;> cases a.foreignKey <;>
    cases b.foreignKey <;> rfl

end Finding

end SchemaLinker
