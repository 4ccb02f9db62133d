import SchemaLinker.Catalog.Inverse
import SchemaLinker.Junction.Synthesis

/-!
# `SchemaLinker.Resolution.Link`: what the attributes of a catalog lead to

A `Link` says of an association or a foreign key which entity and which
attribute of it it refers to, which attributes are its other sides, and,
for a many-to-many association, which entity is mapped to its junction
table.

The junction table is named by the side that declares it; where neither
does, by the association itself or else by its only other side.
-/

set_option autoImplicit false

namespace SchemaLinker

/-- What an attribute leads to. -/
structure Link where
  source : AttributeId
  cardinality : Option Cardinality
  target : Option Path
  targetColumn : Option String
  inverse : List AttributeId
  junction : Option Path
deriving DecidableEq

namespace Catalog

/-- The table by which an association looks for its junction: named by
an other side if that declares it and the association does not. -/
def namedJunctionTable (separator : String) (entity : Entity) (a : Attribute) (target : Entity)
    (inverses : List Attribute) : String :=
  match inverses.find? fun b => b.junction.isSome && a.junction.isNone with
  | some b => junctionTable separator target entity b
  | none => junctionTable separator entity target a

/-- The table that the only other side gives a junction which neither
side declares. -/
def sharedJunctionTable? (separator : String) (entity : Entity) (a : Attribute)
    (target : Entity) (inverses : List Attribute) : Option String :=
  match inverses with
  | [b] =>
    if a.junction.isNone && b.junction.isNone then some (junctionTable separator target entity b)
    else none
  | _ => none

/-- The entity mapped to the junction table of an association. -/
def junctionOf? (c : Catalog) (separator : String) (entity : Entity) (a : Attribute)
    (target : Entity) (inverses : List Attribute) : Option Entity :=
  (c.entityOfTable? (namedJunctionTable separator entity a target inverses)).or
    ((sharedJunctionTable? separator entity a target inverses).bind c.entityOfTable?)

/-- What an attribute leads to. -/
def link (c : Catalog) (separator : String) (entity : Entity) (a : Attribute) : Link :=
  let target := c.target? a
  -- A foreign key on a plain column has a target, but no other side.
  let inverses := match target with
    | some t => if a.isAssociation then c.inverses entity a t else []
    | none => []
  { source := entity.idOf a
    cardinality := a.cardinality
    target := target.map Entity.ty
    targetColumn := (target.bind (targetColumn? a)).map Attribute.name
    inverse := match target with
      | some t => inverses.map t.idOf
      | none => []
    junction := match target with
      | some t =>
        if a.isManyToMany then (c.junctionOf? separator entity a t inverses).map Entity.ty
        else none
      | none => none }

/-- The links of a catalog's associations and foreign keys, in order. -/
def links (c : Catalog) (separator : String) : List Link :=
  (c.visits.filter fun v => v.2.isAssociation || v.2.foreignKey).map fun v =>
    c.link separator v.1 v.2

end Catalog

end SchemaLinker
