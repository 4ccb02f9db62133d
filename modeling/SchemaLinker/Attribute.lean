import SchemaLinker.DataType.Printer
import SchemaLinker.Relationship

/-!
# `SchemaLinker.Attribute`: the attributes of entities

An attribute is a plain column or, when it has a cardinality, an
association with another entity. It may be a foreign key, say explicitly
what it refers to, and, on a many-to-many association, declare the
junction table behind it.

* `AttributeId`: an attribute named across entities, `Entity::attribute`.
* `Attribute.agrees`: sameness up to the order of the cascade set.
* `Attribute.check`: the two rules an attribute has to keep by itself.
-/

set_option autoImplicit false

namespace SchemaLinker

/-- One column of a declared junction table. -/
structure JunctionColumn where
  name : String
  /-- The entity the column refers to; without one, the side of the
  association at the column's position. -/
  referenced : Option Path
  onDelete : ReferentialAction
  onUpdate : ReferentialAction
deriving DecidableEq

/-- Whether a junction was written down or made up. -/
inductive JunctionOrigin
  | explicit
  | derived
deriving DecidableEq

/-- The junction table that a many-to-many association declares. -/
structure JunctionDeclaration where
  /-- The table's name, empty if it is left to be derived. -/
  name : String
  columns : List JunctionColumn
  origin : JunctionOrigin
deriving DecidableEq

/-- The declared name of the table, if there is one. -/
def JunctionDeclaration.tableName? (d : JunctionDeclaration) : Option String :=
  if d.name.isEmpty then none else some d.name

/-- An attribute of an entity. -/
structure Attribute where
  name : String
  ty : DataType
  /-- Present on associations, absent on plain columns. -/
  cardinality : Option Cardinality
  foreignKey : Bool
  unique : Bool
  nullable : Bool
  /-- Part of the entity's primary key. -/
  key : Bool
  generated : Bool
  /-- The attribute on the other side that owns the association. -/
  mappedBy : Option String
  referencedColumn : Option String
  referencedType : Option DataType
  referencedTable : Option String
  deleteAction : Option ReferentialAction
  updateAction : Option ReferentialAction
  cascade : CascadeSet
  junction : Option JunctionDeclaration
deriving DecidableEq

/-- An attribute named across entities. -/
structure AttributeId where
  entity : Path
  name : String
deriving DecidableEq

/-- Written as the entity's path and the attribute's name. -/
protected def AttributeId.toString (a : AttributeId) : String :=
  toString a.entity ++ "::" ++ a.name

instance : ToString AttributeId := ⟨AttributeId.toString⟩

/-- Why an attribute cannot stand in any schema. -/
inductive AttributeProblem
  | emptyName
  /-- A junction is declared, but the attribute is no many-to-many
  association. -/
  | strayJunction (name : String) (cardinality : Option Cardinality)
deriving DecidableEq

/-- The problem in words. -/
def AttributeProblem.message : AttributeProblem → String
  | emptyName => "attribute name must not be empty"
  | strayJunction name cardinality =>
    let actual := match cardinality with
      | some c => toString c
      | none => "a scalar"
    "attribute `" ++ name ++ "` declares a junction table but is " ++ actual ++
      ", not ManyToMany"

namespace Attribute

/-- A plain column: every mark unset. -/
def column (name : String) (ty : DataType) : Attribute where
  name := name
  ty := ty
  cardinality := none
  foreignKey := false
  unique := false
  nullable := false
  key := false
  generated := false
  mappedBy := none
  referencedColumn := none
  referencedType := none
  referencedTable := none
  deleteAction := none
  updateAction := none
  cascade := .empty
  junction := none

/-- Whether the attribute has a cardinality. -/
def isAssociation (a : Attribute) : Bool := a.cardinality.isSome

/-- Whether the attribute is a many-to-many association. -/
def isManyToMany (a : Attribute) : Bool := a.cardinality == some .manyToMany

/-- The same attribute, the order of its cascade set aside. -/
def agrees (a b : Attribute) : Bool :=
  a.cascade.agrees b.cascade && decide ({ a with cascade := b.cascade } = b)

/-- The problem an attribute has by itself: it needs a name, and only a
many-to-many association may declare a junction. -/
def check (a : Attribute) : Option AttributeProblem :=
  if a.name.isEmpty then some .emptyName
  else if a.junction.isSome && !a.isManyToMany then some (.strayJunction a.name a.cardinality)
  else none

/-- An attribute passes when it has a name, and declares a junction only as a
many-to-many association. -/
theorem check_eq_none_iff {a : Attribute} :
    a.check = none ↔ a.name ≠ "" ∧ (a.junction.isSome → a.isManyToMany) := by
  simp only [check]
  split
  · next h => simp_all
  · next h =>
    split
    · next hj => simp_all
    · next hj => simp_all

end Attribute

end SchemaLinker
