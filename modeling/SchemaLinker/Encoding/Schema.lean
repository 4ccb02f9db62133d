import SchemaLinker.Encoding.Value
import SchemaLinker.Entity

/-!
# `SchemaLinker.Encoding.Schema`: schemas as values

How paths, types, attributes, entities and embeddables are written as
values and read again. A word stands for each choice, a structure is an
object with a member per field, and a scalar type is a word where the
other types are objects of one member.
-/

set_option autoImplicit false

namespace SchemaLinker

open Encoding (Value)

/-- The first of some choices that is written as a given word. -/
def choiceOfWord? {α : Type} (word : α → String) (choices : List α) (v : Value) : Option α :=
  v.string?.bind fun s => choices.find? fun a => word a == s

namespace Path

/-- A path as a value. -/
def toValue (p : Path) : Value := .object [("segments", .ofList .string p.segments)]

/-- The path that a value stands for. -/
def ofValue? (v : Value) : Option Path := (v.required "segments" (Value.list? Value.string?)).map .mk

end Path

namespace Scalar

/-- The word for a scalar type. -/
def word : Scalar → String
  | bool => "Bool"
  | int8 => "I8"
  | int16 => "I16"
  | int32 => "I32"
  | int64 => "I64"
  | uint8 => "U8"
  | uint16 => "U16"
  | uint32 => "U32"
  | uint64 => "U64"
  | float32 => "F32"
  | float64 => "F64"
  | string => "String"
  | uuid => "Uuid"
  | bytes => "Bytes"
  | decimal => "Decimal"
  | timestamp => "Timestamp"
  | date => "Date"
  | time => "Time"

end Scalar

namespace DataType

/-- A type as a value. -/
def toValue : DataType → Value
  | scalar s => .string s.word
  | named p => .object [("Path", p.toValue)]
  | list item => .object [("List", toValue item)]
  | set item => .object [("Set", toValue item)]

/-- The type that a value stands for. -/
def ofValue? : Value → Option DataType
  | .string s => (choiceOfWord? Scalar.word Scalar.all (.string s)).map .scalar
  | .object [(tag, v)] =>
    if tag = "Path" then (Path.ofValue? v).map .named
    else if tag = "List" then (ofValue? v).map .list
    else if tag = "Set" then (ofValue? v).map .set
    else none
  | _ => none

end DataType

namespace Cardinality

/-- A cardinality as a value. -/
def toValue (c : Cardinality) : Value := .string (toString c)

/-- The cardinality that a value stands for. -/
def ofValue? : Value → Option Cardinality :=
  choiceOfWord? toString [oneToOne, oneToMany, manyToOne, manyToMany]

end Cardinality

namespace ReferentialAction

/-- The word for an action. -/
def word : ReferentialAction → String
  | cascade => "Cascade"
  | setNull => "SetNull"
  | setDefault => "SetDefault"
  | restrict => "Restrict"
  | noAction => "NoAction"

/-- An action as a value. -/
def toValue (a : ReferentialAction) : Value := .string a.word

/-- The action that a value stands for. -/
def ofValue? : Value → Option ReferentialAction :=
  choiceOfWord? word [cascade, setNull, setDefault, restrict, noAction]

end ReferentialAction

namespace CascadeAction

/-- The word for an operation. -/
def word : CascadeAction → String
  | save => "Save"
  | delete => "Delete"

/-- An operation as a value. -/
def toValue (a : CascadeAction) : Value := .string a.word

/-- The operation that a value stands for. -/
def ofValue? : Value → Option CascadeAction := choiceOfWord? word [save, delete]

end CascadeAction

namespace CascadeSet

/-- A set of operations as a value. -/
def toValue (s : CascadeSet) : Value := .ofList CascadeAction.toValue s.actions

/-- The set of operations that a value stands for. -/
def ofValue? (v : Value) : Option CascadeSet := (v.list? CascadeAction.ofValue?).map ofList

end CascadeSet

namespace JunctionOrigin

/-- The word for an origin. -/
def word : JunctionOrigin → String
  | explicit => "Explicit"
  | derived => "Default"

/-- An origin as a value. -/
def toValue (o : JunctionOrigin) : Value := .string o.word

/-- The origin that a value stands for. -/
def ofValue? : Value → Option JunctionOrigin := choiceOfWord? word [explicit, derived]

end JunctionOrigin

namespace JunctionColumn

/-- A junction column as a value. -/
def toValue (c : JunctionColumn) : Value :=
  .object
    [("name", .string c.name), ("referenced", .ofOption Path.toValue c.referenced),
      ("on_delete", c.onDelete.toValue), ("on_update", c.onUpdate.toValue)]

/-- The junction column that a value stands for. -/
def ofValue? (v : Value) : Option JunctionColumn := do
  let name ← v.required "name" Value.string?
  let referenced ← v.optional "referenced" Path.ofValue?
  let onDelete ← v.required "on_delete" ReferentialAction.ofValue?
  let onUpdate ← v.required "on_update" ReferentialAction.ofValue?
  return { name, referenced, onDelete, onUpdate }

end JunctionColumn

namespace JunctionDeclaration

/-- A junction declaration as a value. -/
def toValue (d : JunctionDeclaration) : Value :=
  .object
    [("name", .string d.name), ("references", .ofList JunctionColumn.toValue d.columns),
      ("kind", d.origin.toValue)]

/-- The junction declaration that a value stands for. -/
def ofValue? (v : Value) : Option JunctionDeclaration := do
  let name ← v.required "name" Value.string?
  let columns ← v.required "references" (Value.list? JunctionColumn.ofValue?)
  let origin ← v.required "kind" JunctionOrigin.ofValue?
  return { name, columns, origin }

end JunctionDeclaration

namespace Attribute

/-- An attribute as a value. -/
def toValue (a : Attribute) : Value :=
  .object
    [("name", .string a.name), ("ty", a.ty.toValue),
      ("cardinality", .ofOption Cardinality.toValue a.cardinality),
      ("foreign_key", .bool a.foreignKey), ("unique", .bool a.unique),
      ("nullable", .bool a.nullable), ("key", .bool a.key), ("generated", .bool a.generated),
      ("mapped_by", .ofOption .string a.mappedBy),
      ("referenced_column", .ofOption .string a.referencedColumn),
      ("referenced_type", .ofOption DataType.toValue a.referencedType),
      ("referenced_table", .ofOption .string a.referencedTable),
      ("delete_action", .ofOption ReferentialAction.toValue a.deleteAction),
      ("update_action", .ofOption ReferentialAction.toValue a.updateAction),
      ("cascade", a.cascade.toValue),
      ("associative_entity", .ofOption JunctionDeclaration.toValue a.junction)]

/-- The attribute that a value stands for. -/
def ofValue? (v : Value) : Option Attribute := do
  let name ← v.required "name" Value.string?
  let ty ← v.required "ty" DataType.ofValue?
  let cardinality ← v.optional "cardinality" Cardinality.ofValue?
  let foreignKey ← v.required "foreign_key" Value.bool?
  let unique ← v.required "unique" Value.bool?
  let nullable ← v.required "nullable" Value.bool?
  let key ← v.required "key" Value.bool?
  let generated ← v.required "generated" Value.bool?
  let mappedBy ← v.optional "mapped_by" Value.string?
  let referencedColumn ← v.optional "referenced_column" Value.string?
  let referencedType ← v.optional "referenced_type" DataType.ofValue?
  let referencedTable ← v.optional "referenced_table" Value.string?
  let deleteAction ← v.optional "delete_action" ReferentialAction.ofValue?
  let updateAction ← v.optional "update_action" ReferentialAction.ofValue?
  let cascade ← v.required "cascade" CascadeSet.ofValue?
  let junction ← v.optional "associative_entity" JunctionDeclaration.ofValue?
  return { name, ty, cardinality, foreignKey, unique, nullable, key, generated, mappedBy,
           referencedColumn, referencedType, referencedTable, deleteAction, updateAction, cascade,
           junction }

/-- Attributes under their names as a value. -/
def mapToValue (m : OrderedMap String Attribute) : Value :=
  .object (m.entries.map fun e => (e.1, e.2.toValue))

/-- The attributes under names that a value stands for. -/
def mapOfValue? (v : Value) : Option (OrderedMap String Attribute) :=
  (v.members? ofValue?).map .ofList

end Attribute

namespace AttributeId

/-- An attribute's name across entities as a value. -/
def toValue (a : AttributeId) : Value :=
  .object [("entity", a.entity.toValue), ("attribute", .string a.name)]

/-- The attribute's name across entities that a value stands for. -/
def ofValue? (v : Value) : Option AttributeId := do
  let entity ← v.required "entity" Path.ofValue?
  let name ← v.required "attribute" Value.string?
  return { entity, name }

end AttributeId

namespace Entity

/-- An entity as a value. -/
def toValue (e : Entity) : Value :=
  .object
    [("ty", e.ty.toValue), ("table_name", .string e.tableName), ("model", .string e.model),
      ("attributes", Attribute.mapToValue e.attributes), ("read_only", .bool e.readOnly),
      ("cacheable", .bool e.cacheable), ("stateless", .bool e.stateless),
      ("synthesized", .bool e.synthesized)]

/-- The entity that a value stands for. -/
def ofValue? (v : Value) : Option Entity := do
  let ty ← v.required "ty" Path.ofValue?
  let tableName ← v.required "table_name" Value.string?
  let model ← v.required "model" Value.string?
  let attributes ← v.required "attributes" Attribute.mapOfValue?
  let readOnly ← v.required "read_only" Value.bool?
  let cacheable ← v.required "cacheable" Value.bool?
  let stateless ← v.required "stateless" Value.bool?
  let synthesized ← v.required "synthesized" Value.bool?
  return { ty, tableName, model, attributes, readOnly, cacheable, stateless, synthesized }

end Entity

namespace Embeddable

/-- An embeddable as a value. -/
def toValue (e : Embeddable) : Value :=
  .object [("ty", e.ty.toValue), ("attributes", Attribute.mapToValue e.attributes)]

/-- The embeddable that a value stands for. -/
def ofValue? (v : Value) : Option Embeddable := do
  let ty ← v.required "ty" Path.ofValue?
  let attributes ← v.required "attributes" Attribute.mapOfValue?
  return { ty, attributes }

end Embeddable

end SchemaLinker
