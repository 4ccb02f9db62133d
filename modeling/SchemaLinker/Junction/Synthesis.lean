import SchemaLinker.Catalog.Reference
import SchemaLinker.Junction.Declaration
import SchemaLinker.Review.Basic

/-!
# `SchemaLinker.Junction.Synthesis`: junction entities on request

A request names a many-to-many association and its target. The junction
table has the name that the association declares, or else both tables'
names with a separator between them. Unless some entity is mapped to
that table already, an entity is made for it: a sibling of the source,
named after the table, with one key column per column of the
declaration.
-/

set_option autoImplicit false

namespace SchemaLinker

/-- Why no junction entity can be made. -/
inductive JunctionProblem
  | missingSource (source : Path)
  | missingTarget (target : Path)
  | missingAssociation (source : Path) (name : String)
  /-- The junction's type belongs to an entity of another table. -/
  | typeTaken (table : String) (source : Path) (name : String) (ty : Path) (owner : String)
  /-- A column neither says what it refers to nor stands for a side. -/
  | columnWithoutTarget (table column : String)
deriving DecidableEq

/-- The problem in words. -/
def JunctionProblem.message : JunctionProblem → String
  | missingSource source => "junction source `" ++ toString source ++ "` is not in the graph"
  | missingTarget target => "junction target `" ++ toString target ++ "` is not in the graph"
  | missingAssociation source name =>
    "junction source `" ++ toString source ++ "` has no attribute `" ++ name ++ "`"
  | typeTaken table source name ty owner =>
    "junction `" ++ table ++ "` for `" ++ toString source ++ "::" ++ name ++
      "` would be named `" ++ toString ty ++ "`, which is already mapped to table `" ++ owner ++
      "`"
  | columnWithoutTarget table column =>
    "junction `" ++ table ++ "` column `" ++ column ++ "` has no referenced entity"

/-- The problem as a fault. -/
def JunctionProblem.fault (p : JunctionProblem) : Fault := (FaultKind.adhoc p.message).fault

/-- The table behind a many-to-many association. -/
def junctionTable (separator : String) (source target : Entity) (a : Attribute) : String :=
  (a.junction.bind JunctionDeclaration.tableName?).getD
    (source.tableName ++ separator ++ target.tableName)

/-- The declaration that a junction is made from: the association's own
if it names columns, else one column for each side. -/
def junctionDeclaration (table : String) (source target : Entity) (a : Attribute) :
    JunctionDeclaration :=
  match a.junction with
  | some declared =>
    if declared.columns.isEmpty then .between table source target a.name
    else { declared with name := table }
  | none => .between table source target a.name

namespace Catalog

/-- The entity that a column of a junction refers to, if it is there: the
declared one, or the side at the column's position. -/
def columnTarget? (c : Catalog) (column : JunctionColumn) (side : Option Entity) :
    Option Entity :=
  match column.referenced with
  | some path => c.entityOfPath? path
  | none => side

/-- A key column of a junction. It has the type of its target's primary
key and refers to it, if that is one attribute. -/
def keyColumn (c : Catalog) (table : String) (column : JunctionColumn) (side : Option Entity) :
    Except JunctionProblem Attribute :=
  let target := c.columnTarget? column side
  -- A declared entity need not be resident; the column keeps its path then.
  match (target.map Entity.ty).or column.referenced with
  | none => .error (.columnWithoutTarget table column.name)
  | some referenced =>
    let key := target.bind Entity.singleKey?
    .ok { Attribute.column column.name ((key.map Attribute.ty).getD (.scalar .int64)) with
      key := true
      foreignKey := true
      referencedType := some (.named referenced)
      referencedColumn := key.map Attribute.name
      deleteAction := some column.onDelete
      updateAction := some column.onUpdate }

/-- The key columns of a junction; the sides go to the columns in
order. -/
def keyColumns (c : Catalog) (table : String) :
    (sides : List Entity) → List JunctionColumn → Except JunctionProblem (List Attribute)
  | _, [] => .ok []
  | sides, column :: rest => do
    let key ← c.keyColumn table column sides.head?
    let keys ← keyColumns c table sides.tail rest
    return key :: keys

/-- The draft of the junction entity between two entities, unless its
type is taken. -/
def draftJunction (c : Catalog) (request : JunctionRequest) (table : String)
    (source target : Entity) (a : Attribute) : Except JunctionProblem EntityDraft :=
  let ty := source.ty.sibling (Identifier.ofString table).upperCamelCase
  match c.entity? ty with
  | some owner => .error (.typeTaken table request.source request.name ty owner.tableName)
  | none => do
    let columns ← c.keyColumns table [source, target]
      (junctionDeclaration table source target a).columns
    return { EntityDraft.ofType ty with
      tableName := some table
      model := some source.model
      attributes := columns
      synthesized := true }

/-- The entities and the association that a request names. -/
def requested (c : Catalog) (request : JunctionRequest) :
    Except JunctionProblem (Entity × Entity × Attribute) :=
  match c.entity? request.source with
  | none => .error (.missingSource request.source)
  | some source =>
    match c.entity? request.target with
    | none => .error (.missingTarget request.target)
    | some target =>
      match source.attribute? request.name with
      | none => .error (.missingAssociation request.source request.name)
      | some a => .ok (source, target, a)

/-- The junction entity that a request asks for; none if an entity is
mapped to its table already. -/
def synthesize (c : Catalog) (separator : String) (request : JunctionRequest) :
    Except Fault (Option Entity) := do
  let (source, target, a) ← (c.requested request).mapError JunctionProblem.fault
  let table := junctionTable separator source target a
  -- Any entity of the table will do, also a declared one.
  if (c.entitiesOfTable table).isEmpty then
    let draft ← (c.draftJunction request table source target a).mapError JunctionProblem.fault
    return some (← draft.build)
  else
    return none

end Catalog

end SchemaLinker
