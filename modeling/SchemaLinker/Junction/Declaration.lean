import SchemaLinker.Entity
import SchemaLinker.Identifier

/-!
# `SchemaLinker.Junction.Declaration`: the junction that nobody wrote down

Where an association leaves its junction open, the table has one column
for each side, named after the side's table and `Id`. Where both names
would be the same, the second also carries the association's name.
-/

set_option autoImplicit false

namespace SchemaLinker

/-- A column that follows the deletes and updates of the entity it
refers to. -/
def JunctionColumn.following (name : String) (referenced : Path) : JunctionColumn where
  name := name
  referenced := some referenced
  onDelete := .cascade
  onUpdate := .cascade

/-- The junction between two entities for the association `association`
of the first. -/
def JunctionDeclaration.between (name : String) (source target : Entity) (association : String) :
    JunctionDeclaration :=
  let first := source.tableName ++ "Id"
  let plain := target.tableName ++ "Id"
  -- Two sides of one table, as in an association of an entity with itself.
  let second :=
    if first = plain then
      target.tableName ++ (Identifier.ofString association).upperCamelCase ++ "Id"
    else plain
  { name := name
    columns := [.following first source.ty, .following second target.ty]
    origin := .derived }

end SchemaLinker
