import SchemaLinker.Catalog.Basic

/-!
# `SchemaLinker.Catalog.Reference`: what attributes refer to

An attribute refers to an entity by a table, by a type it names as its
reference, or by its own type, in this order of precedence. A type is
looked up by its path first. A simple name finds an entity of that name,
and where several share it the catalog's policy decides.

* `Catalog.target?`: the entity that an attribute refers to.
* `Catalog.targetColumn?`: the attribute of it that a foreign key stores.
* `Catalog.ambiguousTargets`: the entities among which a policy had to
  decide.
-/

set_option autoImplicit false

namespace SchemaLinker.Catalog

/-- The entity of a simple name, as the policy decides. -/
def entityOfName? (c : Catalog) (name : String) : Option Entity :=
  match c.policy with
  | .firstMatch => (c.entitiesNamed name).head?
  | .strict => only? (c.entitiesNamed name)

/-- The entity that a path names: the one of that type, else, for a path
without a package, the one of that simple name. -/
def entityOfPath? (c : Catalog) (p : Path) : Option Entity :=
  (c.entity? p).or (if p.hasPackage then none else c.entityOfName? p.simpleName)

/-- The entity that a type mentions, collections looked into one level
deep: the one of that type, else the one of its simple name. -/
def entityOfType? (c : Catalog) (t : DataType) : Option Entity :=
  -- Unlike in `entityOfPath?`, a package does not keep the simple name from being tried.
  t.element.path?.bind fun p => (c.entity? p).or (c.entityOfName? p.simpleName)

/-- The entity that an attribute refers to. -/
def target? (c : Catalog) (a : Attribute) : Option Entity :=
  match a.referencedTable, a.referencedType with
  | some table, _ => c.entityOfTable? table
  | none, some ty => ty.element.path?.bind c.entityOfPath?
  | none, none => c.entityOfType? a.ty

/-- The attribute of `target` that a foreign key stores: the column it
names, else the primary key; of a key of several attributes the first
with the foreign key's own type. -/
def targetColumn? (a : Attribute) (target : Entity) : Option Attribute :=
  match a.referencedColumn with
  | some column => target.attribute? column
  | none =>
    match target.keyAttributes with
    | [key] => some key
    | keys => keys.find? fun key => key.ty == a.ty

/-- The path by which an attribute refers to an entity without naming
one type: of a reference type only if it has no package. -/
def loosePath? (a : Attribute) : Option Path :=
  match a.referencedTable, a.referencedType with
  | some _, _ => none
  | none, some ty => ty.element.path?.filter fun p => !p.hasPackage
  | none, none => a.ty.element.path?

/-- The entities among which the policy decides what an attribute refers
to; none if there is nothing to decide. -/
def ambiguousTargets (c : Catalog) (a : Attribute) : List Entity :=
  match loosePath? a with
  | none => []
  | some p =>
    if (c.entity? p).isSome then []
    else
      -- The path is no type of its own, so its simple name decides.
      let candidates := c.entitiesNamed p.simpleName
      if 1 < candidates.length then candidates else []

end SchemaLinker.Catalog
