import SchemaLinker.Catalog.Basic
import SchemaLinker.Diagnostic

/-!
# `SchemaLinker.Review.Finding`: what a review may find about an attribute

Every rule of the review has its finding. A finding knows its severity
and its words; together with the attribute it is about it is a
diagnostic.
-/

set_option autoImplicit false

namespace SchemaLinker

/-- What a review may find about an attribute. -/
inductive Finding
  /-- Several types share the simple name that the attribute refers to. -/
  | ambiguousName (first : Path) (others : List Path) (policy : NamePolicy)
  /-- A plain column has the type of an entity. -/
  | plainReference (target : Path)
  /-- An association refers to nothing that is there. -/
  | unresolvedTarget (description : String)
  /-- A one-to-one association that no attribute maps back to is no
  foreign key. -/
  | unkeyedOneToOne
  /-- No attribute maps back to a one-to-many association. -/
  | missingManyToOne (target : Path)
  /-- The attribute on the other side is a plain column. -/
  | inverseWithoutRelationship (source : AttributeId) (cardinality : Cardinality)
      (mapped : AttributeId)
  /-- The two sides do not agree on the cardinality. -/
  | inverseMismatch (source : AttributeId) (cardinality : Cardinality) (mapped : AttributeId)
      (actual : Cardinality)
  /-- Neither side of a many-to-many association declares the junction. -/
  | junctionUndeclared (source mapped : AttributeId)
  /-- Both sides of a many-to-many association declare the junction. -/
  | junctionDeclaredTwice (source mapped : AttributeId)
  /-- Neither side of a one-to-one association is a foreign key. -/
  | foreignKeyUndeclared
  /-- Both sides of a one-to-one association are foreign keys. -/
  | foreignKeyDeclaredTwice (source mapped : AttributeId)
  /-- Several attributes map back to the association. -/
  | ambiguousInverse (target : Path) (first : String) (others : List String)
  /-- A foreign key on an association refers to nothing that is there. -/
  | danglingForeignKey (name : String)
  /-- The attribute that a foreign key stores is not there: the column of
  this name, or else the primary key. -/
  | missingColumn (column : Option String) (target : Path)
  /-- The target of a foreign key has a foreign key that leads back. -/
  | circularForeignKey (source target : Path) (via : AttributeId)
  /-- The junction of an association could not be made. -/
  | junctionFailed (reason : String)
deriving DecidableEq

namespace Finding

/-- A text between backquotes. -/
def ticked {α : Type} [ToString α] (a : α) : String := "`" ++ toString a ++ "`"

/-- Texts between backquotes, with commas between them. -/
def tickedList {α : Type} [ToString α] (l : List α) : String := ", ".intercalate (l.map ticked)

/-- How grave a finding is. A shared name is an error only where the
policy leaves it undecided. -/
def severity : Finding → Severity
  | ambiguousName _ _ .firstMatch => .warning
  | unresolvedTarget _ => .warning
  | ambiguousInverse _ _ _ => .warning
  | missingColumn _ _ => .warning
  | circularForeignKey _ _ _ => .warning
  | _ => .error

/-- The finding in words. -/
def message : Finding → String
  | ambiguousName first others policy =>
    let matched := "type name " ++ ticked first.simpleName ++ " is ambiguous; matches " ++
      tickedList (first :: others)
    match policy with
    | .firstMatch => matched ++ "; using " ++ ticked first
    | .strict => matched
  | plainReference target =>
    "entity reference " ++ ticked target ++ " is missing a relationship annotation"
  | unresolvedTarget description => "couldn't find referenced element " ++ ticked description
  | unkeyedOneToOne => "single-sided OneToOne must declare a foreign key"
  | missingManyToOne target => "no matching ManyToOne found on " ++ ticked target
  | inverseWithoutRelationship source cardinality mapped =>
    ticked source ++ " is " ++ toString cardinality ++ " but its mapped attribute " ++
      ticked mapped ++ " has no relationship; expected " ++ toString cardinality.inverse
  | inverseMismatch source cardinality mapped actual =>
    ticked source ++ " is " ++ toString cardinality ++ " but its mapped attribute " ++
      ticked mapped ++ " is " ++ toString actual ++ "; expected " ++ toString cardinality.inverse
  | junctionUndeclared source mapped =>
    "ManyToMany must declare the junction on one side (" ++ ticked source ++ " or " ++
      ticked mapped ++ ")"
  | junctionDeclaredTwice source mapped =>
    "only one side of a ManyToMany may declare the junction; " ++ ticked source ++ " and " ++
      ticked mapped ++ " both do"
  | foreignKeyUndeclared => "OneToOne must specify ForeignKey on one side"
  | foreignKeyDeclaredTwice source mapped =>
    "OneToOne must specify ForeignKey on only one side; " ++ ticked source ++ " and " ++
      ticked mapped ++ " both do"
  | ambiguousInverse target first others =>
    "ambiguous mapping: " ++ toString (others.length + 1) ++ " attributes on " ++ ticked target ++
      " map back to this attribute (" ++ tickedList (first :: others) ++ "); using " ++
      ticked first
  | danglingForeignKey name => "foreign key " ++ ticked name ++ " references an unknown entity"
  | missingColumn column target =>
    let missing := match column with
      | some name => "column " ++ ticked name
      | none => "key attribute"
    "couldn't find referenced " ++ missing ++ " on " ++ ticked target
  | circularForeignKey source target via =>
    "circular foreign key reference between " ++ ticked source ++ " and " ++ ticked target ++
      " (via " ++ ticked via ++ ")"
  | junctionFailed reason => "couldn't synthesize junction: " ++ reason

/-- The finding as a diagnostic about an attribute. -/
def diagnostic (f : Finding) (subject : AttributeId) : Diagnostic :=
  ⟨f.severity, subject, f.message⟩

end Finding

end SchemaLinker
