import SchemaLinker.Entity

/-!
# `SchemaLinker.Embeddables`: attributes that stand for groups of attributes

An attribute that is no association and whose type names an embeddable
stands for the embeddable's attributes, each named
`outer_inner` and nullable when either is. `Embeddables.flatten`
replaces all such attributes of an entity, however deep embeddables sit
in each other. An embeddable is never replaced inside itself: an
attribute that would do so is kept as it is. Of two attributes with one
name the first is kept.

`Embeddables.absorb` counts the levels it may still descend. The count
starts at the number of embeddables; each level opens one that is not
open yet, so it never stops an expansion.
-/

set_option autoImplicit false

namespace SchemaLinker

/-- Embeddables under the paths that name them. -/
abbrev Embeddables := OrderedMap Path Embeddable

/-- An attribute of an embeddable as `outer` takes it over. -/
def Attribute.nestedIn (inner outer : Attribute) : Attribute :=
  { inner with
    name := outer.name ++ "_" ++ inner.name
    nullable := inner.nullable || outer.nullable }

namespace Embeddables

/-- The embeddable that a path names: the one under the path itself,
else the first whose type the path names. -/
def named? (t : Embeddables) (p : Path) : Option Embeddable :=
  (t.get? p).or (t.values.find? fun e => e.ty.isNamedBy p)

/-- The embeddable that an attribute stands for. -/
def embeddedBy? (t : Embeddables) (a : Attribute) : Option Embeddable :=
  if a.isAssociation then none else a.ty.path?.bind t.named?

/-- Adds to `out` what an attribute stands for inside the embeddables
`opened`, descending at most `depth` levels. -/
def absorb (t : Embeddables) :
    (depth : Nat) → (opened : List Path) → (out : OrderedMap String Attribute) → Attribute →
      OrderedMap String Attribute
  | 0, _, out, a => out.insertIfNew a.name a
  | depth + 1, opened, out, a =>
    -- An embeddable that is open already stays a plain attribute.
    match (t.embeddedBy? a).filter fun e => !opened.contains e.ty with
    | none => out.insertIfNew a.name a
    | some e =>
      e.attributes.values.foldl
        (fun out inner => absorb t depth (e.ty :: opened) out (inner.nestedIn a)) out

/-- The attributes that a list of attributes stands for, under their
names. -/
def flattenAttributes (t : Embeddables) (attributes : List Attribute) :
    OrderedMap String Attribute :=
  attributes.foldl (t.absorb t.size []) .empty

/-- The entity with every embedded attribute replaced by what it stands
for. An entity without one is left as it is. -/
def flatten (t : Embeddables) (e : Entity) : Entity :=
  if e.attributes.values.any fun a => (t.embeddedBy? a).isSome then
    { e with attributes := t.flattenAttributes e.attributes.values }
  else e

/-- Flattening keeps the type of an entity. -/
@[simp] theorem flatten_ty (t : Embeddables) (e : Entity) : (t.flatten e).ty = e.ty := by
  simp only [flatten]
  split <;> rfl

end Embeddables

end SchemaLinker
