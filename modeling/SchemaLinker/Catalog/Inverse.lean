import SchemaLinker.Catalog.Reference
import SchemaLinker.Identifier

/-!
# `SchemaLinker.Catalog.Inverse`: the other side of an association

The candidates for an association's other side are the associations of
its target that refer back to its entity and are not mapped by another
attribute. Several candidates are narrowed down, first to those mapped
by the association, then to those named after the entity or its table;
a narrowing that would leave nothing is skipped. An association that
says itself by which attribute it is mapped has that attribute as its
only candidate.

* `narrow_ne_nil`: narrowing never empties a list.
-/

set_option autoImplicit false

namespace SchemaLinker.Catalog

/-- The elements that pass a test, or all of them if none does or there
is nothing to choose. -/
def narrow {α : Type} (p : α → Bool) (l : List α) : List α :=
  if 1 < l.length ∧ l.any p then l.filter p else l

/-- The associations of `target` that refer back to `entity` and are
mapped by `a` or by nothing. -/
def backReferences (c : Catalog) (entity : Entity) (a : Attribute) (target : Entity) :
    List Attribute :=
  target.associations.filter fun b =>
    b.mappedBy.all (· == a.name) && (c.target? b).any fun t => t.ty == entity.ty

/-- An attribute is named after an entity by its simple name in snake
case, or by its table, ASCII case set aside. -/
def namedAfter (entity : Entity) (b : Attribute) : Bool :=
  b.name == (Identifier.ofString entity.ty.simpleName).snakeCase ||
    Text.sameFolded b.name entity.tableName

/-- The attributes of `target` to which the association `a` of `entity`
maps. -/
def mappedAttributes (c : Catalog) (entity : Entity) (a : Attribute) (target : Entity) :
    List Attribute :=
  match a.mappedBy with
  | some name => (target.attribute? name).toList
  | none =>
    narrow (namedAfter entity)
      (narrow (fun b => b.mappedBy == some a.name) (c.backReferences entity a target))

/-- The other sides of an association: what it maps to, itself left
out. -/
def inverses (c : Catalog) (entity : Entity) (a : Attribute) (target : Entity) :
    List Attribute :=
  (c.mappedAttributes entity a target).filter fun b =>
    !(target.ty == entity.ty && b.name == a.name)

/-- Narrowing leaves something of a list that has something. -/
theorem narrow_ne_nil {α : Type} {p : α → Bool} {l : List α} (h : l ≠ []) : narrow p l ≠ [] := by
  simp only [narrow]
  split
  · next hp =>
    obtain ⟨x, hx, hpx⟩ := List.any_eq_true.1 hp.2
    exact List.ne_nil_of_mem (List.mem_filter.2 ⟨hx, hpx⟩)
  · exact h

/-- It adds nothing, and keeps the order. -/
theorem narrow_sublist {α : Type} (p : α → Bool) (l : List α) : (narrow p l).Sublist l := by
  simp only [narrow]
  split
  · exact List.filter_sublist
  · exact List.Sublist.refl l

end SchemaLinker.Catalog
