/-!
# `SchemaLinker.Relationship`: the words of relationships

How many rows stand on the two sides of an association, what a database
does to the rows that refer to a row it deletes or updates, and which
operations on an entity reach the entities it is associated with. Such
operations form a set that remembers their order (`CascadeSet`).
-/

set_option autoImplicit false

namespace SchemaLinker

/-- How many rows stand on the two sides of an association, the
declaring side first. -/
inductive Cardinality
  | oneToOne
  | oneToMany
  | manyToOne
  | manyToMany
deriving DecidableEq

namespace Cardinality

/-- The cardinality as the other side declares it. -/
def inverse : Cardinality → Cardinality
  | oneToOne => oneToOne
  | oneToMany => manyToOne
  | manyToOne => oneToMany
  | manyToMany => manyToMany

/-- Whether the other side may hold many rows. -/
def isToMany : Cardinality → Bool
  | oneToMany => true
  | manyToMany => true
  | _ => false

/-- The word for a cardinality. -/
protected def toString : Cardinality → String
  | oneToOne => "OneToOne"
  | oneToMany => "OneToMany"
  | manyToOne => "ManyToOne"
  | manyToMany => "ManyToMany"

instance : ToString Cardinality := ⟨Cardinality.toString⟩

end Cardinality

/-- What happens to the rows that refer to a row that is deleted or
updated. -/
inductive ReferentialAction
  | cascade
  | setNull
  | setDefault
  | restrict
  | noAction
deriving DecidableEq

/-- The action as a database writes it. -/
protected def ReferentialAction.toString : ReferentialAction → String
  | cascade => "CASCADE"
  | setNull => "SET NULL"
  | setDefault => "SET DEFAULT"
  | restrict => "RESTRICT"
  | noAction => "NO ACTION"

instance : ToString ReferentialAction := ⟨ReferentialAction.toString⟩

/-- An operation that reaches the associated entities. -/
inductive CascadeAction
  | save
  | delete
deriving DecidableEq

/-- A set of operations in the order in which they first came. -/
structure CascadeSet where
  actions : List CascadeAction
  /-- No operation stands twice. -/
  distinct : actions.Nodup

namespace CascadeSet

/-- A set is its operations in their order. -/
theorem ext {s t : CascadeSet} (h : s.actions = t.actions) : s = t := by
  cases s; cases t; simp_all

instance : DecidableEq CascadeSet := fun s t =>
  decidable_of_iff (s.actions = t.actions) ⟨ext, fun h => h ▸ rfl⟩

/-- No operation. -/
def empty : CascadeSet := ⟨[], List.nodup_nil⟩

/-- Adds an operation at the end unless it is there. -/
def insert (s : CascadeSet) (a : CascadeAction) : CascadeSet :=
  if h : a ∈ s.actions then s
  else ⟨s.actions ++ [a], by
    refine List.nodup_append.2 ⟨s.distinct, by simp, ?_⟩
    intro x hx y hy
    rw [List.mem_singleton] at hy
    exact fun hxy => h (hy ▸ hxy ▸ hx)⟩

/-- The operations of a list, each at its first place. -/
def ofList (l : List CascadeAction) : CascadeSet := l.foldl insert empty

/-- The same operations, in whatever order. -/
def agrees (s t : CascadeSet) : Bool :=
  s.actions.length == t.actions.length && s.actions.all (t.actions.contains ·)

end CascadeSet

end SchemaLinker
