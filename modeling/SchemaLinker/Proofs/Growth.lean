import SchemaLinker.Proofs.Intake
import SchemaLinker.Proofs.Synthesis

/-!
# `SchemaLinker.Proofs.Growth`: how far a catalog can grow by junctions

While a catalog grows, what an attribute refers to may change. A table may
come to have an entity. A name that found nothing, or found an entity by
its simple name, may come to be the type of one. A name may come to be
shared. But the entities of a catalog stay in place and new ones go to the
end, so over the whole growth an attribute refers to at most two entities:
the one of the type it names, and the first of the simple name.

`Catalog.possibleTargets` are these two, seen in the grown catalog, and
`Catalog.possibleTables` the tables that junctions of its many-to-many
associations may get: at most twice as many as there are associations.
Both keep their members while the catalog grows.

`Catalog.GrownBy` says that a catalog grew by some junctions with
different possible tables. There are at most twice as many of them as
there were many-to-many associations (`GrownBy.length_le`).
-/

set_option autoImplicit false

namespace SchemaLinker

namespace Catalog

/-- The first that passes a test stays the first when a list grows at the
end. -/
theorem mem_head?_filter_of_isPrefix {α : Type} {p : α → Bool} {l m : List α} (h : l <+: m)
    {x : α} (hx : (l.filter p).head? = some x) : (m.filter p).head? = some x := by
  obtain ⟨rest, rfl⟩ := h
  rw [List.filter_append, List.head?_append, hx]
  rfl

/-- An entity that is found is found later, too. -/
theorem entity?_of_isPrefix {c d : Catalog} (h : c.entities <+: d.entities) {ty : Path}
    {e : Entity} (he : c.entity? ty = some e) : d.entity? ty = some e := by
  obtain ⟨hmem, hty⟩ := entity?_eq_some_iff.1 he
  exact entity?_eq_some_iff.2 ⟨h.subset hmem, hty⟩

/-- The entities that a path may lead to: the one of that type, and the
first of that simple name. -/
def possibleEntities (c : Catalog) (p : Path) : List Entity :=
  (c.entity? p).toList ++ (c.entitiesNamed p.simpleName).head?.toList

/-- The entities that an attribute may refer to, now or before. -/
def possibleTargets (c : Catalog) (a : Attribute) : List Entity :=
  match a.referencedTable with
  | some table => (c.entitiesOfTable table).head?.toList
  | none =>
    match (a.referencedType.getD a.ty).element.path? with
    | some p => c.possibleEntities p
    | none => []

/-- An option has one value at most. -/
theorem length_toList_le {α : Type} (x : Option α) : x.toList.length ≤ 1 := by
  cases x <;> simp

/-- An attribute may refer to two entities at most. -/
theorem length_possibleTargets_le (c : Catalog) (a : Attribute) :
    (c.possibleTargets a).length ≤ 2 := by
  simp only [possibleTargets]
  split
  · rename_i table _
    have hone := length_toList_le (c.entitiesOfTable table).head?
    omega
  · split
    · rename_i p _
      have hty := length_toList_le (c.entity? p)
      have hname := length_toList_le (c.entitiesNamed p.simpleName).head?
      simp only [possibleEntities]
      rw [List.length_append]
      omega
    · exact Nat.zero_le 2

/-- What a path leads to by its type or its simple name is possible. -/
theorem mem_possibleEntities {c : Catalog} {p : Path} {t : Entity}
    (h : c.entity? p = some t ∨ c.entityOfName? p.simpleName = some t) :
    t ∈ c.possibleEntities p := by
  simp only [possibleEntities]
  rw [List.mem_append, Option.mem_toList, Option.mem_toList]
  exact h.imp_right head?_of_entityOfName?

/-- What an attribute refers to is possible. -/
theorem mem_possibleTargets {c : Catalog} {a : Attribute} {t : Entity}
    (h : c.target? a = some t) : t ∈ c.possibleTargets a := by
  simp only [target?] at h
  simp only [possibleTargets]
  cases htable : a.referencedTable with
  | some table =>
    rw [htable] at h
    show t ∈ (c.entitiesOfTable table).head?.toList
    rw [entityOfTable?_eq_some_iff.1 h]
    exact List.mem_singleton_self t
  | none =>
    rw [htable] at h
    -- Without a table the type decides, the one it names or its own.
    cases hty : a.referencedType with
    | some ty =>
      rw [hty] at h
      obtain ⟨p, hp, hfound⟩ := Option.bind_eq_some_iff.1 h
      show t ∈ match ty.element.path? with | some p => c.possibleEntities p | none => []
      rw [hp]
      apply mem_possibleEntities
      simp only [entityOfPath?] at hfound
      rcases Option.or_eq_some_iff.1 hfound with hentity | ⟨-, hname⟩
      · exact Or.inl hentity
      · split at hname
        · cases hname
        · exact Or.inr hname
    | none =>
      rw [hty] at h
      dsimp only at h
      simp only [entityOfType?] at h
      obtain ⟨p, hp, hfound⟩ := Option.bind_eq_some_iff.1 h
      show t ∈ match a.ty.element.path? with | some p => c.possibleEntities p | none => []
      rw [hp]
      apply mem_possibleEntities
      exact (Option.or_eq_some_iff.1 hfound).imp_right fun hname => hname.2

/-- What was possible stays possible while a catalog grows. -/
theorem mem_possibleTargets_of_isPrefix {c d : Catalog} (h : c.entities <+: d.entities)
    {a : Attribute} {t : Entity} (ht : t ∈ c.possibleTargets a) : t ∈ d.possibleTargets a := by
  simp only [possibleTargets] at ht ⊢
  split at ht
  · rw [Option.mem_toList] at ht ⊢
    exact mem_head?_filter_of_isPrefix h ht
  · split at ht
    · unfold possibleEntities at ht ⊢
      rw [List.mem_append, Option.mem_toList, Option.mem_toList] at ht ⊢
      exact ht.imp (entity?_of_isPrefix h) (mem_head?_filter_of_isPrefix h)
    · cases ht

/-- The many-to-many associations with their entities. -/
def manyToMany (c : Catalog) : List (Entity × Attribute) :=
  c.visits.filter fun v => v.2.isManyToMany

/-- The tables that the junctions of the catalog's associations may get,
now or before. -/
def possibleTables (c : Catalog) (separator : String) : List String :=
  c.manyToMany.flatMap fun v =>
    (c.possibleTargets v.2).map fun t => junctionTable separator v.1 t v.2

/-- There are at most two possible tables for each association. -/
theorem length_possibleTables_le (c : Catalog) (separator : String) :
    (c.possibleTables separator).length ≤ 2 * c.manyToMany.length := by
  have hlist : ∀ l : List (Entity × Attribute),
      (l.flatMap fun v => (c.possibleTargets v.2).map fun t =>
        junctionTable separator v.1 t v.2).length ≤ 2 * l.length := by
    intro l
    induction l with
    | nil => exact Nat.le_refl 0
    | cons v rest ih =>
      -- One table for each possible target, so two for this association.
      have htwo := length_possibleTargets_le c v.2
      rw [List.flatMap_cons, List.length_append, List.length_map, List.length_cons]
      omega
  exact hlist c.manyToMany

/-- Tables that were possible stay possible while a catalog grows. -/
theorem mem_possibleTables_of_isPrefix {c d : Catalog} (h : c.entities <+: d.entities)
    {separator : String} {table : String} (ht : table ∈ c.possibleTables separator) :
    table ∈ d.possibleTables separator := by
  obtain ⟨v, hv, hmap⟩ := List.mem_flatMap.1 ht
  obtain ⟨t, htarget, rfl⟩ := List.mem_map.1 hmap
  obtain ⟨hvisit, hmany⟩ := List.mem_filter.1 hv
  have hgrown : v ∈ d.manyToMany := by
    obtain ⟨hentity, hattribute⟩ := mem_visits.1 hvisit
    exact List.mem_filter.2 ⟨mem_visits.2 ⟨h.subset hentity, hattribute⟩, hmany⟩
  exact List.mem_flatMap.2 ⟨v, hgrown,
    List.mem_map.2 ⟨t, mem_possibleTargets_of_isPrefix h htarget, rfl⟩⟩

/-- The table of an association's junction is possible. -/
theorem RequestOf.mem_possibleTables {c : Catalog} {oneSided : Bool} {q : JunctionRequest}
    {e t : Entity} {a : Attribute} (h : c.RequestOf oneSided q e a t) (separator : String) :
    junctionTable separator e t a ∈ c.possibleTables separator := by
  have hmany : (e, a) ∈ c.manyToMany :=
    List.mem_filter.2 ⟨h.visited, by simp [Attribute.isManyToMany, h.cardinality]⟩
  exact List.mem_flatMap.2 ⟨(e, a), hmany,
    List.mem_map.2 ⟨t, mem_possibleTargets h.target, rfl⟩⟩

/-- Entities without associations add none. -/
theorem manyToMany_of_append {b c : Catalog} {new : List Entity}
    (hentities : c.entities = b.entities ++ new)
    (hplain : ∀ j ∈ new, ∀ a ∈ j.attributes.values, a.isAssociation = false) :
    c.manyToMany = b.manyToMany := by
  simp only [manyToMany, visits]
  rw [hentities, List.flatMap_append, List.filter_append]
  have hnone : (new.flatMap fun e => e.attributes.values.map fun a => (e, a)).filter
      (fun v => v.2.isManyToMany) = [] := by
    refine List.filter_eq_nil_iff.2 fun v hv hmany => ?_
    obtain ⟨j, hj, hmap⟩ := List.mem_flatMap.1 hv
    obtain ⟨a, ha, rfl⟩ := List.mem_map.1 hmap
    have hassoc : a.isAssociation = false := hplain j hj a ha
    simp only [Attribute.isManyToMany] at hmany
    simp only [Attribute.isAssociation] at hassoc
    rw [beq_iff_eq.1 hmany] at hassoc
    cases hassoc
  rw [hnone, List.append_nil]

/-- The catalog `c` is `b` and, behind it, junctions with different
possible tables. -/
structure GrownBy (separator : String) (b c : Catalog) (new : List Entity) : Prop where
  entities : c.entities = b.entities ++ new
  apart : new.Pairwise fun i j => ¬Text.sameFolded i.tableName j.tableName = true
  plain : ∀ j ∈ new, ∀ a ∈ j.attributes.values, a.isAssociation = false
  possible : ∀ j ∈ new, j.tableName ∈ c.possibleTables separator

/-- A catalog is itself, without a junction behind it. -/
theorem grownBy_nil (separator : String) (b : Catalog) : GrownBy separator b b [] where
  entities := (List.append_nil _).symm
  apart := List.Pairwise.nil
  plain j hj := by cases hj
  possible j hj := by cases hj

/-- A catalog that receives a junction of a vacant possible table has grown
by junctions only. -/
theorem GrownBy.receive {separator : String} {b c : Catalog} {new : List Entity}
    (h : GrownBy separator b c new)
    (hembeddables : ∀ m ∈ c.embeddables.values, ∀ a ∈ m.attributes.values,
      a.isAssociation = false)
    {e : Entity} (hplain : ∀ a ∈ e.attributes.values, a.isAssociation = false)
    (hvacant : c.entitiesOfTable e.tableName = [])
    (hpossible : e.tableName ∈ c.possibleTables separator) :
    ∃ more, GrownBy separator b (c.receive e) more := by
  rcases receive_cases c e with hsame | ⟨hnew, -, -, happ⟩
  · rw [hsame]
    exact ⟨new, h⟩
  · have hentities : (c.receive e).entities = c.entities ++ [c.embeddables.flatten e] := by
      rw [happ]
      rfl
    have hgrown := isPrefix_receive c e
    refine ⟨new ++ [c.embeddables.flatten e], ?_, ?_, ?_, ?_⟩
    · show (c.receive e).entities = b.entities ++ (new ++ [c.embeddables.flatten e])
      rw [hentities, h.entities, List.append_assoc]
    · refine List.pairwise_append.2 ⟨h.apart, List.pairwise_singleton _ _, ?_⟩
      intro i hi j hj htable
      rw [List.mem_singleton.1 hj, Embeddables.flatten_tableName] at htable
      -- The earlier junction is resident, and the table was vacant.
      have hresident : i ∈ c.entities := by
        rw [h.entities]
        exact List.mem_append_right _ hi
      have hmem : i ∈ c.entitiesOfTable e.tableName :=
        mem_entitiesOfTable.2 ⟨hresident, htable⟩
      rw [hvacant] at hmem
      cases hmem
    · intro j hj
      show ∀ a ∈ j.attributes.values, a.isAssociation = false
      rcases List.mem_append.1 hj with hold | hlast
      · exact h.plain j hold
      · rw [List.mem_singleton.1 hlast]
        exact Embeddables.not_isAssociation_flatten hembeddables hplain
    · intro j hj
      show j.tableName ∈ (c.receive e).possibleTables separator
      rcases List.mem_append.1 hj with hold | hlast
      · exact mem_possibleTables_of_isPrefix hgrown (h.possible j hold)
      · rw [List.mem_singleton.1 hlast, Embeddables.flatten_tableName]
        exact mem_possibleTables_of_isPrefix hgrown hpossible

/-- A catalog grows by at most two junctions for each association that it
had. -/
theorem GrownBy.length_le {separator : String} {b c : Catalog} {new : List Entity}
    (h : GrownBy separator b c new) : new.length ≤ 2 * b.manyToMany.length := by
  -- The tables are different and all possible, so they can be counted there.
  have hdistinct : (new.map Entity.tableName).Nodup := by
    simp only [List.Nodup]
    rw [List.pairwise_map]
    refine h.apart.imp ?_
    intro i j hapart heq
    rw [heq] at hapart
    exact hapart (Text.equivalence_sameFolded.refl j.tableName)
  have hpossible : new.map Entity.tableName ⊆ c.possibleTables separator := by
    intro table htable
    obtain ⟨j, hj, rfl⟩ := List.mem_map.1 htable
    exact h.possible j hj
  calc new.length = (new.map Entity.tableName).length := (List.length_map _).symm
    _ ≤ (c.possibleTables separator).length := hdistinct.length_le_of_subset hpossible
    _ ≤ 2 * c.manyToMany.length := length_possibleTables_le c separator
    _ = 2 * b.manyToMany.length := by rw [manyToMany_of_append h.entities h.plain]

end Catalog

end SchemaLinker
