import SchemaLinker.Junction.Synthesis
import SchemaLinker.Proofs.Review

/-!
# `SchemaLinker.Proofs.Synthesis`: what a request for a junction leads to

A request of a review names a visited association and its target, and
they are found again: `Catalog.RequestOf`, `requestOf_of_mem_requests`.

`Catalog.synthesize` answers a request in one of three ways.
`synthesize_eq_none_iff`: nothing is made exactly when the request names
entities and an attribute that are there and the junction's table is
resident. `junctionOf_of_synthesize`: what is made is a `JunctionOf` the
association, an entity of a new type for a vacant table whose columns are
keys and foreign keys and no associations. `ty_of_synthesize` says where
the types of the columns come from. Every other request is a fault.

In between stand the columns of the junction's declaration.
`Catalog.KeyColumnOf` says all there is to say about the attribute that is
made for one of them, and `keyColumn_of_keyColumns` that they are made one by
one, in order. `synthesize_of_vacant` is the way forward: with these
attributes, a vacant table and an unknown type, the answer is what
`EntityDraft.build` answers.
-/

set_option autoImplicit false

namespace SchemaLinker

/-- A sequence of two steps succeeds with what the second makes of the
first. -/
theorem except_bind_eq_ok_iff {ε α β : Type} {x : Except ε α} {f : α → Except ε β} {b : β} :
    x >>= f = .ok b ↔ ∃ a, x = .ok a ∧ f a = .ok b := by
  cases x with
  | error e => simp [bind, Except.bind]
  | ok a => simp [bind, Except.bind]

/-- Renaming errors does not touch a result. -/
theorem except_mapError_eq_ok_iff {ε ε' α : Type} {x : Except ε α} {f : ε → ε'} {a : α} :
    x.mapError f = .ok a ↔ x = .ok a := by
  cases x with
  | error e =>
    constructor
    · intro h
      cases h
    · intro h
      cases h
  | ok b =>
    constructor
    · intro h
      cases h
      rfl
    · intro h
      cases h
      rfl

/-- The only key attribute is an attribute. -/
theorem Entity.mem_of_singleKey? {e : Entity} {key : Attribute} (h : e.singleKey? = some key) :
    key ∈ e.attributes.values := by
  simp only [singleKey?] at h
  split at h
  · rename_i a hkeys
    cases h
    have hmem : key ∈ e.keyAttributes := by
      rw [hkeys]
      exact List.mem_singleton_self key
    exact (List.mem_filter.1 hmem).1
  · cases h

/-- The type of the junction behind the association `a` between `e` and `t`. -/
def junctionType (separator : String) (e t : Entity) (a : Attribute) : Path :=
  e.ty.sibling (Identifier.ofString (junctionTable separator e t a)).upperCamelCase

/-- The columns of the junction, declared or made up. -/
def junctionColumns (separator : String) (e t : Entity) (a : Attribute) : List JunctionColumn :=
  (junctionDeclaration (junctionTable separator e t a) e t a).columns

/-- The draft of the junction with these key columns. -/
def junctionDraft (separator : String) (e t : Entity) (a : Attribute) (keys : List Attribute) :
    EntityDraft :=
  { EntityDraft.ofType (junctionType separator e t a) with
    tableName := some (junctionTable separator e t a)
    model := some e.model
    attributes := keys
    synthesized := true }

namespace Catalog

/-- A request names two residents and an attribute of the first. -/
theorem requested_eq_ok_iff {c : Catalog} {q : JunctionRequest} {e t : Entity} {a : Attribute} :
    c.requested q = .ok (e, t, a) ↔
      c.entity? q.source = some e ∧ c.entity? q.target = some t ∧ e.attribute? q.name = some a := by
  simp only [requested]
  cases he : c.entity? q.source with
  | none => simp
  | some source =>
    cases ht : c.entity? q.target with
    | none => simp
    | some target =>
      constructor
      · intro h
        dsimp only at h
        split at h
        · cases h
        · rename_i found ha
          cases h
          exact ⟨rfl, rfl, ha⟩
      · rintro ⟨he', ht', ha⟩
        cases he'
        cases ht'
        dsimp only
        rw [ha]

/-- The request is one for the association `a` of `e` with the target
`t`. -/
structure RequestOf (c : Catalog) (oneSided : Bool) (q : JunctionRequest) (e : Entity)
    (a : Attribute) (t : Entity) : Prop where
  visited : (e, a) ∈ c.visits
  cardinality : a.cardinality = some .manyToMany
  target : c.target? a = some t
  /-- Without another side the association declares the junction, or
  one-sided ones get one. Another side does not declare it. -/
  sides : c.inverses e a t = [] ∧ (a.junction.isSome ∨ oneSided) ∨
    ∃ b, c.inverses e a t = [b] ∧ b.junction = none
  request : q = ⟨e.ty, t.ty, a.name⟩
  requested : c.requested q = .ok (e, t, a)

/-- Every request of the review of a keyed catalog is one for an
association that is visited. -/
theorem requestOf_of_mem_requests {c : Catalog} (hc : c.AllKeyed) {oneSided : Bool}
    {q : JunctionRequest} (h : q ∈ (c.review oneSided).requests) :
    ∃ e a t, c.RequestOf oneSided q e a t := by
  obtain ⟨⟨e, a⟩, hv, -, hwish⟩ := mem_requests h
  obtain ⟨t, hk, ht, rfl, hsides⟩ := wish?_eq_some hwish
  obtain ⟨he, ha⟩ := mem_visits.1 hv
  refine ⟨e, a, t, hv, hk, ht, hsides, rfl, requested_eq_ok_iff.2 ⟨?_, ?_, ?_⟩⟩
  · exact entity?_eq_some_iff.2 ⟨he, rfl⟩
  · exact entity?_eq_some_iff.2 ⟨mem_of_target? ht, rfl⟩
  · exact (Entity.attribute?_eq_some_iff (hc e he)).2 ⟨ha, rfl⟩

/-- Nothing is made exactly when the table is resident already. -/
theorem synthesize_eq_none_iff {c : Catalog} {separator : String} {q : JunctionRequest} :
    c.synthesize separator q = .ok none ↔
      ∃ e t a, c.requested q = .ok (e, t, a) ∧
        c.entitiesOfTable (junctionTable separator e t a) ≠ [] := by
  simp only [synthesize]
  rw [except_bind_eq_ok_iff]
  constructor
  · rintro ⟨⟨e, t, a⟩, hreq, h⟩
    refine ⟨e, t, a, except_mapError_eq_ok_iff.1 hreq, ?_⟩
    intro hvacant
    simp only [hvacant, List.isEmpty_nil, if_true] at h
    -- A vacant table leads to an entity or to a fault.
    obtain ⟨draft, -, h⟩ := except_bind_eq_ok_iff.1 h
    obtain ⟨j, -, h⟩ := except_bind_eq_ok_iff.1 h
    cases h
  · rintro ⟨e, t, a, hreq, hresident⟩
    refine ⟨(e, t, a), except_mapError_eq_ok_iff.2 hreq, ?_⟩
    simp only [List.isEmpty_iff, hresident, if_false]
    rfl

/-- Both sides of what a request names are residents. -/
theorem mem_of_requested {c : Catalog} {q : JunctionRequest} {e t : Entity} {a : Attribute}
    (h : c.requested q = .ok (e, t, a)) {f : Entity} (hf : f ∈ [e, t]) : f ∈ c.entities := by
  obtain ⟨he, ht, -⟩ := requested_eq_ok_iff.1 h
  rcases List.mem_cons.1 hf with rfl | hf
  · exact mem_of_entity? he
  · cases List.mem_singleton.1 hf
    exact mem_of_entity? ht

/-- What a column of a declaration refers to is resident if the side is. -/
theorem mem_of_columnTarget? {c : Catalog} {column : JunctionColumn} {side : Option Entity}
    {t : Entity} (h : c.columnTarget? column side = some t)
    (hside : ∀ e, side = some e → e ∈ c.entities) : t ∈ c.entities := by
  simp only [columnTarget?] at h
  split at h
  · exact mem_of_entityOfPath? h
  · exact hside t h

/-- The attribute `k` is made for the column `column` of a junction, whose place
belongs to the given side. -/
structure KeyColumnOf (c : Catalog) (column : JunctionColumn) (side : Option Entity)
    (k : Attribute) : Prop where
  name : k.name = column.name
  key : k.key = true
  foreignKey : k.foreignKey = true
  cardinality : k.cardinality = none
  junction : k.junction = none
  deleteAction : k.deleteAction = some column.onDelete
  updateAction : k.updateAction = some column.onUpdate
  referencedTable : k.referencedTable = none
  /-- The column refers to its target by the type. -/
  referencedType : ∀ t, c.columnTarget? column side = some t →
    k.referencedType = some (.named t.ty)
  /-- It stores the target's key, if that is one attribute. -/
  stored : ∀ t key, c.columnTarget? column side = some t → t.singleKey? = some key →
    k.ty = key.ty ∧ k.referencedColumn = some key.name
  /-- Without such a key it is an integer. -/
  integer : (∀ t key, c.columnTarget? column side = some t → t.singleKey? ≠ some key) →
    k.ty = .scalar .int64

/-- What is made for a column is a key column of it. -/
theorem keyColumnOf_of_keyColumn {c : Catalog} {table : String} {column : JunctionColumn}
    {side : Option Entity} {k : Attribute} (h : c.keyColumn table column side = .ok k) :
    c.KeyColumnOf column side k := by
  unfold keyColumn at h
  dsimp only at h
  split at h
  · cases h
  · rename_i referenced hreferenced
    cases h
    refine ⟨rfl, rfl, rfl, rfl, rfl, rfl, rfl, rfl, ?_, ?_, ?_⟩
    · intro t ht
      rw [ht] at hreferenced
      cases hreferenced
      rfl
    · intro t key ht hkey
      dsimp only
      rw [ht, Option.bind_some, hkey]
      exact ⟨rfl, rfl⟩
    · intro hnone
      have hkey : (c.columnTarget? column side).bind Entity.singleKey? = none := by
        rw [Option.bind_eq_none_iff]
        exact fun t ht => Option.eq_none_iff_forall_ne_some.2 fun key => hnone t key ht
      dsimp only
      rw [hkey]
      rfl

/-- A column that names an entity, or has a side, is made. -/
theorem exists_keyColumn (c : Catalog) (table : String) {column : JunctionColumn}
    {side : Option Entity} (h : column.referenced ≠ none ∨ side ≠ none) :
    ∃ k, c.keyColumn table column side = .ok k := by
  unfold keyColumn
  dsimp only
  split
  · rename_i hnone
    obtain ⟨htarget, hreferenced⟩ := Option.or_eq_none_iff.1 hnone
    refine absurd ?_ (h.resolve_left fun hne => hne hreferenced)
    simp only [columnTarget?] at htarget
    rw [hreferenced] at htarget
    exact Option.map_eq_none_iff.1 htarget
  · exact ⟨_, rfl⟩

/-- The key columns are made from the columns of the declaration one by one,
each with the side at its position, if there is one. -/
theorem keyColumn_of_keyColumns {c : Catalog} {table : String} {columns : List JunctionColumn}
    {sides : List Entity} {keys : List Attribute}
    (h : c.keyColumns table sides columns = .ok keys) :
    keys.length = columns.length ∧ ∀ (i : Nat) (column : JunctionColumn),
      columns[i]? = some column → ∃ k : Attribute, keys[i]? = some k ∧
        c.keyColumn table column sides[i]? = .ok k := by
  induction columns generalizing sides keys with
  | nil =>
    cases h
    exact ⟨rfl, fun i column hcolumn => by cases hcolumn⟩
  | cons first rest ih =>
    rw [keyColumns] at h
    obtain ⟨key, hkey, h⟩ := except_bind_eq_ok_iff.1 h
    obtain ⟨others, hothers, h⟩ := except_bind_eq_ok_iff.1 h
    cases h
    obtain ⟨hlength, hall⟩ := ih hothers
    refine ⟨congrArg (· + 1) hlength, fun i column hcolumn => ?_⟩
    cases i with
    | zero =>
      cases hcolumn
      exact ⟨key, rfl, by rw [← List.head?_eq_getElem?]; exact hkey⟩
    | succ i =>
      obtain ⟨k, hk, hcolumn⟩ := hall i column hcolumn
      exact ⟨k, hk, by rw [← List.getElem?_tail]; exact hcolumn⟩

/-- Columns that name an entity are made, whatever the sides. -/
theorem exists_keyColumns (c : Catalog) (table : String) (sides : List Entity)
    {columns : List JunctionColumn} (h : ∀ column ∈ columns, column.referenced ≠ none) :
    ∃ keys, c.keyColumns table sides columns = .ok keys := by
  induction columns generalizing sides with
  | nil => exact ⟨[], rfl⟩
  | cons first rest ih =>
    obtain ⟨key, hkey⟩ := c.exists_keyColumn table (Or.inl (h first List.mem_cons_self))
    obtain ⟨keys, hkeys⟩ := ih sides.tail fun column hc => h column (List.mem_cons_of_mem _ hc)
    refine ⟨key :: keys, ?_⟩
    rw [keyColumns, hkey]
    show c.keyColumns table sides.tail rest >>= _ = _
    rw [hkeys]
    rfl

/-- The key columns carry the names of the columns. -/
theorem map_name_of_keyColumns {c : Catalog} {table : String} {columns : List JunctionColumn}
    {sides : List Entity} {keys : List Attribute}
    (h : c.keyColumns table sides columns = .ok keys) :
    keys.map Attribute.name = columns.map JunctionColumn.name := by
  obtain ⟨hlength, hall⟩ := keyColumn_of_keyColumns h
  refine List.ext_getElem? fun i => ?_
  rw [List.getElem?_map, List.getElem?_map]
  cases hcolumn : columns[i]? with
  | none =>
    rw [List.getElem?_eq_none_iff, ← hlength] at hcolumn
    rw [List.getElem?_eq_none_iff.2 hcolumn]
    rfl
  | some column =>
    obtain ⟨k, hk, hmade⟩ := hall i column hcolumn
    rw [hk]
    exact congrArg some (keyColumnOf_of_keyColumn hmade).name

/-- So each key column is made from one of them, with one of the sides or
none. -/
theorem exists_keyColumnOf_of_mem {c : Catalog} {table : String} {columns : List JunctionColumn}
    {sides : List Entity} {keys : List Attribute}
    (h : c.keyColumns table sides columns = .ok keys) {k : Attribute} (hk : k ∈ keys) :
    ∃ column side, c.KeyColumnOf column side k ∧ ∀ e, side = some e → e ∈ sides := by
  obtain ⟨hlength, hall⟩ := keyColumn_of_keyColumns h
  obtain ⟨i, hi, rfl⟩ := List.getElem_of_mem hk
  obtain ⟨column, hcolumn⟩ : ∃ column, columns[i]? = some column :=
    ⟨_, List.getElem?_eq_getElem (hlength ▸ hi)⟩
  obtain ⟨k, hk, hmade⟩ := hall i column hcolumn
  rw [List.getElem?_eq_getElem hi] at hk
  cases hk
  exact ⟨_, _, keyColumnOf_of_keyColumn hmade, fun e he => List.mem_of_getElem? he⟩

/-- What is made on a request is built from a draft for a vacant table and
an unknown type, with the key columns of the junction's declaration. -/
theorem exists_draft_of_synthesize {c : Catalog} {separator : String} {q : JunctionRequest}
    {j : Entity} (h : c.synthesize separator q = .ok (some j)) :
    ∃ e t a keys, c.requested q = .ok (e, t, a) ∧
      c.entitiesOfTable (junctionTable separator e t a) = [] ∧
      c.entity? (junctionType separator e t a) = none ∧
      c.keyColumns (junctionTable separator e t a) [e, t] (junctionColumns separator e t a) =
        .ok keys ∧
      (junctionDraft separator e t a keys).build = .ok j := by
  simp only [synthesize] at h
  obtain ⟨⟨e, t, a⟩, hreq, h⟩ := except_bind_eq_ok_iff.1 h
  dsimp only at h
  split at h
  · -- The table is vacant, so a draft was made and built.
    rename_i hvacant
    obtain ⟨draft, hdraft, h⟩ := except_bind_eq_ok_iff.1 h
    obtain ⟨made, hbuild, h⟩ := except_bind_eq_ok_iff.1 h
    cases h
    have hdraft := except_mapError_eq_ok_iff.1 hdraft
    unfold draftJunction at hdraft
    dsimp only at hdraft
    split at hdraft
    · cases hdraft
    · rename_i hunknown
      obtain ⟨keys, hkeys, hdraft⟩ := except_bind_eq_ok_iff.1 hdraft
      cases hdraft
      exact ⟨e, t, a, keys, except_mapError_eq_ok_iff.1 hreq, List.isEmpty_iff.1 hvacant,
        hunknown, hkeys, hbuild⟩
  · cases h

/-- For a vacant table and an unknown type the answer is what is built with
the key columns of the junction's declaration. -/
theorem synthesize_of_vacant {c : Catalog} {separator : String} {q : JunctionRequest}
    {e t : Entity} {a : Attribute} {keys : List Attribute}
    (hrequested : c.requested q = .ok (e, t, a))
    (hvacant : c.entitiesOfTable (junctionTable separator e t a) = [])
    (hunknown : c.entity? (junctionType separator e t a) = none)
    (hkeys : c.keyColumns (junctionTable separator e t a) [e, t] (junctionColumns separator e t a) =
      .ok keys) :
    c.synthesize separator q = (junctionDraft separator e t a keys).build.map some := by
  have hdraft : c.draftJunction q (junctionTable separator e t a) e t a =
      .ok (junctionDraft separator e t a keys) := by
    simp only [junctionType] at hunknown
    simp only [junctionColumns] at hkeys
    simp only [draftJunction]
    rw [hunknown]
    dsimp only
    rw [hkeys]
    rfl
  simp only [synthesize]
  rw [hrequested]
  show (if (c.entitiesOfTable (junctionTable separator e t a)).isEmpty then _ else _) = _
  rw [hvacant, List.isEmpty_nil, if_pos rfl, hdraft]
  rfl

/-- An entity made for the junction of the association `a` between `e` and
`t`. -/
structure JunctionOf (c : Catalog) (separator : String) (e t : Entity) (a : Attribute)
    (j : Entity) : Prop where
  table : j.tableName = junctionTable separator e t a
  /-- No entity was mapped to the table. -/
  vacant : c.entitiesOfTable (junctionTable separator e t a) = []
  /-- No entity had the type. -/
  unknown : c.entity? j.ty = none
  model : j.model = e.model
  synthesized : j.synthesized = true
  built : j.IsBuilt
  columns : ∀ k ∈ j.attributes.values, k.key = true ∧ k.foreignKey = true ∧ k.cardinality = none

/-- What is made on a request is a junction of the association that the
request names. -/
theorem junctionOf_of_synthesize {c : Catalog} {separator : String} {q : JunctionRequest}
    {j : Entity} (h : c.synthesize separator q = .ok (some j)) :
    ∃ e t a, c.requested q = .ok (e, t, a) ∧ c.JunctionOf separator e t a j := by
  obtain ⟨e, t, a, keys, hrequested, hvacant, hunknown, hkeys, hbuild⟩ :=
    exists_draft_of_synthesize h
  -- The draft's columns become the attributes of the entity that is built from it.
  have hvalues : j.attributes.values = keys := values_of_build hbuild
  obtain ⟨m, -, hmade⟩ := EntityDraft.exists_collect_of_build hbuild
  refine ⟨e, t, a, hrequested, ?_⟩
  exact
    { table := by rw [hmade]; rfl
      vacant := hvacant
      unknown := by rw [hmade]; exact hunknown
      model := by rw [hmade]; rfl
      synthesized := by rw [hmade]; rfl
      built := ⟨_, hbuild⟩
      columns := by
        intro k hk
        rw [hvalues] at hk
        obtain ⟨column, side, hcolumn, -⟩ := exists_keyColumnOf_of_mem hkeys hk
        exact ⟨hcolumn.key, hcolumn.foreignKey, hcolumn.cardinality⟩ }

/-- The columns of what is made have integer types and types of the only
keys of residents. -/
theorem ty_of_synthesize {c : Catalog} {separator : String} {q : JunctionRequest} {j : Entity}
    (h : c.synthesize separator q = .ok (some j)) :
    ∀ k ∈ j.attributes.values, k.ty = .scalar .int64 ∨
      ∃ t ∈ c.entities, ∃ key, t.singleKey? = some key ∧ k.ty = key.ty := by
  obtain ⟨e, t, a, keys, hrequested, -, -, hkeys, hbuild⟩ := exists_draft_of_synthesize h
  have hvalues : j.attributes.values = keys := values_of_build hbuild
  intro k hk
  rw [hvalues] at hk
  obtain ⟨column, side, hcolumn, hside⟩ := exists_keyColumnOf_of_mem hkeys hk
  by_cases hnone : ∀ t key, c.columnTarget? column side = some t → t.singleKey? ≠ some key
  · exact Or.inl (hcolumn.integer hnone)
  · simp only [Classical.not_forall, Classical.not_not] at hnone
    obtain ⟨target, key, htarget, hkey⟩ := hnone
    exact Or.inr ⟨target,
      mem_of_columnTarget? htarget fun e he => mem_of_requested hrequested (hside e he), key, hkey,
      (hcolumn.stored target key htarget hkey).1⟩

end Catalog

end SchemaLinker
