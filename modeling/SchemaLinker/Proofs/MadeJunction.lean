import Mathlib.Data.List.Basic
import SchemaLinker.Proofs.Assembly
import SchemaLinker.Proofs.Growth
import SchemaLinker.Proofs.History

/-!
# `SchemaLinker.Proofs.MadeJunction`: a junction that is made can be used

What `Catalog.synthesize` makes on a request is meant to come into the
catalog it was made for. `add_synthesized` shows that it does, for its table
was vacant and its type unknown, and that the request is then settled.

The columns of the junction are made before it comes in, and what they refer
to is looked up afterwards. Between the two the catalog has grown by the
junction itself, so a simple name may come to be shared. A column names its
target by the full type, and this look-up does not change while a catalog
grows: `KeyColumnOf.stores`.

`stores_of_synthesize` puts this together for the catalog of a list of built
entities.
-/

set_option autoImplicit false

namespace SchemaLinker.Catalog

/-- The attribute `k` refers to the entity `t` and, if the primary key of `t`
is one attribute, stores it. -/
structure Stores (c : Catalog) (k : Attribute) (t : Entity) : Prop where
  target : c.target? k = some t
  ty : ∀ key, t.singleKey? = some key → k.ty = key.ty
  column : ∀ key, t.singleKey? = some key → targetColumn? k t = some key

/-- A type of a resident leads to the resident, whatever the policy. -/
theorem target?_of_referencedType {c : Catalog} {k : Attribute} {t : Entity}
    (htable : k.referencedTable = none) (htype : k.referencedType = some (.named t.ty))
    (ht : t ∈ c.entities) : c.target? k = some t := by
  have hfound : c.entity? t.ty = some t := entity?_eq_some_iff.2 ⟨ht, rfl⟩
  simp only [target?]
  rw [htable, htype]
  show c.entityOfPath? t.ty = some t
  simp only [entityOfPath?]
  rw [hfound, Option.some_or]

/-- A key column refers to the target of its column, also after the catalog
has grown. -/
theorem KeyColumnOf.stores {c d : Catalog} (hc : c.AllKeyed) (hgrown : c.entities <+: d.entities)
    {column : JunctionColumn} {side : Option Entity} {k : Attribute}
    (hk : c.KeyColumnOf column side k) (hside : ∀ e, side = some e → e ∈ c.entities)
    {t : Entity} (ht : c.columnTarget? column side = some t) : d.Stores k t := by
  have hmem : t ∈ c.entities := mem_of_columnTarget? ht hside
  refine ⟨?_, fun key hkey => (hk.stored t key ht hkey).1, fun key hkey => ?_⟩
  · exact target?_of_referencedType hk.referencedTable (hk.referencedType t ht)
      (hgrown.subset hmem)
  · have hname : k.referencedColumn = some key.name := (hk.stored t key ht hkey).2
    simp only [targetColumn?]
    rw [hname]
    exact (Entity.attribute?_eq_some_iff (hc t hmem)).2 ⟨Entity.mem_of_singleKey? hkey, rfl⟩

/-- The attributes of what is made are the key columns for the junction's
columns, one by one, each with the side at its position. -/
theorem keyColumnOf_of_synthesize {c : Catalog} {separator : String} {q : JunctionRequest}
    {j : Entity} (h : c.synthesize separator q = .ok (some j)) {e t : Entity} {a : Attribute}
    (hrequested : c.requested q = .ok (e, t, a)) :
    j.attributes.values.length = (junctionColumns separator e t a).length ∧
      ∀ (i : Nat) (column : JunctionColumn), (junctionColumns separator e t a)[i]? = some column →
        ∃ k : Attribute, j.attributes.values[i]? = some k ∧
          c.KeyColumnOf column [e, t][i]? k := by
  obtain ⟨e, t, a, keys, hnamed, -, -, hkeys, hbuild⟩ := exists_draft_of_synthesize h
  rw [hrequested] at hnamed
  cases hnamed
  have hvalues : j.attributes.values = keys := values_of_build hbuild
  obtain ⟨hlength, hall⟩ := keyColumn_of_keyColumns hkeys
  rw [hvalues]
  refine ⟨hlength, fun i column hcolumn => ?_⟩
  obtain ⟨k, hk, hmade⟩ := hall i column hcolumn
  exact ⟨k, hk, keyColumnOf_of_keyColumn hmade⟩

/-- What is made for a catalog comes in, at the end, and settles the
request. -/
theorem add_synthesized {c : Catalog} (hmodel : c.AllOfModel) {separator : String}
    {q : JunctionRequest} {j : Entity} (h : c.synthesize separator q = .ok (some j)) :
    ∃ grown, c.add j = .added grown ∧ c.entities <+: grown.entities ∧
      grown.synthesize separator q = .ok none := by
  obtain ⟨e, t, a, hrequested, hj⟩ := junctionOf_of_synthesize h
  obtain ⟨he, ht, ha⟩ := requested_eq_ok_iff.1 hrequested
  obtain ⟨draft, hbuild⟩ := hj.built
  have hadmitted : j.model = c.model := hj.model.trans (hmodel e (mem_of_entity? he))
  have hunknown : c.entity? (c.embeddables.flatten j).ty = none := by
    rw [Embeddables.flatten_ty]
    exact hj.unknown
  have hprefix : c.entities <+: (c.append (c.embeddables.flatten j) hunknown).entities :=
    List.prefix_append _ _
  refine ⟨_, add_of_new hadmitted (EntityDraft.verify_of_build hbuild) hunknown, hprefix, ?_⟩
  -- The request names what it named before, and now the table has an entity.
  refine synthesize_eq_none_iff.2 ⟨e, t, a, requested_eq_ok_iff.2
    ⟨entity?_of_isPrefix hprefix he, entity?_of_isPrefix hprefix ht, ha⟩, ?_⟩
  refine entitiesOfTable_ne_nil_iff.2 ⟨c.embeddables.flatten j, ?_, ?_⟩
  · exact List.mem_append_right _ (List.mem_singleton_self _)
  · rw [Embeddables.flatten_tableName, hj.table]
    exact Text.equivalence_sameFolded.refl _

/-- Built entities are added to a catalog, and a junction is made on a
request. It is marked as made, belongs to the source's model, has the
junction's table, and has one key column for each column of the junction,
with that column's actions. It comes in, and the request is then settled.
Every key column whose target was found refers to the target in the grown
catalog and, if the target's primary key is one attribute, stores it. -/
theorem stores_of_synthesize {entities : List Entity} (hbuilt : ∀ e ∈ entities, e.IsBuilt)
    (model : String) (policy : NamePolicy) (t : Embeddables) {separator : String}
    {q : JunctionRequest} {j : Entity}
    (h : (assemble model policy t entities).synthesize separator q = .ok (some j)) :
    let c := assemble model policy t entities
    ∃ source target a grown, c.requested q = .ok (source, target, a) ∧
      j.synthesized = true ∧ j.model = source.model ∧
      j.tableName = junctionTable separator source target a ∧
      c.add j = .added grown ∧ grown.synthesize separator q = .ok none ∧
      j.attributes.values.length = (junctionColumns separator source target a).length ∧
      ∀ (i : Nat) (column : JunctionColumn),
        (junctionColumns separator source target a)[i]? = some column →
        ∃ k : Attribute, j.attributes.values[i]? = some k ∧
          c.KeyColumnOf column [source, target][i]? k ∧
          ∀ found, c.columnTarget? column [source, target][i]? = some found →
            grown.Stores k found := by
  intro c
  have hkeyed : c.AllKeyed := allKeyed_assemble hbuilt model policy t
  obtain ⟨source, target, a, hrequested, hj⟩ := junctionOf_of_synthesize h
  obtain ⟨grown, hadd, hprefix, hsettled⟩ :=
    add_synthesized (allOfModel_assemble entities model policy t) h
  obtain ⟨hlength, hcolumns⟩ := keyColumnOf_of_synthesize h hrequested
  have hsides : ∀ (i : Nat) (e : Entity), [source, target][i]? = some e → e ∈ c.entities :=
    fun _ _ he => mem_of_requested hrequested (List.mem_of_getElem? he)
  refine ⟨source, target, a, grown, hrequested, hj.synthesized, hj.model, hj.table, hadd,
    hsettled, hlength, fun i column hcolumn => ?_⟩
  obtain ⟨k, hk, hmade⟩ := hcolumns i column hcolumn
  exact ⟨k, hk, hmade, fun found => hmade.stores hkeyed hprefix (hsides i)⟩

/-- The columns of a junction of users and roles. The second names the roles
itself. -/
def userRoleColumns : List JunctionColumn :=
  [⟨"owner", none, .cascade, .noAction⟩, ⟨"role", some ⟨["auth", "Role"]⟩, .restrict, .setNull⟩]

/-- Users with roles by such a junction. -/
def usersWithRoles : List EntityDraft :=
  let id : Attribute := { Attribute.column "id" (.scalar .uuid) with key := true }
  let code : Attribute := { Attribute.column "code" (.scalar .string) with key := true }
  let roles := Attribute.manyToMany "roles" "Role" (some ⟨"user_role", userRoleColumns, .explicit⟩)
  [{ EntityDraft.ofType ⟨["app", "User"]⟩ with attributes := [id, roles] },
    { EntityDraft.ofType ⟨["auth", "Role"]⟩ with attributes := [code] }]

/-- The junction of users and roles is made and comes in, and its columns
store the keys of both. -/
theorem stores_usersWithRoles :
    let c := assemble "default" .strict .empty (EntityDraft.buildAll usersWithRoles)
    let q : JunctionRequest := ⟨⟨["app", "User"]⟩, ⟨["auth", "Role"]⟩, "roles"⟩
    ∃ j user role grown owner code, c.synthesize "_" q = .ok (some j) ∧
      j.ty = ⟨["app", "UserRole"]⟩ ∧ j.tableName = "user_role" ∧
      c.add j = .added grown ∧ grown.synthesize "_" q = .ok none ∧
      j.attributes.values = [owner, code] ∧ user.ty = ⟨["app", "User"]⟩ ∧
      role.ty = ⟨["auth", "Role"]⟩ ∧ grown.Stores owner user ∧ grown.Stores code role := by
  intro c q
  have hmade : (c.synthesize "_" q).toOption.any (fun made => made.any fun j => decide
      (j.ty = ⟨["app", "UserRole"]⟩ ∧ j.tableName = "user_role")) = true := by
    decide +kernel
  obtain ⟨made, hmade, hsome⟩ := exists_ok_of_any_toOption hmade
  obtain ⟨j, rfl, htest⟩ := (Option.any_eq_true _ _).1 hsome
  obtain ⟨hty, htable⟩ := of_decide_eq_true htest
  have hbuilt : ∀ e ∈ EntityDraft.buildAll usersWithRoles, e.IsBuilt :=
    fun e he => EntityDraft.isBuilt_of_mem_buildAll he
  obtain ⟨user, role, a, grown, hrequested, -, -, -, hadd, hsettled, hlength, hcolumns⟩ :=
    stores_of_synthesize hbuilt "default" .strict .empty hmade
  -- The request names the users and the roles, with the two columns declared.
  have hnamed : (c.requested q).toOption.all (fun named => decide
      (named.1.ty = ⟨["app", "User"]⟩ ∧ named.2.1.ty = ⟨["auth", "Role"]⟩ ∧
        junctionColumns "_" named.1 named.2.1 named.2.2 = userRoleColumns ∧
        c.entityOfPath? ⟨["auth", "Role"]⟩ = some named.2.1)) = true := by
    decide +kernel
  rw [hrequested] at hnamed
  obtain ⟨huser, hrole, hdeclared, hfound⟩ := of_decide_eq_true hnamed
  rw [hdeclared] at hlength hcolumns
  obtain ⟨owner, code, hvalues⟩ := List.length_eq_two.1 hlength
  obtain ⟨k, hk, -, howner⟩ := hcolumns 0 _ rfl
  obtain ⟨l, hl, -, hcode⟩ := hcolumns 1 _ rfl
  rw [hvalues] at hk hl
  cases hk
  cases hl
  exact ⟨j, user, role, grown, owner, code, hmade, hty, htable, hadd, hsettled, hvalues, huser,
    hrole, howner user rfl, hcode role hfound⟩

end SchemaLinker.Catalog
