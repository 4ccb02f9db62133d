import SchemaLinker.Proofs.Assembly
import SchemaLinker.Proofs.History
import SchemaLinker.Proofs.Identifier
import SchemaLinker.Proofs.Synthesis

/-!
# `SchemaLinker.Proofs.DefaultColumns`: made-up junction columns and their names

A junction that nobody wrote down has one column for each side, named after
the side's table. Where both sides have one table, the second column also
carries the association's name in upper camel case, to stay apart from the
first.

It does stay apart exactly when something of the name is left in upper camel
case, and this asks for an alphanumeric character: `SidesApart`,
`nodup_columns_between_iff`. A name of underscores only, say, is a name that an
attribute may have, but nothing is left of it.

`apart_iff_made` adds what becomes of the request. The junction is made if its
columns have two names, and otherwise it is refused because it repeats an
attribute.
-/

set_option autoImplicit false

namespace SchemaLinker

/-- The tables of the two sides differ, or the association's name has an
alphanumeric character. -/
def SidesApart (source target : Entity) (association : String) : Prop :=
  source.tableName = target.tableName →
    ∃ ch ∈ association.toList, Text.isAlphanumeric ch = true

/-- Sides of one table are apart if something is left of the name. -/
theorem sidesApart_iff {source target : Entity} {association : String} :
    SidesApart source target association ↔ (source.tableName = target.tableName →
      (Identifier.ofString association).upperCamelCase ≠ "") := by
  rw [SidesApart, Ne, Identifier.upperCamelCase_eq_empty_iff, Classical.not_forall]
  simp only [Classical.not_imp, Bool.not_eq_false]

/-- The name of the second column of a made-up junction. -/
def secondColumnName (source target : Entity) (association : String) : String :=
  if source.tableName = target.tableName then
    target.tableName ++ (Identifier.ofString association).upperCamelCase ++ "Id"
  else target.tableName ++ "Id"

/-- The two columns of a derived declaration are named like this. -/
theorem map_name_columns_between (name : String) (source target : Entity)
    (association : String) :
    (JunctionDeclaration.between name source target association).columns.map JunctionColumn.name =
      [source.tableName ++ "Id", secondColumnName source target association] := by
  simp only [JunctionDeclaration.between, secondColumnName, String.append_left_inj]
  rfl

/-- The second column has the first one's name exactly when the sides are not
apart. -/
theorem secondColumnName_eq_iff {source target : Entity} {association : String} :
    secondColumnName source target association = source.tableName ++ "Id" ↔
      ¬SidesApart source target association := by
  rw [sidesApart_iff, secondColumnName, Classical.not_imp, Classical.not_not]
  split
  · rename_i htable
    rw [String.append_left_inj, htable, String.append_eq_left_iff]
    exact (and_iff_right rfl).symm
  · rename_i htable
    rw [String.append_left_inj]
    exact ⟨fun h => absurd h.symm htable, fun h => absurd h.1 htable⟩

/-- The second has a name in any case. -/
theorem secondColumnName_ne_empty (source target : Entity) (association : String) :
    secondColumnName source target association ≠ "" := by
  rw [secondColumnName, Ne]
  split
  · rw [String.append_eq_empty_iff]
    exact fun h => absurd h.2 (by decide)
  · rw [String.append_eq_empty_iff]
    exact fun h => absurd h.2 (by decide)

/-- The two columns of a made-up junction have different names exactly when
the sides are apart. -/
theorem nodup_columns_between_iff (name : String) (source target : Entity)
    (association : String) :
    ((JunctionDeclaration.between name source target association).columns.map
      JunctionColumn.name).Nodup ↔ SidesApart source target association := by
  rw [map_name_columns_between, ← not_iff_not, ← secondColumnName_eq_iff]
  simp [eq_comm]

namespace Catalog

/-- The request is one for the association `a` between `e` and `t` that leaves
the columns of its junction open. Nothing stands in the way of the junction:
its table is vacant and its type unknown. -/
structure AwaitsDefault (c : Catalog) (separator : String) (q : JunctionRequest) (e t : Entity)
    (a : Attribute) : Prop where
  requested : c.requested q = .ok (e, t, a)
  leftOpen : ∀ d, a.junction = some d → d.columns = []
  vacant : c.entitiesOfTable (junctionTable separator e t a) = []
  unknown : c.entity? (junctionType separator e t a) = none

/-- Then the columns are made up. -/
theorem AwaitsDefault.columns {c : Catalog} {separator : String} {q : JunctionRequest}
    {e t : Entity} {a : Attribute} (h : c.AwaitsDefault separator q e t a) :
    junctionColumns separator e t a =
      (JunctionDeclaration.between (junctionTable separator e t a) e t a.name).columns := by
  simp only [junctionColumns, junctionDeclaration]
  split
  · rename_i declared hdeclared
    rw [h.leftOpen declared hdeclared, List.isEmpty_nil, if_pos rfl]
  · rfl

/-- A key column can stand if it has a name. -/
theorem KeyColumnOf.check_eq_none {c : Catalog} {column : JunctionColumn} {side : Option Entity}
    {k : Attribute} (h : c.KeyColumnOf column side k) (hname : k.name ≠ "") : k.check = none := by
  refine Attribute.check_eq_none_iff.2 ⟨hname, fun hjunction => ?_⟩
  rw [h.junction] at hjunction
  cases hjunction

/-- The request leads to key columns of the two names, each of which can
stand, and is answered with what is built with them. -/
theorem AwaitsDefault.synthesize {c : Catalog} {separator : String} {q : JunctionRequest}
    {e t : Entity} {a : Attribute} (h : c.AwaitsDefault separator q e t a) :
    ∃ draft : EntityDraft, c.synthesize separator q = draft.build.map some ∧
      draft.ty = junctionType separator e t a ∧
      draft.attributes.map Attribute.name =
        [e.tableName ++ "Id", secondColumnName e t a.name] ∧
      ∀ k ∈ draft.attributes, k.check = none := by
  -- Both columns say what they refer to, so a key is made for each.
  have hcolumns : ∀ column ∈ junctionColumns separator e t a, column.referenced ≠ none := by
    rw [h.columns]
    intro column hcolumn
    rcases List.mem_cons.1 hcolumn with rfl | hcolumn
    · exact Option.some_ne_none _
    · cases List.mem_singleton.1 hcolumn
      exact Option.some_ne_none _
  obtain ⟨keys, hkeys⟩ := c.exists_keyColumns (junctionTable separator e t a) [e, t] hcolumns
  have hnames : keys.map Attribute.name = [e.tableName ++ "Id", secondColumnName e t a.name] := by
    rw [map_name_of_keyColumns hkeys, h.columns, map_name_columns_between]
  refine ⟨_, synthesize_of_vacant h.requested h.vacant h.unknown hkeys, rfl, hnames, ?_⟩
  intro k hk
  obtain ⟨column, side, hmade, -⟩ := exists_keyColumnOf_of_mem hkeys hk
  refine hmade.check_eq_none ?_
  have hmem : k.name ∈ [e.tableName ++ "Id", secondColumnName e t a.name] := by
    rw [← hnames]
    exact List.mem_map_of_mem hk
  rcases List.mem_cons.1 hmem with hfirst | hsecond
  · rw [hfirst, Ne, String.append_eq_empty_iff]
    exact fun h => absurd h.2 (by decide)
  · rw [List.mem_singleton.1 hsecond]
    exact secondColumnName_ne_empty e t a.name

/-- If the sides are apart, the junction is made. -/
theorem AwaitsDefault.exists_made {c : Catalog} {separator : String} {q : JunctionRequest}
    {e t : Entity} {a : Attribute} (h : c.AwaitsDefault separator q e t a)
    (hapart : SidesApart e t a.name) : ∃ j, c.synthesize separator q = .ok (some j) := by
  obtain ⟨draft, hanswer, hty, hnames, hcheck⟩ := h.synthesize
  have hdistinct : (draft.attributes.map Attribute.name).Nodup := by
    rw [hnames, ← map_name_columns_between "", nodup_columns_between_iff]
    exact hapart
  have hnamed : draft.ty.isEmpty = false := by
    rw [hty]
    simp [junctionType, Path.sibling, Path.isEmpty]
  obtain ⟨j, hj⟩ := EntityDraft.exists_build hnamed hdistinct hcheck
  refine ⟨j, ?_⟩
  rw [hanswer, hj]
  rfl

/-- If they are not, the second column is refused because it repeats the
first. -/
theorem AwaitsDefault.repeated {c : Catalog} {separator : String} {q : JunctionRequest}
    {e t : Entity} {a : Attribute} (h : c.AwaitsDefault separator q e t a)
    (hapart : ¬SidesApart e t a.name) :
    c.synthesize separator q = .error (FaultKind.invalidSchema
      (.repeatedAttribute (junctionType separator e t a) (e.tableName ++ "Id"))).fault := by
  obtain ⟨draft, hanswer, hty, hnames, -⟩ := h.synthesize
  rw [secondColumnName_eq_iff.2 hapart] at hnames
  obtain ⟨k, rest, hattributes, hk, hrest⟩ := List.map_eq_cons_iff.1 hnames
  obtain ⟨l, hlast, hl⟩ := List.map_eq_singleton_iff.1 hrest
  have hsplit : draft.attributes = [k] ++ l :: [] := hattributes.trans (congrArg (k :: ·) hlast)
  have hagain : l.name ∈ [k].map Attribute.name := by
    rw [List.map_singleton, hk, hl]
    exact List.mem_singleton_self _
  have hbuild := EntityDraft.build_of_repeated hsplit (by simp) hagain
  rw [hanswer, hbuild, hty, hl]
  rfl

/-- The two columns of a made-up junction between two entities have different
names exactly when the tables differ or the association's name has an
alphanumeric character. Exactly then a junction whose columns were left open is
made, if its table is vacant and its type unknown, and otherwise it is refused
because it repeats an attribute. -/
theorem apart_iff_made (source target : Entity) :
    (∀ name association,
      ((JunctionDeclaration.between name source target association).columns.map
        JunctionColumn.name).Nodup ↔ SidesApart source target association) ∧
    ∀ (c : Catalog) (separator : String) (q : JunctionRequest) (a : Attribute),
      c.AwaitsDefault separator q source target a →
      ((∃ j, c.synthesize separator q = .ok (some j)) ↔ SidesApart source target a.name) ∧
      (c.synthesize separator q = .error (FaultKind.invalidSchema
          (.repeatedAttribute (junctionType separator source target a)
            (source.tableName ++ "Id"))).fault ↔ ¬SidesApart source target a.name) := by
  refine ⟨fun name => nodup_columns_between_iff name source target, fun c separator q a h => ?_⟩
  by_cases hapart : SidesApart source target a.name
  · obtain ⟨j, hj⟩ := h.exists_made hapart
    refine ⟨iff_of_true ⟨j, hj⟩ hapart, iff_of_false (fun hrefused => ?_) (not_not_intro hapart)⟩
    rw [hj] at hrefused
    cases hrefused
  · have hrefused := h.repeated hapart
    refine ⟨iff_of_false ?_ hapart, iff_of_true hrefused hapart⟩
    rintro ⟨j, hj⟩
    rw [hrefused] at hj
    cases hj

/-- People who are associated with each other under a name. -/
def acquaintances (name : String) : Catalog :=
  let id : Attribute := { Attribute.column "id" (.scalar .int64) with key := true }
  assemble "default" .firstMatch .empty (EntityDraft.buildAll
    [{ EntityDraft.ofType ⟨["Person"]⟩ with
        attributes := [id, Attribute.manyToMany name "Person" none] }])

/-- As friends they are told apart, and the junction is made. -/
theorem made_friends :
    let q : JunctionRequest := ⟨⟨["Person"]⟩, ⟨["Person"]⟩, "friends"⟩
    ∃ person a, (acquaintances "friends").AwaitsDefault "_" q person person a ∧
      a.name = "friends" ∧ SidesApart person person "friends" ∧
      ∃ j, (acquaintances "friends").synthesize "_" q = .ok (some j) := by
  intro q
  have hnamed : ((acquaintances "friends").requested q).toOption.any (fun named => decide
      (named.1 = named.2.1 ∧ named.2.2.name = "friends" ∧ named.2.2.junction = none ∧
        (acquaintances "friends").entitiesOfTable
          (junctionTable "_" named.1 named.1 named.2.2) = [] ∧
        (acquaintances "friends").entity? (junctionType "_" named.1 named.1 named.2.2) = none)) =
          true := by
    decide +kernel
  obtain ⟨⟨person, other, a⟩, hrequested, htest⟩ := exists_ok_of_any_toOption hnamed
  obtain ⟨hsame, hname, hjunction, hvacant, hunknown⟩ := of_decide_eq_true htest
  cases hsame
  have hawaits : (acquaintances "friends").AwaitsDefault "_" q person person a :=
    { requested := hrequested
      leftOpen := fun d hd => by
        rw [hjunction] at hd
        cases hd
      vacant := hvacant
      unknown := hunknown }
  have hapart : SidesApart person person "friends" := fun _ => ⟨'f', by decide, by decide +kernel⟩
  exact ⟨person, a, hawaits, hname, hapart,
    ((apart_iff_made person person).2 _ "_" q a hawaits).1.2 (hname ▸ hapart)⟩

/-- The underscore is a name of an attribute, but it does not tell people
apart, and the junction is refused. -/
theorem repeated_underscore :
    let q : JunctionRequest := ⟨⟨["Person"]⟩, ⟨["Person"]⟩, "_"⟩
    (∃ person a, (acquaintances "_").requested q = .ok (person, person, a) ∧ a.name = "_" ∧
      (JunctionDeclaration.between "Person_Person" person person "_").columns.map
        JunctionColumn.name = ["PersonId", "PersonId"]) ∧
      (acquaintances "_").synthesize "_" q = .error (FaultKind.invalidSchema
        (.repeatedAttribute ⟨["PersonPerson"]⟩ "PersonId")).fault := by
  intro q
  have hnamed : ((acquaintances "_").requested q).toOption.any (fun named => decide
      (named.1 = named.2.1 ∧ named.2.2.name = "_" ∧
        (JunctionDeclaration.between "Person_Person" named.1 named.2.1 "_").columns.map
          JunctionColumn.name = ["PersonId", "PersonId"])) = true := by
    decide +kernel
  obtain ⟨⟨person, other, a⟩, hrequested, htest⟩ := exists_ok_of_any_toOption hnamed
  obtain ⟨hsame, hname, hcolumns⟩ := of_decide_eq_true htest
  cases hsame
  exact ⟨⟨person, a, hrequested, hname, hcolumns⟩, by decide +kernel⟩

end Catalog

end SchemaLinker
