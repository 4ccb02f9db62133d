import SchemaLinker.Proofs.History

/-!
# `SchemaLinker.Proofs.LinkTable`: which links a resolution holds

A resolution keeps the links of all catalogs in one dictionary, each under
the identity of its attribute. An identity names the type of the entity and
the attribute, but not the model. So two catalogs that hold entities of one
type may both give a link for one identity, and of these only the later is
kept.

`Catalog.linkedIds` are the identities of the attributes that are linked,
one for each link (`map_source_links`). `links_complete_iff` says that a
resolution holds the link of every association and every foreign key, and
as many links as there are such attributes, exactly when no identity occurs
twice among them. `link_lost_between_models` is a schema of two models
where one does.
-/

set_option autoImplicit false

namespace SchemaLinker

namespace Catalog

/-- The identities of a catalog's associations and foreign keys, in order. -/
def linkedIds (c : Catalog) : List AttributeId :=
  (c.visits.filter fun v => v.2.isAssociation || v.2.foreignKey).map fun v => v.1.idOf v.2

/-- The links of a catalog stand for its associations and foreign keys. -/
theorem map_source_links (c : Catalog) (separator : String) :
    (c.links separator).map Link.source = c.linkedIds := by
  simp only [links]
  rw [List.map_map]
  rfl

/-- A catalog links its associations and foreign keys and nothing else. -/
theorem mem_links {c : Catalog} {separator : String} {l : Link} :
    l ∈ c.links separator ↔ ∃ e ∈ c.entities, ∃ a ∈ e.attributes.values,
      (a.isAssociation = true ∨ a.foreignKey = true) ∧ c.link separator e a = l := by
  simp only [links]
  rw [List.mem_map]
  constructor
  · rintro ⟨v, hv, rfl⟩
    obtain ⟨hvisit, hlinked⟩ := List.mem_filter.1 hv
    obtain ⟨hentity, hattribute⟩ := mem_visits.1 hvisit
    exact ⟨v.1, hentity, v.2, hattribute, Bool.or_eq_true_iff.1 hlinked, rfl⟩
  · rintro ⟨e, he, a, ha, hlinked, rfl⟩
    have hvisit : (e, a) ∈ c.visits := mem_visits.2 ⟨he, ha⟩
    exact ⟨(e, a), List.mem_filter.2 ⟨hvisit, Bool.or_eq_true_iff.2 hlinked⟩, rfl⟩

/-- In a catalog of keyed entities the linked attributes have different
identities. -/
theorem nodup_linkedIds {c : Catalog} (hc : c.AllKeyed) : c.linkedIds.Nodup :=
  (nodup_ids hc).sublist (List.filter_sublist.map _)

end Catalog

namespace Resolution

/-- The identities of all attributes that are linked, catalog by catalog. -/
def linkedIds (res : Resolution) : List AttributeId :=
  res.catalogs.values.flatMap Catalog.linkedIds

/-- The links of all catalogs, one after the other, under the identities of
their attributes. -/
def linkEntries (separator : String) (res : Resolution) : List (AttributeId × Link) :=
  (res.catalogs.values.flatMap fun c => c.links separator).map fun l => (l.source, l)

/-- A link is entered under the name of its attribute. -/
theorem map_fst_linkEntries (separator : String) (res : Resolution) :
    (res.linkEntries separator).map Prod.fst = res.linkedIds := by
  have hsources : (fun c : Catalog => (c.links separator).map Link.source) = Catalog.linkedIds :=
    funext fun c => c.map_source_links separator
  simp only [linkEntries, linkedIds]
  rw [List.map_map, List.map_flatMap, ← hsources]
  rfl

/-- Every association and every foreign key of a catalog has its entry. -/
theorem mem_linkEntries {res : Resolution} (separator : String) {c : Catalog}
    (hc : c ∈ res.catalogs.values) {e : Entity} (he : e ∈ c.entities) {a : Attribute}
    (ha : a ∈ e.attributes.values) (hlinked : a.isAssociation = true ∨ a.foreignKey = true) :
    (e.idOf a, c.link separator e a) ∈ res.linkEntries separator := by
  have hmem : c.link separator e a ∈ c.links separator :=
    Catalog.mem_links.2 ⟨e, he, a, ha, hlinked, rfl⟩
  exact List.mem_map.2 ⟨_, List.mem_flatMap.2 ⟨c, hc, hmem⟩, rfl⟩

/-- The links of a resolution are made from those of its catalogs. -/
theorem links_of_resolve {r : Resolver} {res : Resolution} (h : r.resolve = .ok res) :
    res.links = .ofList (res.linkEntries r.config.separator) := by
  obtain ⟨s, hs, rfl⟩ := Resolver.resolve_eq_ok_iff.1 h
  rw [← Resolver.config_of_settle hs]
  rfl

end Resolution

namespace Resolver

/-- Let a resolver come to a resolution, whatever was submitted to it. The
resolution holds the link of every association and every foreign key of
its catalogs, and as many links as there are such attributes, exactly when
these attributes have different identities. -/
theorem links_complete_iff {r : Resolver} {res : Resolution} (h : r.resolve = .ok res) :
    ((∀ c ∈ res.catalogs.values, ∀ e ∈ c.entities, ∀ a ∈ e.attributes.values,
        a.isAssociation = true ∨ a.foreignKey = true →
          c.link r.config.separator e a ∈ res.links.values) ∧
      res.links.size = res.linkedIds.length) ↔
    res.linkedIds.Nodup := by
  have hlinks := Resolution.links_of_resolve h
  have hids := res.map_fst_linkEntries r.config.separator
  have hlength : res.linkedIds.length = (res.linkEntries r.config.separator).length := by
    rw [← hids, List.length_map]
  have hsize : res.links.size = res.linkedIds.length ↔ res.linkedIds.Nodup := by
    rw [hlinks, hlength, OrderedMap.size_ofList_eq_iff, hids]
  constructor
  · rintro ⟨-, hcount⟩
    exact hsize.1 hcount
  · intro hdistinct
    refine ⟨fun c hc e he a ha hlinked => ?_, hsize.2 hdistinct⟩
    -- With distinct identities the dictionary is the list of all links.
    have hentries : res.links.entries = res.linkEntries r.config.separator := by
      rw [hlinks, OrderedMap.entries_ofList (hids ▸ hdistinct)]
    have hentry := Resolution.mem_linkEntries r.config.separator hc he ha hlinked
    rw [← hentries] at hentry
    exact List.mem_map.2 ⟨_, hentry, rfl⟩

/-- People, groups and their junction have four attributes that are linked,
and no link is lost. -/
theorem links_complete_membership :
    ∃ res, (submitAll .standard (EntityDraft.buildAll membership)).resolve = .ok res ∧
      res.linkedIds.map toString =
        ["Person::groups", "Group::members", "PersonGroup::PersonId", "PersonGroup::GroupId"] ∧
      (∀ c ∈ res.catalogs.values, ∀ e ∈ c.entities, ∀ a ∈ e.attributes.values,
        a.isAssociation = true ∨ a.foreignKey = true → c.link "_" e a ∈ res.links.values) ∧
      res.links.size = res.linkedIds.length := by
  have hrun : ((submitAll .standard (EntityDraft.buildAll membership)).resolve.toOption.any
      fun res => decide res.linkedIds.Nodup && decide (res.linkedIds.map toString =
        ["Person::groups", "Group::members", "PersonGroup::PersonId",
          "PersonGroup::GroupId"])) = true := by decide +kernel
  obtain ⟨res, h, htest⟩ := exists_ok_of_any_toOption hrun
  rw [Bool.and_eq_true, decide_eq_true_eq, decide_eq_true_eq] at htest
  have hcomplete := (links_complete_iff h).2 htest.1
  have hseparator : (submitAll .standard (EntityDraft.buildAll membership)).config.separator =
      "_" := by decide +kernel
  rw [hseparator] at hcomplete
  exact ⟨res, h, htest.2, hcomplete⟩

/-- Phones are submitted to two models, and their owner is an entity of the
first only. Both models link `Phone::owner`, the first to a person and the
second to nothing, and the resolution does not hold the link of the
first. -/
theorem link_lost_between_models :
    let owner : Attribute :=
      { Attribute.column "owner" (.named ⟨["Person"]⟩) with cardinality := some .manyToOne }
    let phone (model : String) : EntityDraft :=
      { EntityDraft.ofType ⟨["Phone"]⟩ with model := some model, attributes := [owner] }
    let id : Attribute := { Attribute.column "id" (.scalar .int64) with key := true }
    let person : EntityDraft :=
      { EntityDraft.ofType ⟨["Person"]⟩ with model := some "staff", attributes := [id] }
    ∃ res, (submitAll .standard
        (EntityDraft.buildAll [person, phone "staff", phone "stock"])).resolve = .ok res ∧
      ¬((∀ c ∈ res.catalogs.values, ∀ e ∈ c.entities, ∀ a ∈ e.attributes.values,
          a.isAssociation = true ∨ a.foreignKey = true → c.link "_" e a ∈ res.links.values) ∧
        res.links.size = res.linkedIds.length) ∧
      (∃ c ∈ res.catalogs.values, c.model = "staff" ∧
        ∃ e ∈ c.entities, ∃ a ∈ e.attributes.values, a.isAssociation = true ∧
          (c.link "_" e a).target = some ⟨["Person"]⟩ ∧ c.link "_" e a ∉ res.links.values) ∧
      res.links.size = 1 ∧ res.linkedIds.length = 2 := by
  intro owner phone id person
  have hrun : ((submitAll .standard
      (EntityDraft.buildAll [person, phone "staff", phone "stock"])).resolve.toOption.any
      fun res => decide (
        (∃ c ∈ res.catalogs.values, c.model = "staff" ∧
          ∃ e ∈ c.entities, ∃ a ∈ e.attributes.values, a.isAssociation = true ∧
            (c.link "_" e a).target = some ⟨["Person"]⟩ ∧ c.link "_" e a ∉ res.links.values) ∧
        res.links.size = 1 ∧ res.linkedIds.length = 2)) = true := by decide +kernel
  obtain ⟨res, h, htest⟩ := exists_ok_of_any_toOption hrun
  obtain ⟨hlost, hsize, hlength⟩ := of_decide_eq_true htest
  refine ⟨res, h, ?_, hlost, hsize, hlength⟩
  rintro ⟨-, hcount⟩
  omega

end Resolver

end SchemaLinker
