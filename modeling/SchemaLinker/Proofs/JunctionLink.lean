import SchemaLinker.Proofs.LinkTable
import SchemaLinker.Proofs.Verdict

/-!
# `SchemaLinker.Proofs.JunctionLink`: links find the junctions that were asked for

Three places name the table of a junction. The review decides which side
of an association asks for it, the synthesis names it for that side, and
each link names it again from its own side. In a consistent catalog they
agree. The side that asks is the only one, or it is the one that declares
the junction, and its other side leaves the name to it
(`junctionOf?_of_declared`, `junctionOf?_of_inverse_declared`).

The links of a resolution are kept under their attributes, and two models
may have attributes of one name. In a resolution of one model there is one
catalog (`values_of_resolve`), and then every association has the link
that its catalog gives it (`link?_of_mem_visits`).
-/

set_option autoImplicit false

namespace SchemaLinker

/-- An attribute with a cardinality is an association. -/
theorem Attribute.isAssociation_of_cardinality {a : Attribute} {k : Cardinality}
    (h : a.cardinality = some k) : a.isAssociation = true := by
  simp only [isAssociation]
  rw [h]
  rfl

namespace Catalog

variable {c : Catalog} {separator : String}

/-- An association whose other sides do not declare the junction looks for
it under its own table, if it declares it or has no other side. -/
theorem junctionOf?_of_declared {e t : Entity} {a : Attribute} {inverses : List Attribute}
    (hundeclared : ∀ b ∈ inverses, b.junction = none)
    (hdeclared : inverses = [] ∨ a.junction.isSome = true) :
    c.junctionOf? separator e a t inverses =
      c.entityOfTable? (junctionTable separator e t a) := by
  have hnamed : namedJunctionTable separator e a t inverses = junctionTable separator e t a := by
    have hnone : (inverses.find? fun b => b.junction.isSome && a.junction.isNone) = none := by
      refine List.find?_eq_none.2 fun b hb h => ?_
      rw [hundeclared b hb] at h
      cases h
    simp only [namedJunctionTable]
    rw [hnone]
  have hshared : sharedJunctionTable? separator e a t inverses = none := by
    simp only [sharedJunctionTable?]
    rcases hdeclared with rfl | ha
    · rfl
    · split
      · rw [← Option.not_isSome, ha]
        rfl
      · rfl
  simp only [junctionOf?]
  rw [hnamed, hshared]
  exact Option.or_none

/-- An association that leaves the junction to its only other side looks
for it under that side's table. -/
theorem junctionOf?_of_inverse_declared {e t : Entity} {a b : Attribute}
    (ha : a.junction.isSome = true) (hb : b.junction = none) :
    c.junctionOf? separator t b e [a] = c.entityOfTable? (junctionTable separator e t a) := by
  have hnamed : namedJunctionTable separator t b e [a] = junctionTable separator e t a := by
    simp only [namedJunctionTable]
    rw [List.find?_cons_of_pos (by rw [ha, hb]; rfl)]
  have hshared : sharedJunctionTable? separator t b e [a] = none := by
    unfold sharedJunctionTable?
    dsimp only
    rw [← Option.not_isSome, ← Option.not_isSome, ha, Bool.not_true, Bool.and_false]
    rfl
  simp only [junctionOf?]
  rw [hnamed, hshared]
  exact Option.or_none

/-- What the link of a many-to-many association with a target says about
its other sides and its junction. -/
theorem link_of_manyToMany {e t : Entity} {a : Attribute}
    (hk : a.cardinality = some .manyToMany) (ht : c.target? a = some t) :
    (c.link separator e a).inverse = (c.inverses e a t).map t.idOf ∧
      (c.link separator e a).junction =
        (c.junctionOf? separator e a t (c.inverses e a t)).map Entity.ty := by
  have hassociation := Attribute.isAssociation_of_cardinality hk
  have hmany : a.isManyToMany = true := by
    simp only [Attribute.isManyToMany]
    rw [hk]
    rfl
  simp only [link]
  rw [ht]
  dsimp only
  rw [hassociation, hmany]
  exact ⟨rfl, rfl⟩

/-- An attribute without a target has an empty link. -/
theorem link_of_target?_eq_none {e : Entity} {a : Attribute} (ht : c.target? a = none) :
    c.link separator e a = ⟨e.idOf a, a.cardinality, none, none, [], none⟩ := by
  simp only [link]
  rw [ht]
  rfl

/-- The request of a consistent catalog comes from the only side of the
association, or from the one that declares the junction. -/
theorem RequestOf.only_or_declared {oneSided : Bool} {q : JunctionRequest} {e t : Entity}
    {a : Attribute} (h : c.RequestOf oneSided q e a t) (hupheld : c.Upholds (e, a)) :
    c.inverses e a t = [] ∨
      ∃ b, c.inverses e a t = [b] ∧ b.cardinality = some .manyToMany ∧ b.junction = none ∧
        a.junction.isSome = true := by
  rcases h.sides with ⟨hnone, -⟩ | ⟨b, hone, hb⟩
  · exact Or.inl hnone
  · obtain ⟨hinverse, hjunction, -⟩ := hupheld.paired .manyToMany t b h.cardinality h.target hone
    refine Or.inr ⟨b, hone, hinverse, hb, ?_⟩
    -- One of the two declares the junction, and it is not the other side.
    have hdiffers := hjunction rfl
    rw [hb] at hdiffers
    exact Bool.ne_false_iff.1 hdiffers

/-- The link of the side that asks finds the junction under its own
table. -/
theorem RequestOf.junction_link {oneSided : Bool} {q : JunctionRequest} {e t : Entity}
    {a : Attribute} (h : c.RequestOf oneSided q e a t) (hupheld : c.Upholds (e, a)) :
    (c.link separator e a).junction =
      (c.entityOfTable? (junctionTable separator e t a)).map Entity.ty := by
  rw [(link_of_manyToMany h.cardinality h.target).2]
  rcases h.only_or_declared hupheld with hnone | ⟨b, hone, -, hb, ha⟩
  · rw [hnone, junctionOf?_of_declared (fun b hb => by cases hb) (Or.inl rfl)]
  · rw [hone, junctionOf?_of_declared ?_ (Or.inr ha)]
    intro b' hb'
    rw [List.mem_singleton.1 hb']
    exact hb

/-- The link of the other side finds it there, too, if it leads back. -/
theorem RequestOf.junction_link_inverse (hc : c.AllKeyed) {oneSided : Bool} {q : JunctionRequest}
    {e t : Entity} {a b : Attribute} (h : c.RequestOf oneSided q e a t)
    (hupheld : c.Upholds (e, a)) (hone : c.inverses e a t = [b])
    (hback : (c.link separator t b).inverse = [e.idOf a]) :
    (c.link separator t b).junction =
      (c.entityOfTable? (junctionTable separator e t a)).map Entity.ty := by
  -- The side that asks declares the junction, because it has another side.
  obtain ⟨hk, hb, ha⟩ : b.cardinality = some .manyToMany ∧ b.junction = none ∧
      a.junction.isSome = true := by
    rcases h.only_or_declared hupheld with hnone | ⟨b', hone', hk, hb, ha⟩
    · rw [hnone] at hone
      cases hone
    · rw [hone] at hone'
      cases hone'
      exact ⟨hk, hb, ha⟩
  cases ht : c.target? b with
  | none =>
    rw [link_of_target?_eq_none ht] at hback
    cases hback
  | some s =>
    obtain ⟨hinverse, hjunction⟩ : (c.link separator t b).inverse = _ ∧
        (c.link separator t b).junction = _ := link_of_manyToMany hk ht
    rw [hinverse] at hback
    obtain ⟨d, hd, hid⟩ := List.map_eq_singleton_iff.1 hback
    -- The side that the other leads back to is the one that asks.
    cases eq_of_idOf_eq hc (mem_visits_of_inverses ht hd) h.visited hid
    rw [hjunction, hd, junctionOf?_of_inverse_declared ha hb]

end Catalog

namespace Resolver

/-- Where only entities of one model are submitted, there is no catalog of
another. -/
theorem one_model_history (config : ResolverConfig) {model : String} {steps : List Step}
    (hsteps : ∀ e, .submit e ∈ steps → e.model = model) :
    ∀ m ∈ (history config steps).catalogs.keys, m = model := by
  have hboth := history_preserves_each (P := fun catalogs =>
    (∀ m c, catalogs.get? m = some c → Houses config m c) ∧ ∀ m ∈ catalogs.keys, m = model)
    config steps ⟨(fun m c h => nomatch h), fun m hm => nomatch hm⟩ hsteps ?_ ?_
  · exact hboth.1.2
  · rintro catalogs e ⟨hhouses, hkeys⟩ he
    refine ⟨forall_houses_receive config hhouses e, fun m hm => ?_⟩
    unfold receive at hm
    rw [OrderedMap.keys_insert] at hm
    split at hm
    · exact hkeys m hm
    · rcases List.mem_append.1 hm with hold | hlast
      · exact hkeys m hold
      · rw [List.mem_singleton.1 hlast]
        exact he
  · rintro catalogs ⟨hhouses, hkeys⟩ j hj
    -- A junction belongs to the catalog that asked for it.
    obtain ⟨c, q, e, t, a, hc, -⟩ := exists_junctionOf_of_mem_junctions hhouses hj
    exact hkeys j.model (OrderedMap.mem_keys_iff.2 ⟨c, hc⟩)

/-- A resolution of entities of one model has at most one catalog. -/
theorem values_of_resolve {config : ResolverConfig} {entities : List Entity} {model : String}
    {res : Resolution} (hmodel : ∀ e ∈ entities, e.model = model)
    (h : (submitAll config entities).resolve = .ok res) {c : Catalog}
    (hc : c ∈ res.catalogs.values) : res.catalogs.values = [c] := by
  obtain ⟨steps, hsteps, rfl, -⟩ := exists_history_of_resolve h
  have hkeys := one_model_history config fun e he => hmodel e (hsteps e he)
  exact OrderedMap.values_eq_singleton hkeys hc

end Resolver

namespace Resolution

/-- In a closed resolution with one catalog, every association has the link
that the catalog gives it. -/
theorem Closed.link?_of_mem_visits {config : ResolverConfig} {res : Resolution}
    (h : res.Closed config) {c : Catalog} (hone : res.catalogs.values = [c])
    {v : Entity × Attribute} (hv : v ∈ c.visits) (hassociation : v.2.isAssociation = true) :
    res.link? (v.1.idOf v.2) = some (c.link config.separator v.1 v.2) := by
  have hc : c ∈ res.catalogs.values := by
    rw [hone]
    exact List.mem_singleton_self c
  have hlinks : res.links = .ofList (res.linkEntries config.separator) := h.links
  -- The keys are the attributes that are linked, and no attribute is visited twice.
  have hdistinct : ((res.linkEntries config.separator).map Prod.fst).Nodup := by
    rw [res.map_fst_linkEntries, linkedIds, hone, List.flatMap_singleton]
    exact Catalog.nodup_linkedIds (h.keyed c hc)
  obtain ⟨hentity, hattribute⟩ := Catalog.mem_visits.1 hv
  simp only [link?]
  rw [hlinks]
  exact OrderedMap.get?_ofList_of_mem _ hdistinct
    (mem_linkEntries config.separator hc hentity hattribute (Or.inl hassociation))

/-- Where the link of the side that asks has one other side whose link
leads back, the other link finds the same junction. -/
theorem Closed.junction_of_back {config : ResolverConfig} {res : Resolution}
    (h : res.Closed config) {c : Catalog} (hone : res.catalogs.values = [c]) (hkeyed : c.AllKeyed)
    {oneSided : Bool} {q : JunctionRequest} {e t : Entity} {a : Attribute}
    (hof : c.RequestOf oneSided q e a t) (hupheld : c.Upholds (e, a)) {b : AttributeId}
    {back : Link} (hinverse : (c.link config.separator e a).inverse = [b])
    (hback : res.link? b = some back) (hleads : back.inverse = [e.idOf a]) :
    back.junction = (c.entityOfTable? (junctionTable config.separator e t a)).map Entity.ty := by
  rw [(Catalog.link_of_manyToMany hof.cardinality hof.target).1] at hinverse
  obtain ⟨d, hd, rfl⟩ := List.map_eq_singleton_iff.1 hinverse
  have hside : (t, d) ∈ c.visits := Catalog.mem_visits_of_inverses hof.target hd
  have hk : d.cardinality = some .manyToMany :=
    (hupheld.paired .manyToMany t d hof.cardinality hof.target hd).1
  -- The other side is an association, so its link is the one of the catalog.
  have hlink := h.link?_of_mem_visits hone hside (Attribute.isAssociation_of_cardinality hk)
  rw [hback] at hlink
  cases hlink
  exact hof.junction_link_inverse hkeyed hupheld hd hleads

end Resolution

namespace Resolver

/-- Entities of one model are built and submitted to a new resolver, and it
comes to a resolution without errors. Then the table of every request of a
review is resident. The link of the association that asks has a junction
exactly when one entity only has the table, and it is that entity. Where
the link has one other side and that leads back, both have the same
junction. -/
theorem link?_of_mem_requests {config : ResolverConfig} {entities : List Entity} {model : String}
    {res : Resolution} (hbuilt : ∀ e ∈ entities, e.IsBuilt)
    (hmodel : ∀ e ∈ entities, e.model = model)
    (h : (submitAll config entities).resolve = .ok res)
    (hquiet : res.diagnostics.hasErrors = false) {c : Catalog} (hc : c ∈ res.catalogs.values)
    {q : JunctionRequest} (hq : q ∈ (c.review config.oneSided).requests) :
    ∃ e t a link, c.requested q = .ok (e, t, a) ∧
      c.entitiesOfTable (junctionTable config.separator e t a) ≠ [] ∧
      res.link? (e.idOf a) = some link ∧
      (∀ ty, link.junction = some ty ↔
        ∃ j, c.entitiesOfTable (junctionTable config.separator e t a) = [j] ∧ j.ty = ty) ∧
      ∀ b back, link.inverse = [b] → res.link? b = some back → back.inverse = [e.idOf a] →
        back.junction = link.junction := by
  have hclosed := closed_of_resolve hbuilt h
  have hone := values_of_resolve hmodel h hc
  have hkeyed := hclosed.keyed c hc
  -- Without errors the catalog is consistent, so the attribute upholds what it owes.
  have hconsistent : c.Consistent config := by
    refine hclosed.quiet_iff.1 (fun d hd => ?_) c hc
    exact Bool.eq_false_iff.2 (List.any_eq_false.1 hquiet d hd)
  obtain ⟨e, a, t, hof⟩ := Catalog.requestOf_of_mem_requests hkeyed hq
  have hupheld := hconsistent.upheld (e, a) hof.visited
  have hjunction : (c.link config.separator e a).junction =
      (c.entityOfTable? (junctionTable config.separator e t a)).map Entity.ty :=
    hof.junction_link hupheld
  refine ⟨e, t, a, c.link config.separator e a, hof.requested, ?_, ?_, ?_, ?_⟩
  · show c.entitiesOfTable (junctionTable config.separator e t a) ≠ []
    obtain ⟨e', t', a', hrequested, hresident⟩ := hconsistent.junctions q hq
    cases Except.ok.inj (hrequested.symm.trans hof.requested)
    exact Catalog.entitiesOfTable_ne_nil_iff.2 hresident
  · show res.link? (e.idOf a) = some (c.link config.separator e a)
    exact hclosed.link?_of_mem_visits hone hof.visited
      (Attribute.isAssociation_of_cardinality hof.cardinality)
  · intro ty
    rw [hjunction, Option.map_eq_some_iff]
    exact exists_congr fun j => and_congr_left fun _ => Catalog.entityOfTable?_eq_some_iff
  · intro b back hinverse hback hleads
    show back.junction = (c.link config.separator e a).junction
    rw [hjunction]
    exact hclosed.junction_of_back hone hkeyed hof hupheld hinverse hback hleads

/-- The people ask for the junction, and their link finds it. -/
theorem link?_membership :
    ∃ res, (submitAll .standard (EntityDraft.buildAll membership)).resolve = .ok res ∧
      ∃ c ∈ res.catalogs.values, ∃ e t a link,
        c.requested ⟨⟨["Person"]⟩, ⟨["Group"]⟩, "groups"⟩ = .ok (e, t, a) ∧
        c.entitiesOfTable (junctionTable "_" e t a) ≠ [] ∧
        res.link? (e.idOf a) = some link ∧
        (∀ ty, link.junction = some ty ↔
          ∃ j, c.entitiesOfTable (junctionTable "_" e t a) = [j] ∧ j.ty = ty) ∧
        ∀ b back, link.inverse = [b] → res.link? b = some back → back.inverse = [e.idOf a] →
          back.junction = link.junction := by
  have hmodel : ∀ e ∈ EntityDraft.buildAll membership, e.model = "default" := by decide +kernel
  have hrun : ((submitAll .standard (EntityDraft.buildAll membership)).resolve.toOption.any
      fun res => !res.diagnostics.hasErrors && res.catalogs.values.any fun c =>
        (c.review true).requests.contains ⟨⟨["Person"]⟩, ⟨["Group"]⟩, "groups"⟩) = true := by
    decide +kernel
  obtain ⟨res, h, htest⟩ := exists_ok_of_any_toOption hrun
  simp only [Bool.and_eq_true, Bool.not_eq_true', List.any_eq_true,
    List.contains_iff_mem] at htest
  obtain ⟨hquiet, c, hc, hq⟩ := htest
  exact ⟨res, h, c, hc, link?_of_mem_requests
    (fun _ => EntityDraft.isBuilt_of_mem_buildAll) hmodel h hquiet hc hq⟩

end Resolver

end SchemaLinker
