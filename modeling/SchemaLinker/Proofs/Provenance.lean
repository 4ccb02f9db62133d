import SchemaLinker.Proofs.History
import SchemaLinker.Proofs.Nesting

/-!
# `SchemaLinker.Proofs.Provenance`: where resident entities come from

An entity reaches a catalog in two ways: it was submitted, or the catalog
made it at an earlier stage as the junction for a request
(`Resolver.Origin`). It is flattened as it comes in, and it stays as it came
in (`isPrefix_history`). `Sourced` is the invariant behind this, which
speaks of the queue, too.

The columns of a junction are keys and foreign keys and no associations.
Flattening may take this away. `PlacedJunction` says exactly when a junction
is resident as it was made: when no column's type names an embeddable. Then
no review asks for a junction of the junction. `resident_cases` proves this
of every resident of every reachable state that was not submitted.

The types of the columns are those of other entities' keys. An embeddable that
contains itself leaves its own name in a key. `flattened_junction` is a run in
which a column of a junction is then replaced by one that is no foreign key.

`resident_cases_of_acyclic` is a result in its own right, for schemas in which
no embeddable contains itself and no single key is an association: there
every junction is resident as it was made.
-/

set_option autoImplicit false

namespace SchemaLinker

namespace Resolver

/-- Where an entity of a catalog comes from. -/
inductive Origin (config : ResolverConfig) (steps : List Step) (c : Catalog) (e : Entity) : Prop
  /-- It was submitted. -/
  | submitted (h : .submit e ∈ steps)
  /-- An earlier stage of the catalog made it for a request of its review. -/
  | made (stage : Catalog) (q : JunctionRequest) (hhouses : Houses config e.model stage)
    (hstage : stage.entities <+: c.entities)
    (hrequest : q ∈ (stage.review config.oneSided).requests)
    (hmade : stage.synthesize config.separator q = .ok (some e))

/-- An origin lasts while the catalog grows. -/
theorem Origin.mono {config : ResolverConfig} {steps : List Step} {c d : Catalog} {e : Entity}
    (h : Origin config steps c e) (hgrown : c.entities <+: d.entities) :
    Origin config steps d e := by
  cases h with
  | submitted hsubmit => exact .submitted hsubmit
  | made stage q hhouses hstage hrequest hmade =>
    exact .made stage q hhouses (hstage.trans hgrown) hrequest hmade

/-- Every resident is the flattened form of an entity that has an origin,
and so has every entity that waits. -/
structure Sourced (config : ResolverConfig) (steps : List Step)
    (catalogs : OrderedMap String Catalog) (queue : List Entity) : Prop where
  houses : ∀ m c, catalogs.get? m = some c → Houses config m c
  resident : ∀ m c, catalogs.get? m = some c → ∀ f ∈ c.entities,
    ∃ e, Origin config steps c e ∧ f = config.embeddables.flatten e
  waiting : ∀ e ∈ queue, Origin config steps (catalogFor config catalogs e.model) e

/-- Receiving an entity only adds to the catalog of a model. -/
theorem isPrefix_catalogFor_receive (config : ResolverConfig)
    (catalogs : OrderedMap String Catalog) (e : Entity) (m : String) :
    (catalogFor config catalogs m).entities <+:
      (catalogFor config (receive config catalogs e) m).entities := by
  rw [catalogFor_receive]
  split
  · exact Catalog.isPrefix_receive _ e
  · exact List.prefix_rfl

section Invariant

variable {config : ResolverConfig} {steps : List Step} {catalogs : OrderedMap String Catalog}

/-- Taking in the first entity that waits keeps all origins. -/
theorem sourced_receive {e : Entity} {rest : List Entity}
    (h : Sourced config steps catalogs (e :: rest)) :
    Sourced config steps (receive config catalogs e) rest where
  houses := forall_houses_receive config h.houses e
  resident m c hc f hf := by
    rw [get?_receive] at hc
    split at hc
    · rename_i hm
      cases hc
      have hgrown := Catalog.isPrefix_receive (catalogFor config catalogs m) e
      rcases Catalog.mem_receive hf with hold | ⟨rfl, -⟩
      · -- A catalog with a resident is none that is new.
        cases hget : catalogs.get? m with
        | none =>
          rw [catalogFor_of_get?_eq_none config hget] at hold
          cases hold
        | some old =>
          rw [catalogFor_of_get? config hget] at hold hgrown ⊢
          obtain ⟨s, hs, hflat⟩ := h.resident m old hget f hold
          exact ⟨s, hs.mono hgrown, hflat⟩
      · have horigin := h.waiting e List.mem_cons_self
        rw [← hm] at horigin
        refine ⟨e, horigin.mono hgrown, ?_⟩
        rw [(houses_catalogFor config h.houses m).embeddables]
    · exact h.resident m c hc f hf
  waiting f hf := (h.waiting f (List.mem_cons_of_mem _ hf)).mono
    (isPrefix_catalogFor_receive config catalogs e f.model)

/-- The junctions of a harvest are made on catalogs of this history. -/
theorem sourced_harvest (h : Sourced config steps catalogs []) :
    Sourced config steps catalogs (harvest config catalogs.values).junctions where
  houses := h.houses
  resident := h.resident
  waiting j hj := by
    obtain ⟨c, hc, q, hq, hmade⟩ := mem_junctions hj
    obtain ⟨m, hm⟩ := OrderedMap.mem_values_iff.1 hc
    obtain ⟨rfl, -⟩ := (h.houses m c hm).exists_junctionOf hmade
    rw [catalogFor_of_get? config hm]
    exact .made c q (h.houses _ c hm) List.prefix_rfl hq hmade

/-- Whatever the history, residents and waiting entities have an origin. -/
theorem sourced_history (config : ResolverConfig) (steps : List Step) :
    Sourced config steps (history config steps).catalogs (history config steps).waiting := by
  refine history_preserves (P := Sourced config steps) config steps ?_ ?_
    (fun _ _ _ h => sourced_receive h) (fun _ h => sourced_harvest h)
  · refine ⟨fun m c h => ?_, fun m c h => ?_, fun e he => ?_⟩
    · cases h
    · cases h
    · cases he
  · rintro catalogs queue e he h
    refine ⟨h.houses, h.resident, fun f hf => ?_⟩
    rcases List.mem_append.1 hf with hold | hlast
    · exact h.waiting f hold
    · cases List.mem_singleton.1 hlast
      exact .submitted he

end Invariant

/-- Residents keep their places whatever is done next. -/
theorem isPrefix_history (config : ResolverConfig) (steps later : List Step) (m : String) :
    (catalogFor config (history config steps).catalogs m).entities <+:
      (catalogFor config (history config (steps ++ later)).catalogs m).entities := by
  let kept := (catalogFor config (history config steps).catalogs m).entities
  have hboth : (history config (steps ++ later)).config = config ∧
      kept <+: (catalogFor config (history config (steps ++ later)).catalogs m).entities := by
    rw [history_append]
    refine List.foldlRecOn later perform
      (motive := fun r => r.config = config ∧ kept <+: (catalogFor config r.catalogs m).entities)
      ⟨config_history config steps, List.prefix_rfl⟩ ?_
    rintro r ⟨rfl, hkept⟩ (e | _) -
    · exact ⟨rfl, hkept⟩
    · refine ⟨config_runRound r, ?_⟩
      exact runRound_preserves
        (P := fun catalogs _ => kept <+: (catalogFor r.config catalogs m).entities) r
        (fun catalogs e _ h => h.trans (isPrefix_catalogFor_receive r.config catalogs e m))
        (fun _ h => h) hkept
  exact hboth.2

/-- What is left of a junction `j` that came into the catalog as `f`. -/
structure PlacedJunction (config : ResolverConfig) (c : Catalog) (j f : Entity) : Prop where
  flattened : f = config.embeddables.flatten j
  /-- As it was made, its columns are keys and foreign keys and no
  associations. -/
  columns : ∀ k ∈ j.attributes.values, k.key = true ∧ k.foreignKey = true ∧ k.cardinality = none
  /-- It is as it was made exactly when no column's type names an
  embeddable. -/
  unchanged : f = j ↔ ∀ k ∈ j.attributes.values, config.embeddables.embeddedBy? k = none
  /-- As it was made, it asks for no junction. -/
  quiet : f = j → ∀ q ∈ (c.review config.oneSided).requests, q.source ≠ f.ty

/-- An entity whose attributes are no associations asks for no junction. -/
theorem source_ne_of_forall_cardinality {c : Catalog} {oneSided : Bool} {f : Entity}
    (hf : f ∈ c.entities) (hplain : ∀ a ∈ f.attributes.values, a.cardinality = none) :
    ∀ q ∈ (c.review oneSided).requests, q.source ≠ f.ty := by
  intro q hq hsource
  obtain ⟨v, hv, -, hwish⟩ := Catalog.mem_requests hq
  obtain ⟨t, hk, -, rfl, -⟩ := Catalog.wish?_eq_some hwish
  obtain ⟨hentity, hattribute⟩ := Catalog.mem_visits.1 hv
  -- The request comes from an attribute of the entity itself.
  rw [Catalog.eq_of_mem_of_ty_eq hentity hf hsource] at hattribute
  rw [hplain v.2 hattribute] at hk
  cases hk

/-- A junction that was made and is a resident, flattened, is placed. -/
theorem placedJunction_of_made {config : ResolverConfig} {c stage : Catalog} {q : JunctionRequest}
    {j : Entity} (hmade : stage.synthesize config.separator q = .ok (some j))
    (hf : config.embeddables.flatten j ∈ c.entities) :
    PlacedJunction config c j (config.embeddables.flatten j) := by
  obtain ⟨e, t, a, -, hjunction⟩ := Catalog.junctionOf_of_synthesize hmade
  refine ⟨rfl, hjunction.columns, Embeddables.flatten_eq_self_iff hjunction.built.keyed, ?_⟩
  intro hsame
  refine source_ne_of_forall_cardinality hf fun k hk => ?_
  rw [hsame] at hk
  exact (hjunction.columns k hk).2.2

/-- Where no embeddable contains itself and no single key is an association,
the type of a junction's column names no embeddable: the key it was copied
from is resident, and so nothing is embedded in it. -/
theorem embeddedBy?_column_of_acyclic {config : ResolverConfig} {steps : List Step} {c : Catalog}
    (hacyclic : config.embeddables.Acyclic)
    (hresident : ∀ f ∈ c.entities, ∃ e, Origin config steps c e ∧ f = config.embeddables.flatten e)
    (hkeys : ∀ t ∈ c.entities, ∀ key, t.singleKey? = some key → key.isAssociation = false)
    {stage : Catalog} {q : JunctionRequest} {j : Entity} (hstage : stage.entities <+: c.entities)
    (hmade : stage.synthesize config.separator q = .ok (some j)) :
    ∀ k ∈ j.attributes.values, config.embeddables.embeddedBy? k = none := by
  intro k hk
  rcases Catalog.ty_of_synthesize hmade k hk with hinteger | ⟨t, ht, key, hkey, hty⟩
  · simp only [Embeddables.embeddedBy?]
    rw [hinteger]
    split <;> rfl
  · have htc := hstage.subset ht
    obtain ⟨e, -, hflat⟩ := hresident t htc
    have hmem := Entity.mem_of_singleKey? hkey
    rw [hflat] at hmem
    exact Embeddables.embeddedBy?_eq_none_of_ty_eq hty (hkeys t htc key hkey)
      (Embeddables.forall_embeddedBy?_flatten hacyclic e key hmem)

/-- Then every resident of every reachable state was submitted, or it is a
junction as it was made: its columns are keys and foreign keys and no
associations, and it asks for no junction. -/
theorem resident_cases_of_acyclic {config : ResolverConfig} (hacyclic : config.embeddables.Acyclic)
    (steps : List Step) {m : String} {c : Catalog}
    (hc : (history config steps).catalogs.get? m = some c)
    (hkeys : ∀ t ∈ c.entities, ∀ key, t.singleKey? = some key → key.isAssociation = false)
    {f : Entity} (hf : f ∈ c.entities) :
    (∃ e, .submit e ∈ steps ∧ f = config.embeddables.flatten e) ∨
      (∃ (stage : Catalog) (q : JunctionRequest), stage.entities <+: c.entities ∧
          stage.synthesize config.separator q = .ok (some f)) ∧
        (∀ k ∈ f.attributes.values, k.key = true ∧ k.foreignKey = true ∧ k.cardinality = none) ∧
        ∀ q ∈ (c.review config.oneSided).requests, q.source ≠ f.ty := by
  have hresident := (sourced_history config steps).resident m c hc
  obtain ⟨e, horigin, rfl⟩ := hresident f hf
  cases horigin with
  | submitted hsubmit => exact Or.inl ⟨e, hsubmit, rfl⟩
  | made stage q _ hstage _ hmade =>
    have hplaced := placedJunction_of_made hmade hf
    have hsame := hplaced.unchanged.2
      (embeddedBy?_column_of_acyclic hacyclic hresident hkeys hstage hmade)
    have hquiet := hplaced.quiet hsame
    rw [hsame] at hquiet ⊢
    exact Or.inr ⟨⟨stage, q, hstage, hmade⟩, hplaced.columns, hquiet⟩

/-- Take any resident of any reachable state. It stays as it is, whatever is
done next. It is the flattened form of an entity that was submitted. Or an
earlier stage of its catalog made a junction for a request of its review,
and this is what is left of it. -/
theorem resident_cases (config : ResolverConfig) (steps : List Step) {m : String} {c : Catalog}
    (hc : (history config steps).catalogs.get? m = some c) {f : Entity} (hf : f ∈ c.entities) :
    (∀ later, f ∈ (catalogFor config (history config (steps ++ later)).catalogs m).entities) ∧
      ((∃ e, .submit e ∈ steps ∧ f = config.embeddables.flatten e) ∨
        ∃ (stage : Catalog) (q : JunctionRequest) (j : Entity), Houses config j.model stage ∧
          stage.entities <+: c.entities ∧ q ∈ (stage.review config.oneSided).requests ∧
          stage.synthesize config.separator q = .ok (some j) ∧ PlacedJunction config c j f) := by
  constructor
  · intro later
    have hgrown := isPrefix_history config steps later m
    rw [catalogFor_of_get? config hc] at hgrown
    exact hgrown.subset hf
  · obtain ⟨e, horigin, rfl⟩ := (sourced_history config steps).resident m c hc f hf
    cases horigin with
    | submitted hsubmit => exact Or.inl ⟨e, hsubmit, rfl⟩
    | made stage q hhouses hstage hrequest hmade =>
      exact Or.inr ⟨stage, q, e, hhouses, hstage, hrequest, hmade,
        placedJunction_of_made hmade hf⟩

/-- People and groups get their junction, and it is resident as it was
made. -/
theorem resident_cases_membership :
    let steps := (EntityDraft.buildAll membership).map Step.submit ++ [.round, .round]
    ∃ c f, (history .standard steps).catalogs.get? defaultModel = some c ∧ f ∈ c.entities ∧
      f.attributes.values.map Attribute.name = ["PersonId", "GroupId"] ∧
      ∃ (stage : Catalog) (q : JunctionRequest) (j : Entity), stage.entities <+: c.entities ∧
        stage.synthesize "_" q = .ok (some j) ∧ PlacedJunction .standard c j f ∧ f = j := by
  intro steps
  have hrun : ((history .standard steps).catalogs.get? defaultModel).any (fun c =>
      (c.entity? ⟨["PersonGroup"]⟩).any fun f =>
        decide (f.attributes.values.map Attribute.name = ["PersonId", "GroupId"])) = true := by
    decide +kernel
  obtain ⟨c, hc, hfound⟩ := (Option.any_eq_true _ _).1 hrun
  obtain ⟨f, hf, hnames⟩ := (Option.any_eq_true _ _).1 hfound
  have hmem := Catalog.mem_of_entity? hf
  refine ⟨c, f, hc, hmem, of_decide_eq_true hnames, ?_⟩
  rcases (resident_cases .standard steps hc hmem).2 with
    ⟨e, he, rfl⟩ | ⟨stage, q, j, -, hstage, -, hmade, hplaced⟩
  · -- Nobody submitted an entity of this type.
    have hty : e.ty = ⟨["PersonGroup"]⟩ := by
      rw [← Catalog.ty_of_entity? hf, Embeddables.flatten_ty]
    have hnobody : ∀ d ∈ EntityDraft.buildAll membership, d.ty ≠ ⟨["PersonGroup"]⟩ := by
      decide +kernel
    exact absurd hty (hnobody e (mem_of_submit_mem (by simp) he))
  · exact ⟨stage, q, j, hstage, hmade, hplaced,
      hplaced.flattened.trans (Embeddables.flatten_empty j)⟩

/-- Choices with an embeddable that contains itself. -/
def selfEmbedding : ResolverConfig :=
  { ResolverConfig.standard with
    embeddables := OrderedMap.empty.insert ⟨["Code"]⟩
      { ty := ⟨["Code"]⟩
        attributes := OrderedMap.empty.insert "base"
          { Attribute.column "base" (.named ⟨["Code"]⟩) with key := true } } }

/-- People with groups, whose key is an embedded code. -/
def codedMembership : List EntityDraft :=
  [{ EntityDraft.ofType ⟨["Person"]⟩ with attributes := [.manyToMany "groups" "Group" none] },
    { EntityDraft.ofType ⟨["Group"]⟩ with
      attributes := [.column "code" (.named ⟨["Code"]⟩)] }]

/-- In the first round a junction is made for people and groups, with a
column for either side. In the second round it comes in, and the column for
the groups is replaced by one that is no foreign key: the groups' key has
kept the type of a code, so the column is embedded again. -/
theorem flattened_junction :
    let submits := (EntityDraft.buildAll codedMembership).map Step.submit
    let first := history selfEmbedding (submits ++ [.round])
    let second := history selfEmbedding (submits ++ [.round, .round])
    ∃ stage q j c f, first.catalogs.get? defaultModel = some stage ∧
      stage.synthesize selfEmbedding.separator q = .ok (some j) ∧ first.waiting = [j] ∧
      second.catalogs.get? defaultModel = some c ∧ c.entity? j.ty = some f ∧
      j.attributes.values.map Attribute.name = ["PersonId", "GroupId"] ∧
      f.attributes.values.map Attribute.name = ["PersonId", "GroupId_base"] ∧
      f.attributes.values.map Attribute.foreignKey = [true, false] := by
  intro submits first second
  have hrun : (first.catalogs.get? defaultModel).any (fun stage =>
      (second.catalogs.get? defaultModel).any fun c =>
        (stage.synthesize selfEmbedding.separator
          ⟨⟨["Person"]⟩, ⟨["Group"]⟩, "groups"⟩).toOption.any fun made => made.any fun j =>
            (c.entity? j.ty).any fun f => decide (first.waiting = [j] ∧
              j.attributes.values.map Attribute.name = ["PersonId", "GroupId"] ∧
              f.attributes.values.map Attribute.name = ["PersonId", "GroupId_base"] ∧
              f.attributes.values.map Attribute.foreignKey = [true, false])) = true := by
    decide +kernel
  obtain ⟨stage, hstage, hsecond⟩ := (Option.any_eq_true _ _).1 hrun
  obtain ⟨c, hc, hsynthesis⟩ := (Option.any_eq_true _ _).1 hsecond
  obtain ⟨made, hmade, hjunction⟩ := exists_ok_of_any_toOption hsynthesis
  obtain ⟨j, hj, hresident⟩ := (Option.any_eq_true _ _).1 hjunction
  obtain ⟨f, hf, htest⟩ := (Option.any_eq_true _ _).1 hresident
  obtain ⟨hwaiting, hnames⟩ := of_decide_eq_true htest
  rw [hj] at hmade
  exact ⟨stage, _, j, c, f, hstage, hmade, hwaiting, hc, hf, hnames⟩

end Resolver

end SchemaLinker
