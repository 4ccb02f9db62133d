import SchemaLinker.Proofs.Growth
import SchemaLinker.Proofs.Rounds

/-!
# `SchemaLinker.Proofs.FixedPoint`: how many rounds a resolution needs

After the first round only junctions come in, and they are no associations'
entities. `Resolver.Growing` is the invariant of everything that follows:
every catalog has grown from the one after the first intake by junctions
with different possible tables (`Catalog.GrownBy`), and what waits are more
such junctions, for tables that are still vacant.

So the population is bounded (`Growing.population_le`). A round with
something waiting inserts at least the first that waits, for a harvested
junction is of a new type. Hence a state before which `k` rounds were run
has grown by `k - 1` at least (`Reviewed.grew`), and no more rounds are
needed than there are junctions (`settle_of_reviewed`).

`resolve_eq_ok_of_rounds` puts it together: with `M` many-to-many
associations after the first intake, `2 * M + 1` rounds are enough.
-/

set_option autoImplicit false

namespace SchemaLinker

namespace Resolver

/-- The number of many-to-many associations. -/
def manyToManyCount (catalogs : OrderedMap String Catalog) : Nat :=
  (catalogs.values.flatMap Catalog.manyToMany).length

/-- A junction that may come into the catalogs: its table is possible
there, and vacant. -/
structure Awaited (config : ResolverConfig) (catalogs : OrderedMap String Catalog) (j : Entity) :
    Prop where
  synthesized : j.synthesized = true
  built : j.IsBuilt
  plain : ∀ a ∈ j.attributes.values, a.isAssociation = false
  housed : ∃ c, catalogs.get? j.model = some c ∧ c.entitiesOfTable j.tableName = [] ∧
    j.tableName ∈ c.possibleTables config.separator

/-- The catalogs have grown from the `first` ones by junctions, and only
junctions wait. -/
structure Growing (config : ResolverConfig) (first catalogs : OrderedMap String Catalog)
    (queue : List Entity) : Prop where
  houses : ∀ m c, catalogs.get? m = some c → Houses config m c
  keyed : ∀ m c, catalogs.get? m = some c → c.AllKeyed
  keys : catalogs.keys = first.keys
  grown : ∀ m b c, first.get? m = some b → catalogs.get? m = some c →
    ∃ new, Catalog.GrownBy config.separator b c new
  awaited : ∀ j ∈ queue, Awaited config catalogs j
  ordered : queue.Pairwise fun i j => ¬SharesTable i j

section Growth

variable {config : ResolverConfig} {first catalogs : OrderedMap String Catalog}

/-- A junction stays awaited when one of another table is received. -/
theorem Awaited.receive {j : Entity} (h : Awaited config catalogs j) {e : Entity}
    (hother : ¬SharesTable e j) : Awaited config (receive config catalogs e) j where
  synthesized := h.synthesized
  built := h.built
  plain := h.plain
  housed := by
    obtain ⟨c, hc, hvacant, hpossible⟩ := h.housed
    rw [get?_receive]
    split
    · rename_i hm
      rw [catalogFor_of_get? config hc]
      refine ⟨c.receive e, rfl, ?_, ?_⟩
      · show (c.receive e).entitiesOfTable j.tableName = []
        refine Catalog.entitiesOfTable_receive_eq_nil hvacant fun _ htable => ?_
        exact hother ⟨hm.symm, htable⟩
      · show j.tableName ∈ (c.receive e).possibleTables config.separator
        exact Catalog.mem_possibleTables_of_isPrefix (Catalog.isPrefix_receive c e) hpossible
    · exact ⟨c, hc, hvacant, hpossible⟩

/-- The catalogs grow by junctions when the first that waits is
received. -/
theorem growing_receive
    (hembeddables : ∀ m ∈ config.embeddables.values, ∀ a ∈ m.attributes.values,
      a.isAssociation = false) {e : Entity} {rest : List Entity}
    (h : Growing config first catalogs (e :: rest)) :
    Growing config first (receive config catalogs e) rest := by
  obtain ⟨hbehind, hrest⟩ := List.pairwise_cons.1 h.ordered
  have he := h.awaited e List.mem_cons_self
  obtain ⟨c, hc, hvacant, hpossible⟩ := he.housed
  refine ⟨?_, ?_, ?_, ?_, ?_, hrest⟩
  · exact forall_houses_receive config h.houses e
  · exact allKeyed_receive config h.keyed he.built.keyed
  · show (catalogs.insert e.model _).keys = first.keys
    have hkey : e.model ∈ catalogs.keys := OrderedMap.mem_keys_iff.2 ⟨c, hc⟩
    rw [OrderedMap.keys_insert, if_pos hkey, h.keys]
  · intro m b d hb hd
    show ∃ new, Catalog.GrownBy config.separator b d new
    rw [get?_receive] at hd
    split at hd
    · -- The catalog of its model grows by the junction; the others stay.
      rename_i hm
      cases hd
      rw [hm, catalogFor_of_get? config hc]
      rw [hm] at hb
      obtain ⟨new, hnew⟩ := h.grown e.model b c hb hc
      have hplain : ∀ m ∈ c.embeddables.values, ∀ a ∈ m.attributes.values,
          a.isAssociation = false := by
        rw [(h.houses e.model c hc).embeddables]
        exact hembeddables
      exact hnew.receive hplain he.plain hvacant hpossible
    · exact h.grown m b d hb hd
  · intro j hj
    show Awaited config (receive config catalogs e) j
    exact (h.awaited j (List.mem_cons_of_mem _ hj)).receive (hbehind j hj)

/-- What a harvest of grown catalogs leads to is awaited by them. -/
theorem growing_harvest (h : Growing config first catalogs []) :
    Growing config first catalogs (harvest config catalogs.values).junctions where
  houses := h.houses
  keyed := h.keyed
  keys := h.keys
  grown := h.grown
  awaited j hj := by
    obtain ⟨c, q, e, t, a, hc, hq, hrequested, hjunction⟩ :=
      exists_junctionOf_of_mem_junctions h.houses hj
    obtain ⟨e', a', t', hof⟩ := Catalog.requestOf_of_mem_requests (h.keyed _ c hc) hq
    -- The request names what the review visited.
    have hsame : (e, t, a) = (e', t', a') :=
      Except.ok.inj (hrequested.symm.trans hof.requested)
    cases hsame
    refine ⟨hjunction.synthesized, hjunction.built, fun k hk => ?_, c, hc, ?_, ?_⟩
    · show k.cardinality.isSome = false
      rw [(hjunction.columns k hk).2.2]
      rfl
    · show c.entitiesOfTable j.tableName = []
      rw [hjunction.table]
      exact hjunction.vacant
    · show j.tableName ∈ c.possibleTables config.separator
      rw [hjunction.table]
      exact hof.mem_possibleTables config.separator
  ordered := pairwise_junctions config catalogs.values

/-- An intake of awaited junctions refuses none, and the catalogs have
grown by junctions. -/
theorem growing_takeIn
    (hembeddables : ∀ m ∈ config.embeddables.values, ∀ a ∈ m.attributes.values,
      a.isAssociation = false) {queue : List Entity} (h : Growing config first catalogs queue) :
    (takeIn config catalogs 0 queue).refusal = none ∧
      Growing config first (takeIn config catalogs 0 queue).catalogs [] := by
  have haccepted : (takeIn config catalogs 0 queue).refusal = none := by
    refine takeIn_refusal_eq_none config h.houses 0 fun j hj => ?_
    obtain ⟨d, hd⟩ := (h.awaited j hj).built
    exact ⟨(h.awaited j hj).synthesized, EntityDraft.verify_of_build hd⟩
  exact ⟨haccepted, takeIn_preserves_of_accepted config
    (fun _ _ _ h => growing_receive hembeddables h) haccepted h⟩

/-- Grown catalogs have at most two entities more for each many-to-many
association of the first ones. -/
theorem Growing.population_le {queue : List Entity} (h : Growing config first catalogs queue) :
    population catalogs ≤ population first + 2 * manyToManyCount first := by
  -- Both dictionaries have the same models, so the bound goes model by model.
  have hmodels : ∀ models : List String, (∀ m ∈ models, m ∈ first.keys) →
      ((models.map (catalogFor config catalogs)).flatMap Catalog.entities).length ≤
        ((models.map (catalogFor config first)).flatMap Catalog.entities).length +
          2 * ((models.map (catalogFor config first)).flatMap Catalog.manyToMany).length := by
    intro models
    induction models with
    | nil =>
      intro _
      exact Nat.le_refl 0
    | cons m rest ih =>
      intro hkeys
      have hrest := ih fun k hk => hkeys k (List.mem_cons_of_mem _ hk)
      obtain ⟨b, hb⟩ := OrderedMap.mem_keys_iff.1 (hkeys m List.mem_cons_self)
      obtain ⟨c, hc⟩ := OrderedMap.mem_keys_iff.1 (h.keys ▸ hkeys m List.mem_cons_self)
      obtain ⟨new, hnew⟩ := h.grown m b c hb hc
      have hentities : c.entities.length = b.entities.length + new.length := by
        rw [hnew.entities, List.length_append]
      have hbound := hnew.length_le
      simp only [List.map_cons, List.flatMap_cons, List.length_append,
        catalogFor_of_get? config hb, catalogFor_of_get? config hc]
      omega
  have hall := hmodels first.keys fun _ hm => hm
  simp only [population, manyToManyCount]
  rw [values_eq_map_catalogFor config catalogs, values_eq_map_catalogFor config first, h.keys]
  exact hall

end Growth

/-- The resolver after a round that came to its end. It has grown by one
entity at least for each round after the first. -/
structure Reviewed (config : ResolverConfig) (first : OrderedMap String Catalog) (r : Resolver) :
    Prop where
  chosen : r.config = config
  growing : Growing config first r.catalogs r.waiting
  waiting : r.waiting = (harvest config r.catalogs.values).junctions
  state : r.waiting = [] → r.state = .stable
  grew : ∃ inserted, population r.catalogs = population first + inserted ∧ r.round ≤ 1 + inserted

variable {config : ResolverConfig} {first : OrderedMap String Catalog}

/-- The end of a round whose intake has made the catalogs grow. -/
theorem reviewed_settleRound {r : Resolver} {intake : Intake} (hconfig : r.config = config)
    (h : Growing config first intake.catalogs [])
    (hgrew : ∃ inserted, population intake.catalogs = population first + inserted ∧
      r.round ≤ inserted) : Reviewed config first (r.settleRound intake).2 := by
  subst hconfig
  obtain ⟨inserted, hpopulation, hround⟩ := hgrew
  refine ⟨rfl, growing_harvest h, rfl, fun hempty => ?_, inserted, hpopulation, ?_⟩
  · show (if (harvest r.config intake.catalogs.values).junctions.isEmpty then ResolverState.stable
      else .resolving) = .stable
    have hnone : (harvest r.config intake.catalogs.values).junctions = [] := hempty
    rw [hnone]
    rfl
  · show r.round + 1 ≤ 1 + inserted
    omega

/-- A reviewed resolver is settled when nothing waits. -/
theorem Reviewed.isSettled_iff_waiting {r : Resolver} (h : Reviewed config first r) :
    r.isSettled = true ↔ r.waiting = [] := by
  rw [isSettled_iff]
  exact ⟨fun hboth => hboth.2, fun hempty => ⟨h.state hempty, hempty⟩⟩

/-- What waits after a review is new, so the next intake inserts some of
it. -/
theorem Reviewed.inserted_pos {r : Resolver} (h : Reviewed config first r)
    (hwaiting : r.waiting ≠ []) : 0 < (takeIn config r.catalogs 0 r.waiting).inserted := by
  obtain ⟨j, rest, hqueue⟩ := List.exists_cons_of_ne_nil hwaiting
  have hj : j ∈ r.waiting := by
    rw [hqueue]
    exact List.mem_cons_self
  obtain ⟨d, hd⟩ := (h.growing.awaited j hj).built
  have hverify : j.verify = .ok () := EntityDraft.verify_of_build hd
  -- What waits was harvested from these very catalogs, where its type is unknown.
  rw [h.waiting] at hj
  obtain ⟨c, q, e, t, a, hc, -, -, hjunction⟩ :=
    exists_junctionOf_of_mem_junctions h.growing.houses hj
  have hcatalog := catalogFor_of_get? config hc
  rw [hqueue]
  refine inserted_takeIn_pos config ?_ hverify ?_
  · show j.model = (catalogFor config r.catalogs j.model).model
    rw [hcatalog, (h.growing.houses j.model c hc).model]
  · show (catalogFor config r.catalogs j.model).entity? j.ty = none
    rw [hcatalog]
    exact hjunction.unknown

/-- A first round with built entities leaves a reviewed resolver. -/
theorem reviewed_first_round (config : ResolverConfig) {entities : List Entity}
    (hbuilt : ∀ e ∈ entities, e.IsBuilt) :
    Reviewed config (takeIn config .empty 0 entities).catalogs
      ((submitAll config entities).settleRound (takeIn config .empty 0 entities)).2 := by
  have hstart : ∀ m c, (.empty : OrderedMap String Catalog).get? m = some c → c.AllKeyed := by
    intro m c h
    cases h
  have hkeyed := takeIn_preserves config
    (P := fun catalogs queue =>
      (∀ m c, catalogs.get? m = some c → c.AllKeyed) ∧ ∀ e ∈ queue, e.Keyed)
    (fun _ e _ h => ⟨allKeyed_receive config h.1 (h.2 e List.mem_cons_self),
      fun f hf => h.2 f (List.mem_cons_of_mem _ hf)⟩) .empty 0 entities
    ⟨hstart, fun e he => (hbuilt e he).keyed⟩
  have hgrowing : Growing config (takeIn config .empty 0 entities).catalogs
      (takeIn config .empty 0 entities).catalogs [] := by
    refine ⟨?_, hkeyed.1, rfl, fun m b c hb hc => ?_, fun j hj => ?_, List.Pairwise.nil⟩
    · exact houses_takeIn config (fun m c h => by cases h) entities 0
    · rw [hb] at hc
      cases hc
      exact ⟨[], Catalog.grownBy_nil config.separator b⟩
    · cases hj
  rw [submitAll_eq]
  exact reviewed_settleRound rfl hgrowing ⟨0, rfl, Nat.le_refl 0⟩

section Bound

variable (hembeddables : ∀ m ∈ config.embeddables.values, ∀ a ∈ m.attributes.values,
  a.isAssociation = false)

include hembeddables

/-- As long as something waits, there were at most two rounds for each
many-to-many association. -/
theorem Reviewed.round_le {r : Resolver} (h : Reviewed config first r)
    (hwaiting : r.waiting ≠ []) : r.round ≤ 2 * manyToManyCount first := by
  obtain ⟨inserted, hpopulation, hround⟩ := h.grew
  -- The next intake grows the population once more and still keeps the bound.
  have hpos := h.inserted_pos hwaiting
  have hgrowth := population_takeIn config r.catalogs 0 r.waiting
  have hbound := (growing_takeIn hembeddables h.growing).2.population_le
  omega

/-- A round with something waiting succeeds, if one is left. -/
theorem Reviewed.exists_runRound {r : Resolver} (h : Reviewed config first r)
    (hwaiting : r.waiting ≠ []) (hround : r.round < config.maxRounds) :
    ∃ report after, r.runRound = (.ok report, after) ∧ Reviewed config first after ∧
      after.round = r.round + 1 := by
  obtain ⟨haccepted, hgrown⟩ := growing_takeIn hembeddables h.growing
  obtain ⟨inserted, hpopulation, hrounds⟩ := h.grew
  have hpos := h.inserted_pos hwaiting
  have hgrowth := population_takeIn config r.catalogs 0 r.waiting
  have hconfig := h.chosen
  subst hconfig
  refine ⟨_, _, runRound_of_accepted hround haccepted, ?_, rfl⟩
  refine reviewed_settleRound rfl hgrown ⟨inserted + (takeIn r.config r.catalogs 0
    r.waiting).inserted, ?_, ?_⟩
  · omega
  · omega

/-- When two rounds for each many-to-many association and one more are
allowed, a reviewed resolver settles. -/
theorem settle_of_reviewed (hlimit : 2 * manyToManyCount first + 1 ≤ config.maxRounds) {n : Nat}
    {r : Resolver} (h : Reviewed config first r)
    (hrounds : 2 * manyToManyCount first + 1 ≤ n + r.round) :
    ∃ s, settle n r = .ok s ∧ Reviewed config first s := by
  induction n generalizing r with
  | zero =>
    -- No round is left, so the bound says that nothing waits.
    have hsettled : r.isSettled = true := by
      rw [h.isSettled_iff_waiting]
      refine Classical.byContradiction fun hwaiting => ?_
      have hle := h.round_le hembeddables hwaiting
      omega
    exact ⟨r, settle_of_isSettled 0 hsettled, h⟩
  | succ n ih =>
    by_cases hwaiting : r.waiting = []
    · exact ⟨r, settle_of_isSettled (n + 1) (h.isSettled_iff_waiting.2 hwaiting), h⟩
    · -- Something waits, so the limit is not reached yet.
      have hle := h.round_le hembeddables hwaiting
      obtain ⟨report, after, hrun, hafter, hround⟩ :=
        h.exists_runRound hembeddables hwaiting (by omega)
      obtain ⟨s, hs, hreviewed⟩ := ih hafter (by omega)
      have hunsettled : r.isSettled = false :=
        Bool.eq_false_iff.2 fun hsettled => hwaiting (h.isSettled_iff_waiting.1 hsettled)
      refine ⟨s, ?_, hreviewed⟩
      rw [settle_of_runRound n hunsettled hrun]
      exact hs

/-- Entities are built and submitted to a new resolver whose embeddables
hold no association. No entity is refused, and the resolver is allowed two
rounds for each many-to-many association after the first intake, and one
more. Then it comes to a resolution, after at most one round more than
entities come in later, and these are at most two for each association.
Every larger limit leads to the same resolution. -/
theorem resolve_eq_ok_of_rounds {entities : List Entity} (hbuilt : ∀ e ∈ entities, e.IsBuilt)
    (haccepted : (takeIn config .empty 0 entities).refusal = none)
    (hlimit : 2 * manyToManyCount (takeIn config .empty 0 entities).catalogs + 1 ≤
      config.maxRounds) :
    ∃ res inserted, (submitAll config entities).resolve = .ok res ∧
      population res.catalogs =
        population (takeIn config .empty 0 entities).catalogs + inserted ∧
      res.rounds ≤ 1 + inserted ∧
      1 + inserted ≤ 2 * manyToManyCount (takeIn config .empty 0 entities).catalogs + 1 ∧
      ∀ limit, config.maxRounds ≤ limit →
        (submitAll { config with maxRounds := limit } entities).resolve = .ok res := by
  have hfirst := reviewed_first_round config hbuilt
  have hround : ((submitAll config entities).settleRound
      (takeIn config .empty 0 entities)).2.round = 1 := by
    rw [submitAll_eq]
    rfl
  -- The rounds after the first settle what the first leaves.
  obtain ⟨s, hsettle, hreviewed⟩ :=
    settle_of_reviewed hembeddables hlimit (n := config.maxRounds - 1) hfirst (by omega)
  have hresolve : (submitAll config entities).resolve = .ok s.resolution := by
    rw [resolve_submitAll (by omega) haccepted, hsettle]
    rfl
  obtain ⟨inserted, hpopulation, hrounds⟩ := hreviewed.grew
  have hbound := hreviewed.growing.population_le
  refine ⟨s.resolution, inserted, hresolve, hpopulation, hrounds, by omega, ?_⟩
  intro limit hlarger
  rw [submitAll_withLimit]
  refine resolve_withLimit hresolve ?_
  rw [submitAll_eq]
  exact hlarger

end Bound

/-- People and groups have two many-to-many associations, so five rounds
are enough for them. -/
theorem resolve_membership :
    let config := { ResolverConfig.standard with maxRounds := 5 }
    let entities := EntityDraft.buildAll membership
    let first := (takeIn config .empty 0 entities).catalogs
    manyToManyCount first = 2 ∧
    ∃ res inserted, (submitAll config entities).resolve = .ok res ∧
      population res.catalogs = population first + inserted ∧
      res.rounds ≤ 1 + inserted ∧ 1 + inserted ≤ 2 * manyToManyCount first + 1 ∧
      ∀ limit, 5 ≤ limit →
        (submitAll { config with maxRounds := limit } entities).resolve = .ok res := by
  intro config entities first
  have hembeddables : ∀ m ∈ config.embeddables.values, ∀ a ∈ m.attributes.values,
      a.isAssociation = false := by
    intro m hm
    cases hm
  have haccepted : (takeIn config .empty 0 entities).refusal = none := by
    have hnone : (takeIn config .empty 0 entities).refusal.isNone = true := by decide +kernel
    exact Option.isNone_iff_eq_none.1 hnone
  have hcount : manyToManyCount first = 2 := by decide +kernel
  have hlimit : 2 * manyToManyCount first + 1 ≤ config.maxRounds := by
    show 2 * manyToManyCount first + 1 ≤ 5
    omega
  exact ⟨hcount, resolve_eq_ok_of_rounds hembeddables
    (fun _ => EntityDraft.isBuilt_of_mem_buildAll) haccepted hlimit⟩

end Resolver

end SchemaLinker
