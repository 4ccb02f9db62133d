import SchemaLinker.Proofs.History

/-!
# `SchemaLinker.Proofs.JunctionTables`: no junction is made twice

A junction is made against the catalogs of one round and comes in with
the next. In between, entities may be submitted, entities may come in, and
an intake may stop. `Resolver.TablesApart` is what survives all this:

* `synthesized`: no two synthesized residents of a catalog share a table,
* `vacant`: no resident has the table of a synthesized entity that waits,
* `ordered`: no entity stands before a synthesized one with its table.

The order matters. Junctions enter an empty queue and submitted entities
go behind them, so an entity that takes a junction's table cannot come in
before the junction. `tablesApart_receive` is the step of an intake and
`tablesApart_harvest` the end of a round.

`pairwise_synthesized_history` states the invariant for every reachable
state, and for every moment of the next intake.
-/

set_option autoImplicit false

namespace SchemaLinker

namespace Catalog

/-- No two synthesized entities of the catalog share a table. -/
def SynthesizedApart (c : Catalog) : Prop :=
  c.entities.Pairwise fun d e => d.synthesized = true → e.synthesized = true →
    ¬Text.sameFolded d.tableName e.tableName = true

/-- Synthesized entities stay apart when a synthesized one is received
only for a vacant table. -/
theorem synthesizedApart_receive {c : Catalog} (h : c.SynthesizedApart) {e : Entity}
    (hvacant : e.synthesized = true → c.entitiesOfTable e.tableName = []) :
    (c.receive e).SynthesizedApart := by
  simp only [SynthesizedApart]
  rcases receive_cases c e with hsame | ⟨hnew, -, -, happ⟩
  · rw [hsame]
    exact h
  · rw [happ]
    show (c.entities ++ [c.embeddables.flatten e]).Pairwise _
    refine List.pairwise_append.2 ⟨h, List.pairwise_singleton _ _, ?_⟩
    intro d hd f hf _ hsynth htable
    cases List.mem_singleton.1 hf
    rw [Embeddables.flatten_synthesized] at hsynth
    rw [Embeddables.flatten_tableName] at htable
    -- The resident would stand under a table that is vacant.
    have hresident : d ∈ c.entitiesOfTable e.tableName := mem_entitiesOfTable.2 ⟨hd, htable⟩
    rw [hvacant hsynth] at hresident
    cases hresident

end Catalog

namespace Resolver

/-- Junctions have their tables for themselves, in the catalogs and in the
queue. -/
structure TablesApart (config : ResolverConfig) (catalogs : OrderedMap String Catalog)
    (queue : List Entity) : Prop where
  houses : ∀ m c, catalogs.get? m = some c → Houses config m c
  synthesized : ∀ m c, catalogs.get? m = some c → c.SynthesizedApart
  vacant : ∀ j ∈ queue, j.synthesized = true →
    (catalogFor config catalogs j.model).entitiesOfTable j.tableName = []
  ordered : queue.Pairwise fun e j => j.synthesized = true → ¬SharesTable e j

variable {config : ResolverConfig} {catalogs : OrderedMap String Catalog}

/-- Where there are no entities, no table is taken. -/
theorem tablesApart_empty : TablesApart config .empty [] where
  houses m c h := by cases h
  synthesized m c h := by cases h
  vacant j hj := by cases hj
  ordered := List.Pairwise.nil

/-- Junctions stay apart when an entity that was not made by resolution is
submitted. -/
theorem tablesApart_submit {queue : List Entity} (h : TablesApart config catalogs queue)
    {e : Entity} (he : e.synthesized = false) : TablesApart config catalogs (queue ++ [e]) where
  houses := h.houses
  synthesized := h.synthesized
  vacant j hj hsynth := by
    rcases List.mem_append.1 hj with hold | hlast
    · exact h.vacant j hold hsynth
    · rw [List.mem_singleton.1 hlast, he] at hsynth
      cases hsynth
  ordered := by
    refine List.pairwise_append.2 ⟨h.ordered, List.pairwise_singleton _ _, ?_⟩
    intro d _ j hj hsynth
    rw [List.mem_singleton.1 hj, he] at hsynth
    cases hsynth

/-- Junctions stay apart when the head of the queue is received. -/
theorem tablesApart_receive {e : Entity} {rest : List Entity}
    (h : TablesApart config catalogs (e :: rest)) :
    TablesApart config (receive config catalogs e) rest := by
  obtain ⟨hbehind, hrest⟩ := List.pairwise_cons.1 h.ordered
  refine ⟨forall_houses_receive config h.houses e, ?_, ?_, hrest⟩
  · intro m c hc
    show c.SynthesizedApart
    rw [get?_receive] at hc
    split at hc
    · -- This is the catalog that received the head, for a vacant table.
      rename_i hm
      cases hc
      rw [hm]
      refine Catalog.synthesizedApart_receive ?_ (h.vacant e List.mem_cons_self)
      cases hold : catalogs.get? e.model with
      | none =>
        rw [catalogFor_of_get?_eq_none config hold]
        exact List.Pairwise.nil
      | some old =>
        rw [catalogFor_of_get? config hold]
        exact h.synthesized _ _ hold
    · exact h.synthesized m c hc
  · intro j hj hsynth
    show (catalogFor config (receive config catalogs e) j.model).entitiesOfTable j.tableName = []
    have hold := h.vacant j (List.mem_cons_of_mem _ hj) hsynth
    rw [catalogFor_receive]
    split
    · -- The head went to the same catalog, and its table is another.
      rename_i hm
      refine Catalog.entitiesOfTable_receive_eq_nil hold fun _ htable => ?_
      exact hbehind j hj hsynth ⟨hm.symm, htable⟩
    · exact hold

/-- The junctions of a harvest are apart from each other and from the
catalogs that it reviewed. -/
theorem tablesApart_harvest (h : TablesApart config catalogs []) :
    TablesApart config catalogs (harvest config catalogs.values).junctions where
  houses := h.houses
  synthesized := h.synthesized
  vacant j hj _ := by
    obtain ⟨c, q, e, t, a, hc, -, -, hjunction⟩ := exists_junctionOf_of_mem_junctions h.houses hj
    show (catalogFor config catalogs j.model).entitiesOfTable j.tableName = []
    rw [catalogFor_of_get? config hc, hjunction.table]
    exact hjunction.vacant
  ordered := by
    refine (pairwise_junctions config catalogs.values).imp ?_
    intro i j hapart _
    exact hapart

/-- Junctions are apart in every reachable state, if only entities are
submitted that resolution did not make. -/
theorem tablesApart_history {steps : List Step}
    (hsteps : ∀ e, .submit e ∈ steps → e.synthesized = false) :
    TablesApart config (history config steps).catalogs (history config steps).waiting :=
  history_preserves (P := TablesApart config) config steps tablesApart_empty
    (fun _ _ e he h => tablesApart_submit h (hsteps e he))
    (fun _ _ _ h => tablesApart_receive h)
    fun _ h => tablesApart_harvest h

/-- Junctions stay apart up to the moment when the entities at the front
of the queue have come in. -/
theorem tablesApart_takeIn {ahead behind : List Entity}
    (h : TablesApart config catalogs (ahead ++ behind))
    (haccepted : (takeIn config catalogs 0 ahead).refusal = none) :
    TablesApart config (takeIn config catalogs 0 ahead).catalogs behind := by
  -- The entities behind stay in the queue, so the invariant carries them along.
  have hreceive : ∀ catalogs e rest, TablesApart config catalogs (e :: rest ++ behind) →
      TablesApart config (receive config catalogs e) (rest ++ behind) :=
    fun _ _ _ h => tablesApart_receive h
  exact takeIn_preserves_of_accepted config
    (P := fun catalogs queue => TablesApart config catalogs (queue ++ behind)) hreceive
    haccepted h

/-- Submit entities that resolution did not make, and run rounds, in any
order. Then no two synthesized entities of a catalog share a table.
Moreover, when the next intake comes to a synthesized entity, no resident
of its catalog has its table. -/
theorem pairwise_synthesized_history {steps : List Step}
    (hsteps : ∀ e, .submit e ∈ steps → e.synthesized = false) :
    (∀ c ∈ (history config steps).catalogs.values,
      c.entities.Pairwise fun d e => d.synthesized = true → e.synthesized = true →
        ¬Text.sameFolded d.tableName e.tableName = true) ∧
    ∀ ahead j behind, (history config steps).waiting = ahead ++ j :: behind →
      j.synthesized = true →
      (takeIn config (history config steps).catalogs 0 ahead).refusal = none →
      (catalogFor config (takeIn config (history config steps).catalogs 0 ahead).catalogs
        j.model).entitiesOfTable j.tableName = [] := by
  have h : TablesApart config (history config steps).catalogs (history config steps).waiting :=
    tablesApart_history hsteps
  constructor
  · intro c hc
    obtain ⟨m, hm⟩ := OrderedMap.mem_values_iff.1 hc
    exact h.synthesized m c hm
  · intro ahead j behind hwaiting hsynth haccepted
    rw [hwaiting] at h
    exact (tablesApart_takeIn h haccepted).vacant j List.mem_cons_self hsynth

/-- People and groups are submitted, and their junction is made in the
first round and comes in with the second. -/
theorem pairwise_synthesized_membership :
    let submits := (EntityDraft.buildAll membership).map Step.submit
    let first := history .standard (submits ++ [.round])
    let second := history .standard (submits ++ [.round, .round])
    (∃ j, first.waiting = [j] ∧ j.synthesized = true ∧ j.tableName = "Person_Group" ∧
      (catalogFor .standard first.catalogs j.model).entitiesOfTable j.tableName = []) ∧
    (second.catalogs.values.map fun c => c.entities.map Entity.tableName) =
      [["Person", "Group", "Person_Group"]] ∧
    ∀ c ∈ second.catalogs.values,
      c.entities.Pairwise fun d e => d.synthesized = true → e.synthesized = true →
        ¬Text.sameFolded d.tableName e.tableName = true := by
  intro submits first second
  have hsubmits : ∀ rounds : List Step, (∀ e, .submit e ∉ rounds) →
      ∀ e, .submit e ∈ submits ++ rounds → e.synthesized = false := by
    intro rounds hrounds e he
    have hall : ∀ e ∈ EntityDraft.buildAll membership, e.synthesized = false := by
      decide +kernel
    rcases List.mem_append.1 he with hsubmit | hround
    · obtain ⟨f, hf, hfe⟩ := List.mem_map.1 hsubmit
      cases hfe
      exact hall _ hf
    · exact absurd hround (hrounds e)
  have hwaiting : (first.waiting.map fun j => (j.tableName, j.synthesized)) =
      [("Person_Group", true)] := by decide +kernel
  refine ⟨?_, by decide +kernel, ?_⟩
  · obtain ⟨j, hj, hboth⟩ := List.map_eq_singleton_iff.1 hwaiting
    obtain ⟨htable, hsynth⟩ := Prod.mk.inj hboth
    exact ⟨j, hj, hsynth, htable,
      (pairwise_synthesized_history (hsubmits [.round] (by simp))).2 [] j [] hj hsynth rfl⟩
  · exact (pairwise_synthesized_history (hsubmits [.round, .round] (by simp))).1

end Resolver

end SchemaLinker
