import Mathlib.Data.Finset.Dedup
import Mathlib.Data.Finset.Card
import SchemaLinker.Proofs.Assembly
import SchemaLinker.Proofs.History

/-!
# `SchemaLinker.Proofs.QueuedJunctions`: what becomes of the junctions of a round

A round that succeeds queues the junctions of its harvest and reports their
types. Entities may be submitted behind them before the next round. The
junctions were checked against the catalogs of the first round, and when the
second takes them in, these have grown by earlier junctions only.

`Resolver.resident?` looks an entity up by its `Entity.address`, the model and
the type. `resident?_receiveAll` says what it finds after a queue was received:
what was there before, and else the first entity of the queue at the address
that can stand. So of several junctions of one type the first comes in, and the
others are ignored. `add_card_le_inserted_takeIn` counts the addresses that were
vacant.

`Resolver.Queued` is what the junctions of a harvest have in common. None of
them is refused, so an intake gets to the entities behind them, and if it stops,
it stops at one of those (`Queued.exists_received`).

`honored_history` puts this together for every reachable state:
`Resolver.Honored` states what the next round does with the junctions.
-/

set_option autoImplicit false

namespace SchemaLinker

/-- The model and the type of an entity. -/
def Entity.address (e : Entity) : String × Path := (e.model, e.ty)

namespace Resolver

/-- The resident of a type in the catalog of a model. -/
def resident? (catalogs : OrderedMap String Catalog) (place : String × Path) : Option Entity :=
  (catalogs.get? place.1).bind fun c => c.entity? place.2

variable (config : ResolverConfig)

/-- What is resident under an address is what the catalog of its model finds. -/
theorem entity?_catalogFor (catalogs : OrderedMap String Catalog) (m : String) (ty : Path) :
    (catalogFor config catalogs m).entity? ty = resident? catalogs (m, ty) := by
  simp only [catalogFor, resident?]
  cases catalogs.get? m <;> rfl

variable {catalogs : OrderedMap String Catalog}

/-! ### Receiving a queue -/

/-- An arrival is found under its address unless something else was there. -/
theorem resident?_receive (hcatalogs : ∀ m c, catalogs.get? m = some c → Houses config m c)
    (e : Entity) (place : String × Path) :
    resident? (receive config catalogs e) place =
      (resident? catalogs place).or
        (if e.address == place && e.verify.isOk then some (config.embeddables.flatten e)
          else none) := by
  obtain ⟨m, ty⟩ := place
  have hhouses := houses_catalogFor config hcatalogs m
  have haddress : (e.address == (m, ty)) = (e.model == m && e.ty == ty) := rfl
  rw [← entity?_catalogFor config, ← entity?_catalogFor config, catalogFor_receive, haddress]
  -- Every catalog is kept under its model, so a catalog admits what can stand.
  by_cases hm : m = e.model
  · rw [if_pos hm, Catalog.entity?_receive, hhouses.embeddables, Catalog.admits, hhouses.model,
      beq_iff_eq.2 hm.symm, Bool.true_and, Bool.true_and]
  · rw [if_neg hm, beq_eq_false_iff_ne.2 (Ne.symm hm), Bool.false_and, Bool.false_and,
      if_neg Bool.false_ne_true, Option.or_none]

/-- After a queue was received, an address has the entity that was there before,
and else the first entity of the queue at this address that passes
`Entity.verify`. -/
theorem resident?_receiveAll (hcatalogs : ∀ m c, catalogs.get? m = some c → Houses config m c)
    (queue : List Entity) (place : String × Path) :
    resident? (receiveAll config catalogs queue) place =
      (resident? catalogs place).or
        ((queue.find? fun e => e.address == place && e.verify.isOk).map
          config.embeddables.flatten) := by
  induction queue generalizing catalogs with
  | nil => exact Option.or_none.symm
  | cons e rest ih =>
    -- What the head brings comes before what the rest brings, on both sides.
    show resident? (receiveAll config (receive config catalogs e) rest) place = _
    rw [ih (forall_houses_receive config hcatalogs e), resident?_receive config hcatalogs,
      Option.or_assoc, List.find?_cons]
    cases e.address == place && e.verify.isOk <;> rfl

/-- A queue in which no entity has the address has none for it. -/
theorem find?_eq_none_of_forall_address_ne {queue : List Entity} {place : String × Path}
    (h : ∀ e ∈ queue, e.address ≠ place) :
    (queue.find? fun e => e.address == place && e.verify.isOk) = none := by
  refine List.find?_eq_none.2 fun e he => ?_
  rw [beq_eq_false_iff_ne.2 (h e he)]
  exact Bool.false_ne_true

/-- A table stays vacant while a queue without entities of it is received. -/
theorem entitiesOfTable_receiveAll_eq_nil
    (hcatalogs : ∀ m c, catalogs.get? m = some c → Houses config m c) {m table : String}
    (hvacant : (catalogFor config catalogs m).entitiesOfTable table = []) {queue : List Entity}
    (hother : ∀ e ∈ queue, e.model = m → ¬Text.sameFolded e.tableName table = true) :
    (catalogFor config (receiveAll config catalogs queue) m).entitiesOfTable table = [] := by
  induction queue generalizing catalogs with
  | nil => exact hvacant
  | cons e rest ih =>
    refine ih (forall_houses_receive config hcatalogs e) ?_ fun f hf =>
      hother f (List.mem_cons_of_mem _ hf)
    rw [catalogFor_receive]
    split
    · rename_i hm
      exact Catalog.entitiesOfTable_receive_eq_nil hvacant fun _ =>
        hother e List.mem_cons_self hm.symm
    · exact hvacant

/-! ### Taking a queue in -/

/-- An intake that accepts a queue inserts an entity at least for each address
of the queue that was vacant. -/
theorem add_card_le_inserted_takeIn
    (hcatalogs : ∀ m c, catalogs.get? m = some c → Houses config m c) {n : Nat}
    {queue : List Entity} (haccepted : (takeIn config catalogs n queue).refusal = none)
    {vacant : Finset (String × Path)} (hqueue : ∀ p ∈ vacant, p ∈ queue.map Entity.address)
    (hvacant : ∀ p ∈ vacant, resident? catalogs p = none) :
    n + vacant.card ≤ (takeIn config catalogs n queue).inserted := by
  induction queue generalizing catalogs n vacant with
  | nil =>
    have hempty : vacant = ∅ := Finset.eq_empty_of_forall_notMem fun p hp =>
      absurd (hqueue p hp) List.not_mem_nil
    rw [hempty]
    exact Nat.le_refl n
  | cons e rest ih =>
    have hhouses := forall_houses_receive config hcatalogs e
    -- The addresses other than that of the head are those of the rest, and still vacant.
    have hrest : ∀ p ∈ vacant.erase e.address, p ∈ rest.map Entity.address := by
      intro p hp
      obtain ⟨hne, hp⟩ := Finset.mem_erase.1 hp
      exact (List.mem_cons.1 (hqueue p hp)).resolve_left hne
    have hstill : ∀ p ∈ vacant.erase e.address,
        resident? (receive config catalogs e) p = none := by
      intro p hp
      obtain ⟨hne, hp⟩ := Finset.mem_erase.1 hp
      rw [resident?_receive config hcatalogs, hvacant p hp, beq_eq_false_iff_ne.2 (Ne.symm hne)]
      rfl
    rw [takeIn_cons] at haccepted ⊢
    rcases Catalog.add_cases (catalogFor config catalogs e.model) e with
      ⟨hnew, -, -, hadd⟩ | ⟨resident, hresident, -, -, -, hadd⟩ | ⟨fault, -, hadd⟩
    · rw [hadd] at haccepted ⊢
      have hcount := ih hhouses haccepted hrest hstill
      have herase := Finset.pred_card_le_card_erase (s := vacant) (a := e.address)
      dsimp only
      omega
    · -- The head is ignored, and its address is not one of those that were vacant.
      rw [hadd] at haccepted ⊢
      have hmem : e.address ∉ vacant := by
        intro hmem
        have hnone := hvacant _ hmem
        rw [Entity.address, ← entity?_catalogFor config, hresident] at hnone
        cases hnone
      have hcount := ih hhouses haccepted hrest hstill
      rw [Finset.erase_eq_of_notMem hmem] at hcount
      exact hcount
    · rw [hadd] at haccepted
      cases haccepted

/-! ### The junctions of a round -/

/-- Junctions as a harvest of these catalogs leaves them: each has a type and a
table that are vacant in the catalog of its model, and no two have one table. -/
structure Queued (catalogs : OrderedMap String Catalog) (junctions : List Entity) : Prop where
  houses : ∀ m c, catalogs.get? m = some c → Houses config m c
  synthesized : ∀ j ∈ junctions, j.synthesized = true
  verified : ∀ j ∈ junctions, j.verify = .ok ()
  unknown : ∀ j ∈ junctions, resident? catalogs j.address = none
  vacant : ∀ j ∈ junctions, (catalogFor config catalogs j.model).entitiesOfTable j.tableName = []
  apart : junctions.Pairwise fun i j => ¬SharesTable i j

/-- What is harvested can be queued. -/
theorem queued_harvest (hcatalogs : ∀ m c, catalogs.get? m = some c → Houses config m c) :
    Queued config catalogs (harvest config catalogs.values).junctions := by
  have hmade : ∀ j ∈ (harvest config catalogs.values).junctions,
      ∃ e t a, (catalogFor config catalogs j.model).JunctionOf config.separator e t a j := by
    intro j hj
    obtain ⟨c, q, e, t, a, hc, -, -, hjunction⟩ :=
      exists_junctionOf_of_mem_junctions hcatalogs hj
    rw [catalogFor_of_get? config hc]
    exact ⟨e, t, a, hjunction⟩
  refine ⟨hcatalogs, fun j hj => ?_, fun j hj => ?_, fun j hj => ?_, fun j hj => ?_,
    pairwise_junctions config catalogs.values⟩
  all_goals obtain ⟨e, t, a, hjunction⟩ := hmade j hj
  · exact hjunction.synthesized
  · obtain ⟨draft, hbuild⟩ := hjunction.built
    exact EntityDraft.verify_of_build hbuild
  · rw [Entity.address, ← entity?_catalogFor config]
    exact hjunction.unknown
  · rw [hjunction.table]
    exact hjunction.vacant

section Queued

variable {config} {junctions : List Entity}

/-- Queued junctions verify. -/
theorem Queued.isOk_verify (h : Queued config catalogs junctions) {j : Entity}
    (hj : j ∈ junctions) : j.verify.isOk = true := by
  rw [h.verified j hj]
  rfl

/-- The junctions are not refused. -/
theorem Queued.refusal_takeIn (h : Queued config catalogs junctions) (n : Nat) :
    (takeIn config catalogs n junctions).refusal = none :=
  takeIn_refusal_eq_none config h.houses n fun j hj => ⟨h.synthesized j hj, h.verified j hj⟩

/-- Once they were received, their types are resident. -/
theorem Queued.exists_resident (h : Queued config catalogs junctions) (behind : List Entity)
    {j : Entity} (hj : j ∈ junctions) :
    ∃ f, resident? (receiveAll config catalogs (junctions ++ behind)) j.address = some f := by
  have hfound : ((junctions ++ behind).find? fun e =>
      e.address == j.address && e.verify.isOk).isSome = true := by
    refine List.find?_isSome.2 ⟨j, List.mem_append_left _ hj, ?_⟩
    rw [beq_self_eq_true, h.isOk_verify hj]
    rfl
  obtain ⟨f, hf⟩ := Option.isSome_iff_exists.1 hfound
  refine ⟨config.embeddables.flatten f, ?_⟩
  rw [resident?_receiveAll config h.houses, h.unknown j hj, hf]
  rfl

/-- When the first of a type is reached, its type and its table are vacant. -/
theorem Queued.vacant_of_first (h : Queued config catalogs junctions) {before rest : List Entity}
    {j : Entity} (hsplit : junctions = before ++ j :: rest)
    (hfirst : ∀ i ∈ before, i.address ≠ j.address) :
    (catalogFor config (receiveAll config catalogs before) j.model).entity? j.ty = none ∧
      (catalogFor config (receiveAll config catalogs before) j.model).entitiesOfTable
        j.tableName = [] := by
  have hj : j ∈ junctions := hsplit ▸ List.mem_append_cons_self
  constructor
  · rw [entity?_catalogFor]
    show resident? _ j.address = none
    rw [resident?_receiveAll config h.houses, h.unknown j hj,
      find?_eq_none_of_forall_address_ne hfirst]
    rfl
  · -- The junctions before it have other tables.
    refine entitiesOfTable_receiveAll_eq_nil config h.houses (h.vacant j hj) fun i hi hmodel => ?_
    have hapart := h.apart
    rw [hsplit] at hapart
    have hother := (List.pairwise_append.1 hapart).2.2 i hi j List.mem_cons_self
    exact fun htable => hother ⟨hmodel, htable⟩

/-- It is the one that becomes resident. -/
theorem Queued.resident?_of_first (h : Queued config catalogs junctions)
    {before rest : List Entity} {j : Entity} (hsplit : junctions = before ++ j :: rest)
    (hfirst : ∀ i ∈ before, i.address ≠ j.address) (behind : List Entity) :
    resident? (receiveAll config catalogs (junctions ++ behind)) j.address =
      some (config.embeddables.flatten j) := by
  have hj : j ∈ junctions := hsplit ▸ List.mem_append_cons_self
  rw [resident?_receiveAll config h.houses, h.unknown j hj, hsplit, List.append_assoc,
    List.find?_append, find?_eq_none_of_forall_address_ne hfirst, List.cons_append,
    List.find?_cons, beq_self_eq_true, h.isOk_verify hj]
  rfl

/-- Where what stands behind them is accepted, too, at least as many entities
are inserted as the junctions have addresses. -/
theorem Queued.card_le_inserted_takeIn (h : Queued config catalogs junctions)
    {behind : List Entity}
    (haccepted : (takeIn config catalogs 0 (junctions ++ behind)).refusal = none) :
    (junctions.map Entity.address).toFinset.card ≤
      (takeIn config catalogs 0 (junctions ++ behind)).inserted := by
  have hqueue : ∀ p ∈ (junctions.map Entity.address).toFinset,
      p ∈ (junctions ++ behind).map Entity.address := by
    intro p hp
    rw [List.map_append]
    exact List.mem_append_left _ (List.mem_toFinset.1 hp)
  have hvacant : ∀ p ∈ (junctions.map Entity.address).toFinset,
      resident? catalogs p = none := by
    intro p hp
    obtain ⟨j, hj, rfl⟩ := List.mem_map.1 (List.mem_toFinset.1 hp)
    exact h.unknown j hj
  have hcount := add_card_le_inserted_takeIn config h.houses haccepted hqueue hvacant
  omega

end Queued

/-- What a round does with the junctions that were queued and the entities
behind them. -/
structure Honored (old : OrderedMap String Catalog) (junctions later : List Entity)
    (outcome : Except Fault RoundReport) (next : Resolver) : Prop where
  /-- The type of every junction is resident. -/
  resident : ∀ j ∈ junctions, ∃ f, resident? next.catalogs j.address = some f
  /-- The first junction of a type of a model, and so the first of a model, is
  inserted. Its type and its table are still vacant then, and it stays. -/
  first : ∀ before j rest, junctions = before ++ j :: rest →
    (∀ i ∈ before, i.address ≠ j.address) →
      let stage := catalogFor config (receiveAll config old before) j.model
      stage.entity? j.ty = none ∧ stage.entitiesOfTable j.tableName = [] ∧
        resident? next.catalogs j.address = some (config.embeddables.flatten j) ∧
        (config.embeddables.flatten j).tableName = j.tableName
  /-- An entity that was refused stands behind the junctions. -/
  refused : ∀ fault, outcome = .error fault → ∃ before e, later = before ++ e :: next.waiting ∧
    (catalogFor config (receiveAll config old (junctions ++ before)) e.model).add e =
      .rejected fault
  /-- At least as many entities are inserted as the junctions have
  addresses. -/
  inserted : ∀ report, outcome = .ok report →
    (junctions.map Entity.address).toFinset.card ≤ report.inserted

section Round

variable {config} {r : Resolver} {junctions later : List Entity}

/-- A round within the limit that finds junctions at the head of the queue takes
them in and gets to what stands behind them. -/
theorem Queued.exists_received (h : Queued r.config r.catalogs junctions)
    (hwaiting : r.waiting = junctions ++ later) (hround : r.round < r.config.maxRounds) :
    (∃ fault before e, r.runRound.1 = .error fault ∧
      later = before ++ e :: r.runRound.2.waiting ∧
      (catalogFor r.config (receiveAll r.config r.catalogs (junctions ++ before)) e.model).add e =
        .rejected fault ∧
      r.runRound.2.catalogs =
        receiveAll r.config r.catalogs (junctions ++ (before ++ [e]))) ∨
    ∃ report, r.runRound.1 = .ok report ∧
      r.runRound.2.catalogs = receiveAll r.config r.catalogs (junctions ++ later) ∧
      (takeIn r.config r.catalogs 0 (junctions ++ later)).refusal = none ∧
      report.inserted = (takeIn r.config r.catalogs 0 (junctions ++ later)).inserted := by
  have happend := takeIn_append r.config (h.refusal_takeIn 0) later
  have hreceive : ∀ queue, receiveAll r.config (receiveAll r.config r.catalogs junctions) queue =
      receiveAll r.config r.catalogs (junctions ++ queue) := fun _ => List.foldl_append.symm
  cases hrefusal : (takeIn r.config r.catalogs 0 (junctions ++ later)).refusal with
  | some refusal =>
    obtain ⟨fault, behind⟩ := refusal
    -- The junctions are accepted, so what is refused is behind them.
    have hlater := hrefusal
    rw [happend] at hlater
    obtain ⟨before, e, hsplit, hrejected, hcatalogs⟩ := exists_rejected_of_takeIn r.config hlater
    rw [← happend, hreceive] at hcatalogs
    rw [hreceive] at hrejected
    rw [← hwaiting] at hrefusal hcatalogs
    rw [runRound_of_refusal hround hrefusal]
    exact Or.inl ⟨fault, before, e, rfl, hsplit, hrejected, hcatalogs⟩
  | none =>
    have haccepted := hrefusal
    rw [← hwaiting] at haccepted
    rw [runRound_of_accepted hround haccepted, ← hwaiting]
    exact Or.inr ⟨_, rfl, catalogs_takeIn_of_accepted r.config haccepted, rfl, rfl⟩

/-- A round over queued junctions honors them all. -/
theorem Queued.honored (h : Queued config catalogs junctions) (hconfig : r.config = config)
    (hcatalogs : r.catalogs = catalogs) (hwaiting : r.waiting = junctions ++ later)
    (hround : r.round < config.maxRounds) :
    Honored config catalogs junctions later r.runRound.1 r.runRound.2 := by
  subst hconfig hcatalogs
  -- Wherever the round stops, it has received all the junctions.
  obtain ⟨behind, hcatalogs⟩ : ∃ behind,
      r.runRound.2.catalogs = receiveAll r.config r.catalogs (junctions ++ behind) := by
    obtain ⟨fault, before, e, -, -, -, hcatalogs⟩ | ⟨report, -, hcatalogs, -⟩ :=
      h.exists_received hwaiting hround
    · exact ⟨_, hcatalogs⟩
    · exact ⟨_, hcatalogs⟩
  refine ⟨fun j hj => ?_, fun before j rest hsplit hfirst => ?_, fun fault hfault => ?_,
    fun report hreport => ?_⟩
  · rw [hcatalogs]
    exact h.exists_resident behind hj
  · obtain ⟨hunknown, hvacant⟩ := h.vacant_of_first hsplit hfirst
    rw [hcatalogs]
    exact ⟨hunknown, hvacant, h.resident?_of_first hsplit hfirst behind,
      Embeddables.flatten_tableName _ j⟩
  · obtain ⟨fault', before, e, hfault', hsplit, hrejected, -⟩ | ⟨report, hreport, -⟩ :=
      h.exists_received hwaiting hround
    · cases hfault'.symm.trans hfault
      exact ⟨before, e, hsplit, hrejected⟩
    · cases hreport.symm.trans hfault
  · obtain ⟨fault, before, e, hfault, -⟩ | ⟨report', hreport', -, haccepted, hinserted⟩ :=
      h.exists_received hwaiting hround
    · cases hfault.symm.trans hreport
    · cases hreport'.symm.trans hreport
      rw [hinserted]
      exact h.card_le_inserted_takeIn haccepted

end Round

/-- A round reports the types of the junctions that it leaves waiting. -/
theorem synthesized_of_runRound {r after : Resolver} {report : RoundReport}
    (hrun : r.runRound = (.ok report, after)) :
    report.synthesized = after.waiting.map Entity.ty := by
  obtain ⟨-, -, hsettle⟩ := runRound_eq_ok_iff.1 hrun
  obtain ⟨rfl, rfl⟩ := Prod.mk.inj hsettle
  rfl

/-- After a round that succeeds, what waits are queued junctions. -/
theorem Coherent.queued_of_runRound {r after : Resolver} {report : RoundReport} (h : r.Coherent)
    (hrun : r.runRound = (.ok report, after)) :
    Queued after.config after.catalogs after.waiting := by
  obtain ⟨hconfig, -, hwaiting, -, -⟩ := after_of_runRound hrun
  rw [hwaiting, ← hconfig]
  exact queued_harvest after.config (h.after hrun).houses

/-- In any reachable state a round is run and succeeds. It reports the types of
the junctions that it leaves waiting. Then entities are submitted, and the next
round is within the limit. It makes the type of each junction resident, and of
each model and type it inserts the first junction. If it fails, one of the
submitted entities was refused. If it succeeds, it inserts at least as many
entities as the junctions have addresses. -/
theorem honored_history (config : ResolverConfig) (steps : List Step) {report : RoundReport}
    {after : Resolver} (hrun : (history config steps).runRound = (.ok report, after))
    (hround : after.round < config.maxRounds) (later : List Entity) :
    report.synthesized = after.waiting.map Entity.ty ∧
      Honored config after.catalogs after.waiting later (later.foldl submit after).runRound.1
        (later.foldl submit after).runRound.2 := by
  refine ⟨synthesized_of_runRound hrun, ?_⟩
  have hqueued := (coherent_history config steps).queued_of_runRound hrun
  have hconfig : after.config = config :=
    (after_of_runRound hrun).1.trans (config_history config steps)
  rw [hconfig] at hqueued
  -- Submitting changes the queue only, so the junctions wait at its head as before.
  rw [foldl_submit]
  exact hqueued.honored hconfig rfl rfl hround

/-- People with two associations to clubs, whose junctions have two tables of
one type. -/
def clubMembers : List EntityDraft :=
  [{ EntityDraft.ofType ⟨["Person"]⟩ with
      attributes := [.manyToMany "clubs" "Club" (some ⟨"person_club", [], .explicit⟩),
        .manyToMany "visited" "Club" (some ⟨"PersonClub", [], .explicit⟩)] },
    EntityDraft.ofType ⟨["Club"]⟩]

/-- Of the two junctions that wait the first comes in, although another
definition of the people is refused behind them. -/
theorem honored_history_clubMembers :
    let start := history .standard ((EntityDraft.buildAll clubMembers).map Step.submit)
    let after := start.runRound.2
    let later := EntityDraft.buildAll [EntityDraft.ofType ⟨["Person"]⟩]
    let next := (later.foldl submit after).runRound
    (after.waiting.map fun j => (toString j.ty, j.tableName)) =
      [("PersonClub", "person_club"), ("PersonClub", "PersonClub")] ∧
    (next.1.mapError Fault.message).map RoundReport.inserted =
      .error "entity `Person` is declared more than once with different definitions" ∧
    (resident? next.2.catalogs (defaultModel, ⟨["PersonClub"]⟩)).any
      (fun f => f.tableName == "person_club") ∧
    Honored .standard after.catalogs after.waiting later next.1 next.2 := by
  intro start after later next
  have hsucceeds : start.runRound.1.toOption.any (fun _ => true) = true := by decide +kernel
  obtain ⟨report, hreport, -⟩ := exists_ok_of_any_toOption hsucceeds
  have hrun : start.runRound = (.ok report, after) := Prod.ext hreport rfl
  exact ⟨by decide +kernel, by decide +kernel, by decide +kernel,
    (honored_history .standard _ hrun (by decide +kernel) later).2⟩

end Resolver

end SchemaLinker
