import SchemaLinker.Proofs.History

/-!
# `SchemaLinker.Proofs.Rounds`: what rounds add, and what their limit decides

`Resolver.population` is the number of resident entities in all catalogs.
An intake reports exactly by how much it grew: `population_takeIn`.

The limit on the rounds decides whether a round is run and nothing else.
`Resolver.withLimit` sets another one. As long as rounds are left under
both limits, rounds under one are rounds under the other
(`runRound_withLimit`), so a resolution that succeeds is the same under
every larger limit (`resolve_withLimit`).
-/

set_option autoImplicit false

namespace SchemaLinker

namespace Resolver

/-- The number of resident entities. -/
def population (catalogs : OrderedMap String Catalog) : Nat :=
  (catalogs.values.flatMap Catalog.entities).length

section Intake

variable (config : ResolverConfig)

/-- The catalogs in order, by asking for every model. -/
theorem values_eq_map_catalogFor (catalogs : OrderedMap String Catalog) :
    catalogs.values = catalogs.keys.map (catalogFor config catalogs) :=
  OrderedMap.values_eq_map_keys catalogs fun m => .empty m config.policy config.embeddables

/-- Receiving an entity changes the population by as much as the catalog
of its model. -/
theorem population_receive (catalogs : OrderedMap String Catalog) (e : Entity) :
    population (receive config catalogs e) +
        (catalogFor config catalogs e.model).entities.length =
      population catalogs + ((catalogFor config catalogs e.model).receive e).entities.length := by
  have hold : (catalogFor config catalogs e.model).entities =
      (catalogs.get? e.model).elim [] Catalog.entities := by
    simp only [catalogFor]
    cases catalogs.get? e.model <;> rfl
  rw [hold]
  exact OrderedMap.length_flatMap_values_insert Catalog.entities catalogs e.model _

/-- An intake reports by how much the population grew. -/
theorem population_takeIn (catalogs : OrderedMap String Catalog) (n : Nat) (queue : List Entity) :
    population (takeIn config catalogs n queue).catalogs + n =
      population catalogs + (takeIn config catalogs n queue).inserted := by
  induction queue generalizing catalogs n with
  | nil => rfl
  | cons e rest ih =>
    have hgrowth := population_receive config catalogs e
    simp only [Catalog.receive] at hgrowth
    rw [takeIn_cons]
    rcases Catalog.add_cases (catalogFor config catalogs e.model) e with
      ⟨hnew, -, -, h⟩ | ⟨resident, -, -, -, -, h⟩ | ⟨fault, -, h⟩
    · -- The catalog of the entity's model has one entity more.
      have hone : ((catalogFor config catalogs e.model).append
          ((catalogFor config catalogs e.model).embeddables.flatten e) hnew).entities.length =
          (catalogFor config catalogs e.model).entities.length + 1 := List.length_append
      have hrest := ih (receive config catalogs e) (n + 1)
      rw [h] at hgrowth ⊢
      show population (takeIn config _ (n + 1) rest).catalogs + n =
        population catalogs + (takeIn config _ (n + 1) rest).inserted
      dsimp only [Catalog.Admission.catalog] at hgrowth
      omega
    · -- The entity is ignored, so nothing is counted.
      have hrest := ih (receive config catalogs e) n
      rw [h] at hgrowth ⊢
      show population (takeIn config _ n rest).catalogs + n =
        population catalogs + (takeIn config _ n rest).inserted
      dsimp only [Catalog.Admission.catalog] at hgrowth
      omega
    · rw [h] at hgrowth ⊢
      show population (receive config catalogs e) + n = population catalogs + n
      dsimp only [Catalog.Admission.catalog] at hgrowth
      omega

/-- An intake counts on from where it is told to start. -/
theorem le_inserted_takeIn (catalogs : OrderedMap String Catalog) (n : Nat)
    (queue : List Entity) : n ≤ (takeIn config catalogs n queue).inserted := by
  induction queue generalizing catalogs n with
  | nil => exact Nat.le_refl n
  | cons e rest ih =>
    rw [takeIn_cons]
    split
    · exact Nat.le_of_succ_le (ih _ (n + 1))
    · exact ih _ n
    · exact Nat.le_refl n

/-- An intake whose first entity is new inserts it. -/
theorem inserted_takeIn_pos {catalogs : OrderedMap String Catalog} {e : Entity}
    {rest : List Entity} (hmodel : e.model = (catalogFor config catalogs e.model).model)
    (hverify : e.verify = .ok ())
    (hnew : (catalogFor config catalogs e.model).entity? e.ty = none) :
    0 < (takeIn config catalogs 0 (e :: rest)).inserted := by
  have hflat : (catalogFor config catalogs e.model).entity?
      ((catalogFor config catalogs e.model).embeddables.flatten e).ty = none := by
    rw [Embeddables.flatten_ty]
    exact hnew
  rw [takeIn_cons, Catalog.add_of_new hmodel hverify hflat]
  exact le_inserted_takeIn config (receive config catalogs e) 1 rest

end Intake

/-- The resolver under another limit on the rounds. -/
def withLimit (limit : Nat) (r : Resolver) : Resolver :=
  { r with config := { r.config with maxRounds := limit } }

/-- Taking in a queue does not depend on the limit of rounds. -/
theorem takeIn_withLimit (config : ResolverConfig) (limit : Nat)
    (catalogs : OrderedMap String Catalog) (n : Nat) (queue : List Entity) :
    takeIn { config with maxRounds := limit } catalogs n queue =
      takeIn config catalogs n queue := by
  induction queue generalizing catalogs n with
  | nil => rfl
  | cons e rest ih =>
    rw [takeIn_cons, takeIn_cons, ih, ih]
    rfl

/-- A round that succeeds is the same under another limit that allows
it. -/
theorem runRound_withLimit {r after : Resolver} {report : RoundReport}
    (h : r.runRound = (.ok report, after)) {limit : Nat} (hlimit : r.round < limit) :
    (withLimit limit r).runRound = (.ok report, withLimit limit after) := by
  obtain ⟨-, haccepted, hsettle⟩ := runRound_eq_ok_iff.1 h
  have hsame : takeIn (withLimit limit r).config (withLimit limit r).catalogs 0
      (withLimit limit r).waiting = takeIn r.config r.catalogs 0 r.waiting :=
    takeIn_withLimit r.config limit r.catalogs 0 r.waiting
  refine runRound_eq_ok_iff.2 ⟨hlimit, ?_, ?_⟩
  · rw [hsame]
    exact haccepted
  · -- A review does not look at the limit.
    rw [hsame]
    cases hsettle
    rfl

/-- Rounds that lead to an end lead there under every larger limit. -/
theorem settle_withLimit {n k limit : Nat} {r s : Resolver} (h : settle n r = .ok s)
    (hlimit : r.config.maxRounds ≤ limit) (hn : n ≤ k) :
    settle k (withLimit limit r) = .ok (withLimit limit s) := by
  refine settle_induction (P := fun n r => ∀ k, r.config.maxRounds ≤ limit → n ≤ k →
    settle k (withLimit limit r) = .ok (withLimit limit s)) ?_ ?_ h k hlimit hn
  · intro hsettled _ k _ _
    exact settle_of_isSettled k hsettled
  · intro n r report after hunsettled hrun ih k hlimit hn
    obtain ⟨k, rfl⟩ := Nat.exists_eq_add_of_le' hn
    have hbelow : r.round < limit := Nat.lt_of_lt_of_le (runRound_eq_ok_iff.1 hrun).1 hlimit
    rw [← (after_of_runRound hrun).1] at hlimit
    have hstill : (withLimit limit r).isSettled = false := hunsettled
    have hnext : settle (k + n + 1) (withLimit limit r) = settle (k + n) (withLimit limit after) :=
      settle_of_runRound (k + n) hstill (runRound_withLimit hrun hbelow)
    rw [← Nat.add_assoc, hnext]
    exact ih (k + n) hlimit (Nat.le_add_left n k)

/-- A resolution is the same under every larger limit. -/
theorem resolve_withLimit {r : Resolver} {res : Resolution} (h : r.resolve = .ok res)
    {limit : Nat} (hlimit : r.config.maxRounds ≤ limit) :
    (withLimit limit r).resolve = .ok res := by
  obtain ⟨s, hs, rfl⟩ := resolve_eq_ok_iff.1 h
  have hrounds : r.config.maxRounds - r.round ≤ limit - r.round := by omega
  exact resolve_eq_ok_iff.2 ⟨withLimit limit s, settle_withLimit hs hlimit hrounds, rfl⟩

/-- Submitted entities wait in their order, and nothing else has
happened. -/
theorem submitAll_eq (config : ResolverConfig) (entities : List Entity) :
    submitAll config entities = { start config with waiting := entities } := by
  simp only [submitAll]
  rw [foldl_submit, show (start config).state = .resolving from rfl, ite_self]
  rfl

/-- Submitted entities have all rounds to settle. -/
theorem resolve_submitAll_eq_ok_iff {config : ResolverConfig} {entities : List Entity}
    {res : Resolution} :
    (submitAll config entities).resolve = .ok res ↔
      ∃ s, settle config.maxRounds (submitAll config entities) = .ok s ∧ s.resolution = res := by
  have hleft : (submitAll config entities).config.maxRounds - (submitAll config entities).round =
      config.maxRounds := by
    rw [submitAll_eq]
    rfl
  rw [resolve_eq_ok_iff, hleft]

/-- Where the first round takes everything in, a resolution goes on from
the end of that round. -/
theorem resolve_submitAll {config : ResolverConfig} {entities : List Entity}
    (hlimit : 0 < config.maxRounds)
    (haccepted : (takeIn config .empty 0 entities).refusal = none) :
    (submitAll config entities).resolve =
      (settle (config.maxRounds - 1)
        ((submitAll config entities).settleRound (takeIn config .empty 0 entities)).2).map
          resolution := by
  obtain ⟨left, hleft⟩ : ∃ left, config.maxRounds = left + 1 :=
    ⟨config.maxRounds - 1, by omega⟩
  rw [submitAll_eq]
  have hrun := runRound_of_accepted (r := { start config with waiting := entities }) hlimit
    haccepted
  have hunsettled : ({ start config with waiting := entities } : Resolver).isSettled = false := rfl
  simp only [resolve]
  show (settle (config.maxRounds - 0) _).map resolution = _
  rw [Nat.sub_zero, hleft, settle_of_runRound left hunsettled hrun]
  rfl

/-- Submitting knows no limit. -/
theorem submitAll_withLimit (config : ResolverConfig) (limit : Nat) (entities : List Entity) :
    submitAll { config with maxRounds := limit } entities =
      withLimit limit (submitAll config entities) := by
  have hsubmit : ∀ (r : Resolver) (e : Entity),
      (withLimit limit r).submit e = withLimit limit (r.submit e) := fun _ _ => rfl
  show entities.foldl submit (withLimit limit (start config)) =
    withLimit limit (entities.foldl submit (start config))
  exact List.foldl_hom (withLimit limit) hsubmit

end Resolver

end SchemaLinker
