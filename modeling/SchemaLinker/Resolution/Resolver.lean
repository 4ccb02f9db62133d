import SchemaLinker.Catalog.Basic
import SchemaLinker.Junction.Synthesis
import SchemaLinker.Review.Basic

/-!
# `SchemaLinker.Resolution.Resolver`: rounds

A `Resolver` takes entities of any models in and works in rounds. A
round brings the waiting entities into the catalogs of their models,
reviews every catalog, makes the junction entities that the reviews ask
for, and queues these for the next round. A round that queues nothing
leaves the resolver stable.

An entity that its catalog refuses ends the round: it is dropped, the
entities behind it keep waiting, and nothing is reviewed.

* `Resolver.submit`, `Resolver.runRound`: the two steps.
* `runRound_of_limit`, `runRound_of_refusal`, `runRound_of_accepted`: the
  three ways a round goes.
* `round_runRound`: every round but one beyond the limit is counted.
-/

set_option autoImplicit false

namespace SchemaLinker

/-- The choices that hold for a whole resolution. -/
structure ResolverConfig where
  maxRounds : Nat
  policy : NamePolicy
  /-- Stands between two table names in the name of a junction table. -/
  separator : String
  /-- Whether a many-to-many association without another side gets a
  junction it does not declare. -/
  oneSided : Bool
  embeddables : Embeddables

/-- The choices that hold unless others are made. -/
def ResolverConfig.standard : ResolverConfig where
  maxRounds := 64
  policy := .firstMatch
  separator := "_"
  oneSided := true
  embeddables := .empty

/-- Whether rounds are still needed. -/
inductive ResolverState
  | resolving
  | stable
deriving DecidableEq

/-- The word for a state. -/
protected def ResolverState.toString : ResolverState → String
  | resolving => "Resolving"
  | stable => "Stable"

instance : ToString ResolverState := ⟨ResolverState.toString⟩

/-- A resolution in progress. -/
structure Resolver where
  config : ResolverConfig
  /-- One catalog per model, in the order in which the models came. -/
  catalogs : OrderedMap String Catalog
  /-- The entities that the next round takes in. -/
  waiting : List Entity
  diagnostics : Diagnostics
  /-- The rounds begun so far. -/
  round : Nat
  state : ResolverState

/-- What a round did. -/
structure RoundReport where
  round : Nat
  inserted : Nat
  synthesized : List Path
  diagnostics : Diagnostics

/-- How far the waiting entities came into their catalogs. -/
structure Intake where
  catalogs : OrderedMap String Catalog
  inserted : Nat
  /-- Why an entity was refused, and the entities behind it. -/
  refusal : Option (Fault × List Entity)

namespace Resolver

/-- A resolver that has taken nothing in. -/
def start (config : ResolverConfig) : Resolver where
  config := config
  catalogs := .empty
  waiting := []
  diagnostics := []
  round := 0
  state := .resolving

/-- Puts an entity in the queue. -/
def submit (r : Resolver) (e : Entity) : Resolver :=
  { r with waiting := r.waiting ++ [e], state := .resolving }

/-- The catalog of a model, a new one if the model is new. -/
def catalogFor (config : ResolverConfig) (catalogs : OrderedMap String Catalog)
    (model : String) : Catalog :=
  (catalogs.get? model).getD (.empty model config.policy config.embeddables)

/-- Takes entities in one after the other, up to the first that is
refused. The model of a refused entity has a catalog all the same. -/
def takeIn (config : ResolverConfig) :
    (catalogs : OrderedMap String Catalog) → (inserted : Nat) → List Entity → Intake
  | catalogs, inserted, [] => ⟨catalogs, inserted, none⟩
  | catalogs, inserted, e :: rest =>
    let catalog := catalogFor config catalogs e.model
    match catalog.add e with
    | .added after => takeIn config (catalogs.insert e.model after) (inserted + 1) rest
    | .ignored => takeIn config (catalogs.insert e.model catalog) inserted rest
    | .rejected fault => ⟨catalogs.insert e.model catalog, inserted, some (fault, rest)⟩

/-- What the reviews of one round have led to so far. -/
structure Harvest where
  diagnostics : Diagnostics
  junctions : List Entity

/-- Whether one of the junctions has an entity's model and table. -/
def coversTable (junctions : List Entity) (e : Entity) : Bool :=
  junctions.any fun j => j.model == e.model && Text.sameFolded j.tableName e.tableName

/-- Serves one request: a new junction, nothing, or a diagnostic about
the association. -/
def serve (config : ResolverConfig) (catalog : Catalog) (h : Harvest) (request : JunctionRequest) :
    Harvest :=
  match catalog.synthesize config.separator request with
  | .ok none => h
  | .ok (some junction) =>
    if coversTable h.junctions junction then h
    else { h with junctions := h.junctions ++ [junction] }
  | .error fault =>
    { h with diagnostics := h.diagnostics ++
        [(Finding.junctionFailed fault.message).diagnostic ⟨request.source, request.name⟩] }

/-- Reviews one catalog and serves its requests. -/
def harvestCatalog (config : ResolverConfig) (h : Harvest) (catalog : Catalog) : Harvest :=
  let review := catalog.review config.oneSided
  review.requests.foldl (serve config catalog)
    { h with diagnostics := h.diagnostics ++ review.diagnostics }

/-- Reviews all catalogs in order. -/
def harvest (config : ResolverConfig) (catalogs : List Catalog) : Harvest :=
  catalogs.foldl (harvestCatalog config) ⟨[], []⟩

/-- The attributes that a review of these catalogs visits. -/
def subjects (catalogs : List Catalog) : List AttributeId :=
  catalogs.flatMap fun c => c.visits.map fun v => v.1.idOf v.2

/-- Diagnostics without those about the attributes of these catalogs. -/
def retireAll (ds : Diagnostics) (catalogs : List Catalog) : Diagnostics :=
  (subjects catalogs).foldl Diagnostics.retire ds

/-- The part of a round after all waiting entities have come in. -/
def settleRound (r : Resolver) (intake : Intake) : RoundReport × Resolver :=
  let catalogs := intake.catalogs.values
  let h := harvest r.config catalogs
  let report : RoundReport :=
    { round := r.round + 1
      inserted := intake.inserted
      synthesized := h.junctions.map Entity.ty
      diagnostics := h.diagnostics }
  let after : Resolver :=
    { r with
      catalogs := intake.catalogs
      waiting := h.junctions
      -- All attributes were visited again, so what was said of them before is out of date.
      diagnostics := retireAll r.diagnostics catalogs ++ h.diagnostics
      round := r.round + 1
      state := if h.junctions.isEmpty then .stable else .resolving }
  (report, after)

/-- One round. -/
def runRound (r : Resolver) : Except Fault RoundReport × Resolver :=
  if r.config.maxRounds ≤ r.round then
    (.error (FaultKind.roundLimit r.config.maxRounds).fault, r)
  else
    let intake := takeIn r.config r.catalogs 0 r.waiting
    match intake.refusal with
    | some (fault, behind) =>
      -- Nothing was reviewed, so the state and the diagnostics stay as they are.
      (.error fault,
        { r with catalogs := intake.catalogs, waiting := behind, round := r.round + 1 })
    | none =>
      let (report, after) := r.settleRound intake
      (.ok report, after)

/-- Beyond the limit a round does nothing and fails. -/
theorem runRound_of_limit {r : Resolver} (h : r.config.maxRounds ≤ r.round) :
    r.runRound = (.error (FaultKind.roundLimit r.config.maxRounds).fault, r) := by
  simp [runRound, h]

/-- A round that meets a refused entity keeps what came in before it and
leaves what stands behind it waiting. -/
theorem runRound_of_refusal {r : Resolver} {fault : Fault} {behind : List Entity}
    (h : r.round < r.config.maxRounds)
    (hr : (takeIn r.config r.catalogs 0 r.waiting).refusal = some (fault, behind)) :
    r.runRound =
      (.error fault,
        { r with
          catalogs := (takeIn r.config r.catalogs 0 r.waiting).catalogs
          waiting := behind
          round := r.round + 1 }) := by
  simp [runRound, Nat.not_le.2 h, hr]

/-- A round that takes everything in reviews it. -/
theorem runRound_of_accepted {r : Resolver} (h : r.round < r.config.maxRounds)
    (hr : (takeIn r.config r.catalogs 0 r.waiting).refusal = none) :
    r.runRound =
      (.ok (r.settleRound (takeIn r.config r.catalogs 0 r.waiting)).1,
        (r.settleRound (takeIn r.config r.catalogs 0 r.waiting)).2) := by
  simp [runRound, Nat.not_le.2 h, hr]

/-- A round below the limit counts, also where it fails. -/
theorem round_runRound {r : Resolver} (h : r.round < r.config.maxRounds) :
    r.runRound.2.round = r.round + 1 := by
  simp only [runRound, Nat.not_le.2 h, if_false]
  split <;> rfl

end Resolver

end SchemaLinker
