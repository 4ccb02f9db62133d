import SchemaLinker.Proofs.Harvest
import SchemaLinker.Proofs.Intake
import SchemaLinker.Resolution.Basic

/-!
# `SchemaLinker.Proofs.History`: the states that a resolver can reach

A resolver is driven in two ways: an entity is submitted, or a round is
run, which may succeed or fail. `Resolver.history` is the state after a
list of such steps. A round succeeds exactly when it is allowed and its
queue meets no refusal (`exists_runRound_eq_ok_iff`), and
`after_of_runRound` says what it then leaves.

Most invariants speak of the catalogs and the queue alone.
`history_preserves` gives such a fact for every reachable state when it
holds of nothing at all and survives three changes: an entity goes to the
end of the queue, the head of the queue is received by its catalog, and
the junctions of a harvest become the queue. `history_preserves_each` is the
case in which the waiting entities do not depend on each other.

`Resolver.Coherent` is the invariant of the whole state. Every catalog is
kept under its model, every diagnostic is about a resident attribute, and
a stable resolver has nothing waiting and holds what a harvest of its
catalogs says. `coherent_history` proves it of every reachable state.

A resolution comes from such a state (`exists_history_of_resolve`).
`Resolution.Closed` is what it therefore is: its diagnostics are those of
its catalogs, and none of its catalogs asks for a junction that is still
to be made (`closed_of_resolve`).
-/

set_option autoImplicit false

namespace SchemaLinker

namespace Resolver

/-- What is done with a resolver. -/
inductive Step
  | submit (e : Entity)
  | round

/-- The resolver after one step. A round that fails leaves a state, too. -/
def perform (r : Resolver) : Step → Resolver
  | .submit e => r.submit e
  | .round => r.runRound.2

/-- The resolver after some steps from the start. -/
def history (config : ResolverConfig) (steps : List Step) : Resolver :=
  steps.foldl perform (start config)

/-- Further steps go on from the state that was reached. -/
theorem history_append (config : ResolverConfig) (steps later : List Step) :
    history config (steps ++ later) = later.foldl perform (history config steps) :=
  List.foldl_append

/-- Where only these entities are submitted, before other steps, a submitted
entity is one of them. -/
theorem mem_of_submit_mem {entities : List Entity} {rounds : List Step}
    (hrounds : ∀ e, .submit e ∉ rounds) {e : Entity}
    (h : .submit e ∈ entities.map Step.submit ++ rounds) : e ∈ entities := by
  rcases List.mem_append.1 h with hsubmit | hround
  · obtain ⟨f, hf, hfe⟩ := List.mem_map.1 hsubmit
    cases hfe
    exact hf
  · exact absurd hround (hrounds e)

/-- A resolver to which some entities have been submitted and nothing else
has been done. -/
def submitAll (config : ResolverConfig) (entities : List Entity) : Resolver :=
  entities.foldl submit (start config)

/-- Submitted entities go to the end of the queue in their order, and nothing
else happens. -/
theorem foldl_submit (r : Resolver) (later : List Entity) :
    later.foldl submit r =
      { r with
        waiting := r.waiting ++ later
        state := if later.isEmpty then r.state else .resolving } := by
  induction later generalizing r with
  | nil =>
    rw [List.append_nil]
    rfl
  | cons e rest ih =>
    rw [List.foldl_cons, ih (r.submit e)]
    simp only [submit]
    rw [List.append_assoc, ite_self]
    rfl

/-- A round does nothing beyond the limit. Otherwise it takes the queue
in, and either it stops at a refusal or it reviews what came in. -/
theorem runRound_cases (r : Resolver) :
    (r.config.maxRounds ≤ r.round ∧ r.runRound.2 = r) ∨
    (∃ fault behind,
      (takeIn r.config r.catalogs 0 r.waiting).refusal = some (fault, behind) ∧
      r.runRound.2 =
        { r with
          catalogs := (takeIn r.config r.catalogs 0 r.waiting).catalogs
          waiting := behind
          round := r.round + 1 }) ∨
    ((takeIn r.config r.catalogs 0 r.waiting).refusal = none ∧
      r.runRound.2 = (r.settleRound (takeIn r.config r.catalogs 0 r.waiting)).2) := by
  rcases Nat.lt_or_ge r.round r.config.maxRounds with hlt | hge
  · rcases hr : (takeIn r.config r.catalogs 0 r.waiting).refusal with _ | ⟨fault, behind⟩
    · rw [runRound_of_accepted hlt hr]
      exact Or.inr (Or.inr ⟨rfl, rfl⟩)
    · rw [runRound_of_refusal hlt hr]
      exact Or.inr (Or.inl ⟨fault, behind, rfl, rfl⟩)
  · rw [runRound_of_limit hge]
    exact Or.inl ⟨hge, rfl⟩

/-- A round succeeds when it is allowed and takes the whole queue in, and
then it reviews what came in. -/
theorem runRound_eq_ok_iff {r after : Resolver} {report : RoundReport} :
    r.runRound = (.ok report, after) ↔
      r.round < r.config.maxRounds ∧
        (takeIn r.config r.catalogs 0 r.waiting).refusal = none ∧
        r.settleRound (takeIn r.config r.catalogs 0 r.waiting) = (report, after) := by
  constructor
  · intro h
    rcases Nat.lt_or_ge r.round r.config.maxRounds with hlt | hge
    · cases hr : (takeIn r.config r.catalogs 0 r.waiting).refusal with
      | some refusal =>
        rw [runRound_of_refusal hlt hr] at h
        cases h
      | none =>
        rw [runRound_of_accepted hlt hr] at h
        cases h
        exact ⟨hlt, rfl, rfl⟩
    · rw [runRound_of_limit hge] at h
      cases h
  · rintro ⟨hlt, hr, hsettle⟩
    rw [runRound_of_accepted hlt hr, hsettle]

/-- So a round succeeds exactly when it is allowed and its queue meets no
refusal. -/
theorem exists_runRound_eq_ok_iff {r : Resolver} :
    (∃ report after, r.runRound = (.ok report, after)) ↔
      r.round < r.config.maxRounds ∧ refusals r.config r.catalogs r.waiting = [] := by
  rw [← refusal_takeIn_eq_none_iff r.config]
  constructor
  · rintro ⟨report, after, hrun⟩
    obtain ⟨hallowed, haccepted, -⟩ := runRound_eq_ok_iff.1 hrun
    exact ⟨hallowed, haccepted⟩
  · rintro ⟨hallowed, haccepted⟩
    exact ⟨_, _, runRound_of_accepted hallowed haccepted⟩

/-- A round that fails has reached the limit and does nothing, or stops at
a refusal. -/
theorem runRound_eq_error {r next : Resolver} {fault : Fault}
    (h : r.runRound = (.error fault, next)) :
    next = r ∨
    ∃ behind, (takeIn r.config r.catalogs 0 r.waiting).refusal = some (fault, behind) ∧
      next =
        { r with
          catalogs := (takeIn r.config r.catalogs 0 r.waiting).catalogs
          waiting := behind
          round := r.round + 1 } := by
  rcases Nat.lt_or_ge r.round r.config.maxRounds with hlt | hge
  · rcases hr : (takeIn r.config r.catalogs 0 r.waiting).refusal with _ | ⟨fault', behind⟩
    · rw [runRound_of_accepted hlt hr] at h
      cases h
    · rw [runRound_of_refusal hlt hr] at h
      cases h
      exact Or.inr ⟨behind, rfl, rfl⟩
  · rw [runRound_of_limit hge] at h
    cases h
    exact Or.inl rfl

/-- A round does not change the configuration. -/
@[simp] theorem config_runRound (r : Resolver) : r.runRound.2.config = r.config := by
  rcases runRound_cases r with ⟨-, h⟩ | ⟨_, _, -, h⟩ | ⟨-, h⟩ <;> rw [h]
  rfl

/-- A fact about the catalogs and the queue holds after a round if it
survives when the head of the queue is received, and when the junctions of
a harvest become the queue. -/
theorem runRound_preserves {P : OrderedMap String Catalog → List Entity → Prop} (r : Resolver)
    (hreceive : ∀ catalogs e rest, P catalogs (e :: rest) →
      P (receive r.config catalogs e) rest)
    (hharvest : ∀ catalogs, P catalogs [] →
      P catalogs (harvest r.config catalogs.values).junctions)
    (h : P r.catalogs r.waiting) : P r.runRound.2.catalogs r.runRound.2.waiting := by
  rcases runRound_cases r with ⟨-, hr⟩ | ⟨fault, behind, hrefusal, hr⟩ | ⟨haccepted, hr⟩
  · rw [hr]
    exact h
  · -- What stands behind the refused entity keeps waiting.
    have hintake := takeIn_preserves r.config hreceive r.catalogs 0 r.waiting h
    simp only [Intake.behind] at hintake
    rw [hrefusal] at hintake
    rw [hr]
    exact hintake
  · rw [hr]
    exact hharvest _ (takeIn_preserves_of_accepted r.config hreceive haccepted h)

/-- What holds at the start and survives every step holds in every
reachable state. -/
theorem history_induction {P : Resolver → Prop} (config : ResolverConfig) (steps : List Step)
    (hstart : P (start config)) (hsubmit : ∀ r e, .submit e ∈ steps → P r → P (r.submit e))
    (hround : ∀ r, P r → P r.runRound.2) : P (history config steps) := by
  refine List.foldlRecOn steps perform hstart fun r hr s hs => ?_
  cases s with
  | submit e => exact hsubmit r e hs hr
  | round => exact hround r hr

/-- Neither does a history. -/
@[simp] theorem config_history (config : ResolverConfig) (steps : List Step) :
    (history config steps).config = config := by
  refine history_induction (P := fun r => r.config = config) config steps rfl ?_ ?_
  · intro r e _ h
    exact h
  · intro r h
    rw [config_runRound, h]

/-- A fact about the catalogs and the queue holds in every reachable state
if it holds of nothing at all and survives the three ways in which they
change. -/
theorem history_preserves {P : OrderedMap String Catalog → List Entity → Prop}
    (config : ResolverConfig) (steps : List Step) (hempty : P .empty [])
    (hsubmit : ∀ catalogs queue e, .submit e ∈ steps → P catalogs queue →
      P catalogs (queue ++ [e]))
    (hreceive : ∀ catalogs e rest, P catalogs (e :: rest) → P (receive config catalogs e) rest)
    (hharvest : ∀ catalogs, P catalogs [] →
      P catalogs (harvest config catalogs.values).junctions) :
    P (history config steps).catalogs (history config steps).waiting := by
  have hboth := history_induction (P := fun r => r.config = config ∧ P r.catalogs r.waiting)
    config steps ⟨rfl, hempty⟩ ?_ ?_
  · exact hboth.2
  · rintro r e he ⟨hconfig, h⟩
    exact ⟨hconfig, hsubmit _ _ e he h⟩
  · rintro r ⟨rfl, h⟩
    exact ⟨config_runRound r, runRound_preserves r hreceive hharvest h⟩

/-- A fact about the catalogs holds in every reachable state, and so does one
about each waiting entity by itself, if submitted entities and harvested
junctions are fit to be received. -/
theorem history_preserves_each {P : OrderedMap String Catalog → Prop} {Q : Entity → Prop}
    (config : ResolverConfig) (steps : List Step) (hempty : P .empty)
    (hsubmit : ∀ e, .submit e ∈ steps → Q e)
    (hreceive : ∀ catalogs e, P catalogs → Q e → P (receive config catalogs e))
    (hharvest : ∀ catalogs, P catalogs → ∀ j ∈ (harvest config catalogs.values).junctions, Q j) :
    P (history config steps).catalogs ∧ ∀ e ∈ (history config steps).waiting, Q e := by
  refine history_preserves (P := fun catalogs queue => P catalogs ∧ ∀ e ∈ queue, Q e) config steps
    ⟨hempty, fun e he => nomatch he⟩ ?_ ?_ ?_
  · rintro catalogs queue e he ⟨hcatalogs, hqueue⟩
    refine ⟨hcatalogs, fun f hf => ?_⟩
    rcases List.mem_append.1 hf with hold | hlast
    · exact hqueue f hold
    · rw [List.mem_singleton.1 hlast]
      exact hsubmit e he
  · rintro catalogs e rest ⟨hcatalogs, hqueue⟩
    exact ⟨hreceive catalogs e hcatalogs (hqueue e List.mem_cons_self),
      fun f hf => hqueue f (List.mem_cons_of_mem _ hf)⟩
  · rintro catalogs ⟨hcatalogs, -⟩
    exact ⟨hcatalogs, hharvest catalogs hcatalogs⟩

/-- The attributes of the catalogs stay when an entity is received. -/
theorem mem_subjects_receive (config : ResolverConfig) {catalogs : OrderedMap String Catalog}
    (e : Entity) {x : AttributeId} (h : x ∈ subjects catalogs.values) :
    x ∈ subjects (receive config catalogs e).values := by
  obtain ⟨c, hc, v, hv, rfl⟩ := mem_subjects.1 h
  obtain ⟨m, hm⟩ := OrderedMap.mem_values_iff.1 hc
  by_cases hme : m = e.model
  · have hget : (receive config catalogs e).get? m = some (c.receive e) := by
      rw [get?_receive, if_pos hme, catalogFor_of_get? config hm]
    have hvisit : v ∈ (c.receive e).visits := by
      obtain ⟨hentity, hattribute⟩ := Catalog.mem_visits.1 hv
      exact Catalog.mem_visits.2 ⟨Catalog.mem_receive_of_mem e hentity, hattribute⟩
    exact mem_subjects.2 ⟨_, OrderedMap.mem_values_iff.2 ⟨m, hget⟩, v, hvisit, rfl⟩
  · have hget : (receive config catalogs e).get? m = some c := by
      rw [get?_receive, if_neg hme, hm]
    exact mem_subjects.2 ⟨_, OrderedMap.mem_values_iff.2 ⟨m, hget⟩, v, hv, rfl⟩

/-- What holds in every reachable state. -/
structure Coherent (r : Resolver) : Prop where
  /-- Every catalog is kept under its model. -/
  houses : ∀ m c, r.catalogs.get? m = some c → Houses r.config m c
  /-- Every diagnostic is about a resident attribute. -/
  resident : ∀ d ∈ r.diagnostics, d.subject ∈ subjects r.catalogs.values
  /-- A stable resolver has nothing waiting and holds what a harvest of
  its catalogs says. -/
  settled : r.state = .stable → r.waiting = [] ∧
    harvest r.config r.catalogs.values = { diagnostics := r.diagnostics, junctions := [] }

/-- A resolver is coherent before its first step. -/
theorem coherent_start (config : ResolverConfig) : (start config).Coherent where
  houses m c h := by cases h
  resident d hd := by cases hd
  settled h := by cases h

/-- Submitting leaves the catalogs as they are. -/
theorem coherent_submit {r : Resolver} (h : r.Coherent) (e : Entity) : (r.submit e).Coherent where
  houses := h.houses
  resident := h.resident
  settled hstate := by cases hstate

/-- An intake keeps every catalog under its model. -/
theorem houses_takeIn (config : ResolverConfig) {catalogs : OrderedMap String Catalog}
    (h : ∀ m c, catalogs.get? m = some c → Houses config m c) (queue : List Entity) (n : Nat) :
    ∀ m c, (takeIn config catalogs n queue).catalogs.get? m = some c → Houses config m c :=
  takeIn_preserves config
    (P := fun catalogs _ => ∀ m c, catalogs.get? m = some c → Houses config m c)
    (fun _ e _ hcatalogs => forall_houses_receive config hcatalogs e) catalogs n queue h

/-- An intake keeps the attributes of the catalogs. -/
theorem mem_subjects_takeIn (config : ResolverConfig) {catalogs : OrderedMap String Catalog}
    (queue : List Entity) (n : Nat) {x : AttributeId} (h : x ∈ subjects catalogs.values) :
    x ∈ subjects (takeIn config catalogs n queue).catalogs.values :=
  takeIn_preserves config (P := fun catalogs _ => x ∈ subjects catalogs.values)
    (fun _ e _ hx => mem_subjects_receive config e hx) catalogs n queue h

/-- Every diagnostic is about an attribute of the catalogs after the next
intake. -/
theorem Coherent.mem_subjects_intake {r : Resolver} (h : r.Coherent) :
    ∀ d ∈ r.diagnostics,
      d.subject ∈ subjects (takeIn r.config r.catalogs 0 r.waiting).catalogs.values :=
  fun d hd => mem_subjects_takeIn r.config r.waiting 0 (h.resident d hd)

/-- A review leaves its own diagnostics and no others: every earlier one is
about an attribute that is reviewed again. -/
theorem Coherent.diagnostics_settleRound {r : Resolver} (h : r.Coherent) :
    (r.settleRound (takeIn r.config r.catalogs 0 r.waiting)).2.diagnostics =
      (harvest r.config
        (takeIn r.config r.catalogs 0 r.waiting).catalogs.values).diagnostics := by
  unfold settleRound
  dsimp only
  rw [retireAll_eq_nil h.mem_subjects_intake, List.nil_append]

/-- A round keeps the resolver coherent, also where it fails. -/
theorem coherent_runRound {r : Resolver} (h : r.Coherent) : r.runRound.2.Coherent := by
  have hhouses := houses_takeIn r.config h.houses r.waiting 0
  rcases runRound_cases r with ⟨-, hr⟩ | ⟨fault, behind, hrefusal, hr⟩ | ⟨hrefusal, hr⟩
  · rw [hr]
    exact h
  · rw [hr]
    refine ⟨hhouses, h.mem_subjects_intake, fun hstate => ?_⟩
    -- A stable resolver has nothing waiting, so no entity can be refused.
    have hwaiting : r.waiting = [] := (h.settled hstate).1
    rw [hwaiting] at hrefusal
    cases hrefusal
  · have hdiagnostics := h.diagnostics_settleRound
    rw [hr]
    refine ⟨hhouses, fun d hd => ?_, fun hstate => ?_⟩
    · rw [hdiagnostics] at hd
      exact subject_mem_subjects hd
    · unfold settleRound at hstate
      dsimp only at hstate
      split at hstate
      · rename_i hempty
        -- Stable means that the harvest made nothing.
        have hjunctions := List.isEmpty_iff.1 hempty
        refine ⟨hjunctions, ?_⟩
        rw [hdiagnostics, ← hjunctions]
        rfl
      · cases hstate

/-- So does a round whose outcome is known. -/
theorem Coherent.after {r after : Resolver} {outcome : Except Fault RoundReport}
    (h : r.Coherent) (hrun : r.runRound = (outcome, after)) : after.Coherent := by
  have hafter := coherent_runRound h
  rw [hrun] at hafter
  exact hafter

/-- Whatever the history, the resolver is coherent. -/
theorem coherent_history (config : ResolverConfig) (steps : List Step) :
    (history config steps).Coherent :=
  history_induction config steps (coherent_start config) (fun _ e _ h => coherent_submit h e)
    fun _ h => coherent_runRound h

/-- It is so when all entities are submitted, and no round was run. -/
theorem coherent_submitAll (config : ResolverConfig) (entities : List Entity) :
    (submitAll config entities).Coherent :=
  List.foldlRecOn entities submit (coherent_start config) fun _ h e _ => coherent_submit h e

/-- Keyed catalogs stay keyed when a keyed entity is received. -/
theorem allKeyed_receive (config : ResolverConfig) {catalogs : OrderedMap String Catalog}
    (h : ∀ m c, catalogs.get? m = some c → c.AllKeyed) {e : Entity} (he : e.Keyed) :
    ∀ m c, (receive config catalogs e).get? m = some c → c.AllKeyed := by
  refine forall_get?_receive config (P := fun _ c => c.AllKeyed) ?_ (fun _ hc => hc.receive he) h
  intro m f hf
  cases hf

/-- Submitted entities that are keyed make every catalog and the queue
keyed: junctions are. -/
theorem keyed_history (config : ResolverConfig) (steps : List Step)
    (hsteps : ∀ e, .submit e ∈ steps → e.Keyed) :
    (∀ m c, (history config steps).catalogs.get? m = some c → c.AllKeyed) ∧
      ∀ e ∈ (history config steps).waiting, e.Keyed := by
  refine history_preserves_each (P := fun catalogs => ∀ m c, catalogs.get? m = some c → c.AllKeyed)
    config steps (fun m c h => nomatch h) hsteps ?_ ?_
  · exact fun catalogs e hcatalogs he => allKeyed_receive config hcatalogs he
  · intro catalogs _ j hj
    -- What a harvest makes is built from drafts.
    obtain ⟨c, -, q, -, hmade⟩ := mem_junctions hj
    obtain ⟨e, t, a, -, hjunction⟩ := Catalog.junctionOf_of_synthesize hmade
    exact hjunction.built.keyed

/-- What a catalog asks for and gets made belongs to its model. -/
theorem Houses.exists_junctionOf {config : ResolverConfig} {m : String} {c : Catalog}
    (h : Houses config m c) {q : JunctionRequest} {j : Entity}
    (hmade : c.synthesize config.separator q = .ok (some j)) :
    j.model = m ∧
      ∃ e t a, c.requested q = .ok (e, t, a) ∧ c.JunctionOf config.separator e t a j := by
  obtain ⟨e, t, a, hrequested, hjunction⟩ := Catalog.junctionOf_of_synthesize hmade
  have hsource : e ∈ c.entities :=
    Catalog.mem_of_entity? (Catalog.requested_eq_ok_iff.1 hrequested).1
  exact ⟨hjunction.model.trans (h.members e hsource), e, t, a, hrequested, hjunction⟩

/-- A harvested junction goes to the catalog that asked for it. -/
theorem exists_junctionOf_of_mem_junctions {config : ResolverConfig}
    {catalogs : OrderedMap String Catalog}
    (hcatalogs : ∀ m c, catalogs.get? m = some c → Houses config m c) {j : Entity}
    (hj : j ∈ (harvest config catalogs.values).junctions) :
    ∃ c q e t a, catalogs.get? j.model = some c ∧ q ∈ (c.review config.oneSided).requests ∧
      c.requested q = .ok (e, t, a) ∧ c.JunctionOf config.separator e t a j := by
  obtain ⟨c, hc, q, hq, hmade⟩ := mem_junctions hj
  obtain ⟨m, hm⟩ := OrderedMap.mem_values_iff.1 hc
  obtain ⟨rfl, e, t, a, hrequested, hjunction⟩ := (hcatalogs m c hm).exists_junctionOf hmade
  exact ⟨c, q, e, t, a, hm, hq, hrequested, hjunction⟩

/-- A resolver is settled when its state is stable and nothing waits. -/
theorem isSettled_iff {r : Resolver} :
    r.isSettled = true ↔ r.state = .stable ∧ r.waiting = [] := by
  simp [isSettled]

/-- What a round that succeeds leaves: the catalogs have received the whole
queue, the junctions of their harvest wait, and without one the resolver is
settled. -/
theorem after_of_runRound {r after : Resolver} {report : RoundReport}
    (h : r.runRound = (.ok report, after)) :
    after.config = r.config ∧
      after.catalogs = receiveAll r.config r.catalogs r.waiting ∧
      after.waiting = (harvest r.config after.catalogs.values).junctions ∧
      after.round = r.round + 1 ∧
      (after.isSettled = true ↔ after.waiting = []) := by
  obtain ⟨-, haccepted, hsettle⟩ := runRound_eq_ok_iff.1 h
  obtain rfl : (r.settleRound (takeIn r.config r.catalogs 0 r.waiting)).2 = after :=
    congrArg Prod.snd hsettle
  refine ⟨rfl, catalogs_takeIn_of_accepted r.config haccepted, rfl, rfl, ?_⟩
  rw [isSettled_iff]
  unfold settleRound
  dsimp only
  constructor
  · intro hboth
    exact hboth.2
  · intro hempty
    refine ⟨?_, hempty⟩
    rw [hempty]
    rfl

/-- A settled resolver needs no round. -/
theorem settle_of_isSettled (n : Nat) {r : Resolver} (h : r.isSettled = true) :
    settle n r = .ok r := by
  cases n <;> simp [settle, h]

/-- A resolver that is not settled goes on from a round that succeeds. -/
theorem settle_of_runRound (n : Nat) {r after : Resolver} {report : RoundReport}
    (h : r.isSettled = false) (hrun : r.runRound = (.ok report, after)) :
    settle (n + 1) r = settle n after := by
  simp [settle, h, hrun]

/-- What holds of the settled resolver at the end, and of a resolver before
a round if it holds after it, holds at the beginning. -/
theorem settle_induction {s : Resolver} {P : Nat → Resolver → Prop}
    (hend : s.isSettled = true → ∀ n, P n s)
    (hround : ∀ n r report after, r.isSettled = false → r.runRound = (.ok report, after) →
      P n after → P (n + 1) r) {n : Nat} {r : Resolver} (h : settle n r = .ok s) : P n r := by
  induction n generalizing r with
  | zero =>
    simp only [settle] at h
    split at h
    · rename_i hsettled
      cases h
      exact hend hsettled 0
    · cases h
  | succ n ih =>
    simp only [settle] at h
    split at h
    · rename_i hsettled
      cases h
      exact hend hsettled (n + 1)
    · rename_i hunsettled
      split at h
      · cases h
      · rename_i report after hrun
        exact hround n r report after (Bool.eq_false_iff.2 hunsettled) hrun (ih h)

/-- Running the rounds that are left is a series of rounds, and ends in a
stable state. -/
theorem settle_eq_ok {n : Nat} {r s : Resolver} (h : settle n r = .ok s) :
    (∃ k, s = (List.replicate k Step.round).foldl perform r) ∧ s.state = .stable := by
  refine settle_induction (P := fun _ r =>
    (∃ k, s = (List.replicate k Step.round).foldl perform r) ∧ s.state = .stable) ?_ ?_ h
  · intro hsettled _
    exact ⟨⟨0, rfl⟩, (isSettled_iff.1 hsettled).1⟩
  · rintro n r report after - hrun ⟨⟨k, hk⟩, hstate⟩
    refine ⟨⟨k + 1, ?_⟩, hstate⟩
    rw [List.replicate_succ, List.foldl_cons, hk]
    simp only [perform]
    rw [hrun]

/-- Rounds keep the choices. -/
theorem config_of_settle {n : Nat} {r s : Resolver} (h : settle n r = .ok s) :
    s.config = r.config := by
  refine settle_induction (P := fun _ r => s.config = r.config) (fun _ _ => rfl) ?_ h
  intro n r report after _ hrun hconfig
  exact hconfig.trans (after_of_runRound hrun).1

/-- A resolution comes from the resolver that the rounds left settle. -/
theorem resolve_eq_ok_iff {r : Resolver} {res : Resolution} :
    r.resolve = .ok res ↔
      ∃ s, settle (r.config.maxRounds - r.round) r = .ok s ∧ s.resolution = res := by
  simp only [resolve]
  cases settle (r.config.maxRounds - r.round) r with
  | error fault => simp [Except.map]
  | ok s => simp [Except.map]

/-- A resolution of submitted entities comes from a reachable state that
is stable, and only they were submitted. -/
theorem exists_history_of_resolve {config : ResolverConfig} {entities : List Entity}
    {res : Resolution} (h : (submitAll config entities).resolve = .ok res) :
    ∃ steps, (∀ e, .submit e ∈ steps → e ∈ entities) ∧
      res = (history config steps).resolution ∧ (history config steps).state = .stable := by
  obtain ⟨s, hs, rfl⟩ := resolve_eq_ok_iff.1 h
  obtain ⟨⟨k, hk⟩, hstate⟩ := settle_eq_ok hs
  -- The history is: submit all entities, then run the rounds.
  have hsubmits : submitAll config entities =
      (entities.map Step.submit).foldl perform (start config) := by
    rw [List.foldl_map]
    rfl
  have hhistory : s = history config (entities.map Step.submit ++ List.replicate k .round) := by
    rw [history_append, hk, hsubmits]
    rfl
  have hrounds : ∀ e, Step.submit e ∉ List.replicate k .round := by
    intro e he
    cases List.eq_of_mem_replicate he
  exact ⟨_, fun e he => mem_of_submit_mem hrounds he, by rw [← hhistory],
    by rw [← hhistory, hstate]⟩

end Resolver

/-- A resolution to which its own catalogs have nothing to add. -/
structure Resolution.Closed (config : ResolverConfig) (res : Resolution) : Prop where
  houses : ∀ m c, res.catalogs.get? m = some c → Resolver.Houses config m c
  keyed : ∀ c ∈ res.catalogs.values, c.AllKeyed
  diagnostics : res.diagnostics = res.catalogs.values.flatMap fun c =>
    (c.review config.oneSided).diagnostics ++ Resolver.failures config c
  /-- No request of a review leads to a junction. -/
  made : ∀ c ∈ res.catalogs.values, Resolver.made config c = []
  links : res.links = .ofList ((res.catalogs.values.flatMap fun c =>
    c.links config.separator).map fun l => (l.source, l))

/-- A resolution of built entities is closed. -/
theorem Resolver.closed_of_resolve {config : ResolverConfig} {entities : List Entity}
    {res : Resolution} (hbuilt : ∀ e ∈ entities, e.IsBuilt)
    (h : (submitAll config entities).resolve = .ok res) : res.Closed config := by
  obtain ⟨steps, hsteps, rfl, hstable⟩ := exists_history_of_resolve h
  have hcoherent := coherent_history config steps
  have hkeyed := (keyed_history config steps fun e he => (hbuilt e (hsteps e he)).keyed).1
  have hconfig := config_history config steps
  obtain ⟨-, hharvest⟩ := hcoherent.settled hstable
  rw [harvest_eq, hconfig] at hharvest
  have hdiagnostics := congrArg Harvest.diagnostics hharvest
  have hmade := foldl_keepNew_eq_nil (congrArg Harvest.junctions hharvest)
  refine ⟨fun m c hc => ?_, fun c hc => ?_, hdiagnostics.symm, ?_, ?_⟩
  · rw [← hconfig]
    exact hcoherent.houses m c hc
  · obtain ⟨m, hm⟩ := OrderedMap.mem_values_iff.1 hc
    exact hkeyed m c hm
  · exact List.flatMap_eq_nil_iff.1 hmade
  · show allLinks _ = _
    simp only [allLinks]
    rw [hconfig]
    rfl

/-- A computation whose result passes a test has a result. -/
theorem exists_ok_of_any_toOption {ε α : Type} {x : Except ε α} {p : α → Bool}
    (h : x.toOption.any p = true) : ∃ a, x = .ok a ∧ p a = true := by
  cases x with
  | error e => cases h
  | ok a => exact ⟨a, rfl, h⟩

/-- A many-to-many association with entities of a simple name. -/
def Attribute.manyToMany (name target : String) (junction : Option JunctionDeclaration) :
    Attribute :=
  { column name (.list (.named ⟨[target]⟩)) with
    cardinality := some .manyToMany
    junction := junction }

/-- People and groups, each with the other. The people declare the
junction and leave its name open. -/
def membership : List EntityDraft :=
  [{ EntityDraft.ofType ⟨["Person"]⟩ with
      attributes := [.manyToMany "groups" "Group" (some ⟨"", [], .explicit⟩)] },
    { EntityDraft.ofType ⟨["Group"]⟩ with
      attributes := [.manyToMany "members" "Person" none] }]

end SchemaLinker
