import Mathlib.Data.List.Induction
import SchemaLinker.Proofs.Resumption

/-!
# `SchemaLinker.Proofs.Batching`: rounds between submissions

Without many-to-many associations a round makes no junction. So it only
takes in what waits, and that could as well have waited longer: the
catalogs are in the end those that receive all submitted entities in order.
What a round in between says is said of incomplete catalogs, and the next
round retires it.

`Resolver.Follows` is the invariant of such a history, step by step: what
came in and what waits lead to the catalogs of all submissions, nothing of
it is refused, and after a round nothing waits (`follows_history`). A
resolver that follows some steps resolves to what the catalogs of their
submissions say (`Follows.exists_resolve`). Where the rounds stood among
the steps is forgotten: `resolve_batches`.
-/

set_option autoImplicit false

namespace SchemaLinker

/-- No attribute of the entity is a many-to-many association. -/
def Entity.JunctionFree (e : Entity) : Prop :=
  ∀ a ∈ e.attributes.values, a.isManyToMany = false

namespace Catalog

/-- Without many-to-many associations a review asks for nothing. -/
theorem requests_eq_nil {c : Catalog} (h : ∀ e ∈ c.entities, e.JunctionFree) (oneSided : Bool) :
    (c.review oneSided).requests = [] := by
  refine List.eq_nil_iff_forall_not_mem.2 fun q hq => ?_
  obtain ⟨v, hv, -, hwish⟩ := mem_requests hq
  obtain ⟨t, hmany, -⟩ := wish?_eq_some hwish
  obtain ⟨hentity, hattribute⟩ := mem_visits.1 hv
  have hnot := h v.1 hentity v.2 hattribute
  simp [Attribute.isManyToMany, hmany] at hnot

end Catalog

namespace Resolver

/-! ### Steps -/

/-- The entities that a step submits. -/
def Step.submitted : Step → List Entity
  | .submit e => [e]
  | .round => []

/-- Whether a step is a round. -/
def Step.isRound : Step → Bool
  | .submit _ => false
  | .round => true

/-- The entities that some steps submit, in order. -/
def submissions (steps : List Step) : List Entity := steps.flatMap Step.submitted

/-- Whether the last step is a round. -/
def endsInRound (steps : List Step) : Bool := steps.getLast?.any Step.isRound

/-- The rounds of some steps and, unless the last step is one, the round that
resolving has to add. -/
def roundsToResolve (steps : List Step) : Nat :=
  steps.countP Step.isRound + if endsInRound steps then 0 else 1

/-- What two histories submit, one after the other. -/
theorem submissions_append (steps later : List Step) :
    submissions (steps ++ later) = submissions steps ++ submissions later :=
  List.flatMap_append

/-- A history that only submits submits all of its entities. -/
theorem submissions_map_submit (entities : List Entity) :
    submissions (entities.map Step.submit) = entities := by
  induction entities with
  | nil => rfl
  | cons e rest ih =>
    show e :: submissions (rest.map Step.submit) = e :: rest
    rw [ih]

/-- At least one round is needed. -/
theorem roundsToResolve_pos (steps : List Step) : 0 < roundsToResolve steps := by
  simp only [roundsToResolve]
  split
  · rename_i hlast
    -- A last step that is a round is counted.
    obtain ⟨s, hs, hround⟩ := (Option.any_eq_true _ _).1 hlast
    have hcount := List.countP_pos_iff.2 ⟨s, List.mem_of_getLast? hs, hround⟩
    omega
  · omega

/-- Submitting alone takes one round to resolve. -/
theorem roundsToResolve_map_submit (entities : List Entity) :
    roundsToResolve (entities.map Step.submit) = 1 := by
  have hcount : (entities.map Step.submit).countP Step.isRound = 0 := by
    rw [List.countP_map, List.countP_eq_zero]
    intro e _ h
    cases h
  have hlast : endsInRound (entities.map Step.submit) = false := by
    simp only [endsInRound]
    rw [List.getLast?_map, Option.any_map]
    cases entities.getLast? <;> rfl
  simp [roundsToResolve, hcount, hlast]

section Queue

variable (config : ResolverConfig)

/-- Flattened entities without many-to-many associations make catalogs
without them. -/
theorem junctionFree_receiveAll {entities : List Entity}
    (h : ∀ e ∈ entities, (config.embeddables.flatten e).JunctionFree) :
    ∀ c ∈ (receiveAll config .empty entities).values, ∀ e ∈ c.entities, e.JunctionFree := by
  -- The catalogs flatten with the table of the choices, which is part of the invariant.
  have hall : ∀ m c, (receiveAll config .empty entities).get? m = some c →
      c.embeddables = config.embeddables ∧ ∀ e ∈ c.entities, e.JunctionFree := by
    refine List.foldlRecOn entities (receive config) (motive := fun catalogs =>
      ∀ m c, catalogs.get? m = some c →
        c.embeddables = config.embeddables ∧ ∀ e ∈ c.entities, e.JunctionFree) ?_ ?_
    · intro m c hc
      cases hc
    · intro catalogs hcatalogs e he
      refine forall_get?_receive config (P := fun _ c =>
        c.embeddables = config.embeddables ∧ ∀ e ∈ c.entities, e.JunctionFree) ?_ ?_ hcatalogs
      · intro m
        exact ⟨rfl, fun f hf => by cases hf⟩
      · rintro c ⟨htable, hc⟩
        refine ⟨by rw [Catalog.receive_embeddables, htable], fun f hf => ?_⟩
        rcases Catalog.mem_receive hf with hold | ⟨rfl, -⟩
        · exact hc f hold
        · rw [htable]
          exact h e he
  intro c hc
  obtain ⟨m, hm⟩ := OrderedMap.mem_values_iff.1 hc
  exact (hall m c hm).2

/-- A harvest of catalogs without many-to-many associations makes
nothing. -/
theorem junctions_eq_nil {catalogs : List Catalog}
    (h : ∀ c ∈ catalogs, ∀ e ∈ c.entities, e.JunctionFree) :
    (harvest config catalogs).junctions = [] := by
  refine List.eq_nil_iff_forall_not_mem.2 fun j hj => ?_
  obtain ⟨c, hc, q, hq, -⟩ := mem_junctions hj
  rw [Catalog.requests_eq_nil (h c hc)] at hq
  cases hq

end Queue

/-! ### A history without many-to-many associations -/

/-- The resolver after some steps that submit no many-to-many association
and nothing that is refused. -/
structure Follows (config : ResolverConfig) (steps : List Step) (r : Resolver) : Prop where
  choices : r.config = config
  coherent : r.Coherent
  /-- What came in and what waits lead to the catalogs of all submissions,
  and nothing is refused on the way. -/
  expects : r.Expects [] (receiveAll config .empty (submissions steps))
  round : r.round = steps.countP Step.isRound
  settled : endsInRound steps = true → r.isSettled = true

variable {config : ResolverConfig} {steps : List Step} {r : Resolver}

/-- It holds before the first step. -/
theorem follows_start : Follows config [] (start config) where
  choices := rfl
  coherent := coherent_start config
  expects := ⟨rfl, rfl⟩
  round := rfl
  settled h := by cases h

/-- A submission whose entity the catalogs of all submissions accept. -/
theorem Follows.submit (h : Follows config steps r) {e : Entity}
    (haccepted : refusals config (receiveAll config .empty (submissions steps)) [e] = []) :
    Follows config (steps ++ [.submit e]) (r.submit e) where
  choices := h.choices
  coherent := coherent_submit h.coherent e
  expects := by
    have hgoal := h.expects.catalogs
    have hrefusals := h.expects.refusals
    rw [h.choices] at hgoal hrefusals
    constructor
    · show refusals r.config r.catalogs (r.waiting ++ [e]) = []
      rw [h.choices, refusals_append, hrefusals, hgoal, haccepted, List.append_nil]
    · show (r.waiting ++ [e]).foldl (receive r.config) r.catalogs = _
      rw [h.choices, submissions_append, List.foldl_append]
      show receiveAll config (receiveAll config r.catalogs r.waiting) [e] = _
      rw [hgoal]
      exact List.foldl_append.symm
  round := by
    rw [List.countP_append]
    exact h.round
  settled hlast := by
    simp [endsInRound, Step.isRound] at hlast

/-- A round that the limit allows, of catalogs without many-to-many
associations. -/
theorem Follows.runRound (h : Follows config steps r)
    (hfree : ∀ e ∈ submissions steps, (config.embeddables.flatten e).JunctionFree)
    (hround : r.round < config.maxRounds) :
    (∃ report, r.runRound = (.ok report, r.runRound.2)) ∧
      Follows config (steps ++ [.round]) r.runRound.2 := by
  have hsubmissions : submissions (steps ++ [.round]) = submissions steps := by
    rw [submissions_append]
    exact List.append_nil _
  have hallowed : r.round < r.config.maxRounds := by
    rw [h.choices]
    exact hround
  obtain ⟨report, hok, hcatalogs⟩ := h.expects.runRound_nil hallowed
  have hrun : r.runRound = (.ok report, r.runRound.2) := Prod.ext hok rfl
  obtain ⟨hconfig, -, hwaiting, -, hsettled⟩ := after_of_runRound hrun
  -- The catalogs are complete and ask for nothing, so nothing waits for a further round.
  have hnone : r.runRound.2.waiting = [] := by
    rw [hwaiting, hcatalogs]
    exact junctions_eq_nil _ (junctionFree_receiveAll config hfree)
  refine ⟨⟨report, hrun⟩, ?_⟩
  exact
    { choices := hconfig.trans h.choices
      coherent := coherent_runRound h.coherent
      expects := by
        constructor
        · rw [hnone]
          rfl
        · rw [hnone, hsubmissions]
          exact hcatalogs
      round := by
        rw [round_runRound hallowed, h.round, List.countP_append]
        rfl
      settled := fun _ => hsettled.2 hnone }

/-- Step by step, a history that submits no many-to-many association and
nothing that is refused, and that has rounds left for its rounds. -/
theorem follows_history (steps : List Step)
    (hfree : ∀ e ∈ submissions steps, (config.embeddables.flatten e).JunctionFree)
    (haccepted : refusals config .empty (submissions steps) = [])
    (hrounds : steps.countP Step.isRound ≤ config.maxRounds) :
    Follows config steps (history config steps) := by
  induction steps using List.reverseRecOn with
  | nil => exact follows_start
  | append_singleton steps s ih =>
    rw [submissions_append] at hfree haccepted
    rw [List.countP_append] at hrounds
    rw [refusals_append, List.append_eq_nil_iff] at haccepted
    have hfree' : ∀ e ∈ submissions steps, (config.embeddables.flatten e).JunctionFree :=
      fun e he => hfree e (List.mem_append_left _ he)
    have hbefore := ih hfree' haccepted.1 (by omega)
    rw [history_append]
    cases s with
    | submit e => exact hbefore.submit haccepted.2
    | round =>
      refine (hbefore.runRound hfree' ?_).2
      have hone : [Step.round].countP Step.isRound = 1 := rfl
      rw [hbefore.round]
      omega

/-! ### The resolution -/

/-- A resolution with these catalogs that says of them what there is to
say. -/
structure Concludes (config : ResolverConfig) (goal : OrderedMap String Catalog)
    (res : Resolution) : Prop where
  catalogs : res.catalogs = goal
  links : res.links = .ofList ((goal.values.flatMap fun c =>
    c.links config.separator).map fun l => (l.source, l))
  diagnostics : res.diagnostics = (harvest config goal.values).diagnostics

/-- Once nothing waits, the catalogs are complete and the diagnostics are
theirs. -/
theorem Follows.concludes (h : Follows config steps r) (hsettled : r.isSettled = true) :
    Concludes config (receiveAll config .empty (submissions steps)) r.resolution := by
  obtain ⟨hstable, hwaiting⟩ := isSettled_iff.1 hsettled
  have hcatalogs : r.catalogs = receiveAll config .empty (submissions steps) := by
    have hgoal := h.expects.catalogs
    rw [hwaiting] at hgoal
    exact hgoal
  have hharvest := (h.coherent.settled hstable).2
  rw [h.choices, hcatalogs] at hharvest
  refine ⟨hcatalogs, ?_, ?_⟩
  · show allLinks r = _
    simp only [allLinks]
    rw [h.choices, hcatalogs]
  · rw [hharvest]
    rfl

/-- With a round left for what waits, a resolver comes to the resolution of
all submissions. -/
theorem Follows.exists_resolve (h : Follows config steps r)
    (hfree : ∀ e ∈ submissions steps, (config.embeddables.flatten e).JunctionFree)
    (hrounds : roundsToResolve steps ≤ config.maxRounds) :
    ∃ res, r.resolve = .ok res ∧
      Concludes config (receiveAll config .empty (submissions steps)) res := by
  by_cases hsettled : r.isSettled = true
  · exact ⟨r.resolution, resolve_eq_ok_iff.2 ⟨r, settle_of_isSettled _ hsettled, rfl⟩,
      h.concludes hsettled⟩
  · have hlast : endsInRound steps = false :=
      Bool.eq_false_iff.2 fun hlast => hsettled (h.settled hlast)
    have hround : r.round < config.maxRounds := by
      simp only [roundsToResolve, hlast, Bool.false_eq_true, if_false] at hrounds
      rw [h.round]
      exact hrounds
    obtain ⟨⟨report, hrun⟩, hafter⟩ := h.runRound hfree hround
    -- One round completes the catalogs.
    have hdone : r.runRound.2.isSettled = true :=
      hafter.settled (by simp [endsInRound, Step.isRound])
    obtain ⟨left, hleft⟩ : ∃ left, r.config.maxRounds - r.round = left + 1 :=
      ⟨config.maxRounds - r.round - 1, by rw [h.choices]; omega⟩
    have hconcludes := hafter.concludes hdone
    rw [submissions_append, show submissions [Step.round] = [] from rfl, List.append_nil]
      at hconcludes
    refine ⟨_, resolve_eq_ok_iff.2 ⟨r.runRound.2, ?_, rfl⟩, hconcludes⟩
    rw [hleft, settle_of_runRound left (Bool.eq_false_iff.2 hsettled) hrun]
    exact settle_of_isSettled left hdone

/-- Entities whose flattened attributes include no many-to-many association,
and of which none is refused, are submitted in batches with rounds in
between. As long as the limit on the rounds allows it, the resolver comes to
the same catalogs, links and diagnostics as one to which all entities are
submitted before it is resolved. -/
theorem resolve_batches {entities : List Entity} (hsteps : submissions steps = entities)
    (hfree : ∀ e ∈ entities, ∀ a ∈ (config.embeddables.flatten e).attributes.values,
      a.isManyToMany = false)
    (haccepted : refusals config .empty entities = [])
    (hrounds : roundsToResolve steps ≤ config.maxRounds) :
    ∃ batched whole, (history config steps).resolve = .ok batched ∧
      (submitAll config entities).resolve = .ok whole ∧
      batched.catalogs = whole.catalogs ∧ batched.links = whole.links ∧
      batched.diagnostics = whole.diagnostics := by
  -- Both are histories that submit the same entities.
  have hresolve : ∀ steps : List Step, submissions steps = entities →
      roundsToResolve steps ≤ config.maxRounds →
      ∃ res, (history config steps).resolve = .ok res ∧
        Concludes config (receiveAll config .empty entities) res := by
    rintro steps rfl hrounds
    have hcount : steps.countP Step.isRound ≤ config.maxRounds :=
      Nat.le_trans (Nat.le_add_right _ _) hrounds
    exact (follows_history steps hfree haccepted hcount).exists_resolve hfree hrounds
  have hwhole : submitAll config entities = history config (entities.map Step.submit) := by
    simp only [submitAll, history]
    rw [List.foldl_map]
    rfl
  have hone : roundsToResolve (entities.map Step.submit) ≤ config.maxRounds := by
    rw [roundsToResolve_map_submit]
    exact Nat.le_trans (roundsToResolve_pos steps) hrounds
  obtain ⟨batched, hbatched, hleft⟩ := hresolve steps hsteps hrounds
  obtain ⟨whole, hrun, hright⟩ := hresolve _ (submissions_map_submit entities) hone
  refine ⟨batched, whole, hbatched, by rw [hwhole]; exact hrun, ?_, ?_, ?_⟩
  · rw [hleft.catalogs, hright.catalogs]
  · rw [hleft.links, hright.links]
  · rw [hleft.diagnostics, hright.diagnostics]

/-- A phone is submitted between rounds, and after two of them its owner's
entity. The rounds in between warn that the owner is not there. The
resolution has forgotten it, as if both had been submitted at once. -/
theorem resolve_batches_phone :
    let phone : Attribute :=
      { Attribute.column "owner" (.named ⟨["Person"]⟩) with cardinality := some .manyToOne }
    let phones := EntityDraft.buildAll
      [{ EntityDraft.ofType ⟨["Phone"]⟩ with attributes := [phone] }]
    let people := EntityDraft.buildAll [EntityDraft.ofType ⟨["Person"]⟩]
    let first := [.round] ++ phones.map Step.submit ++ [.round, .round]
    let steps := first ++ people.map Step.submit
    (submissions steps = phones ++ people ∧
      (∀ e ∈ phones ++ people, ∀ a ∈ (Embeddables.flatten .empty e).attributes.values,
        a.isManyToMany = false) ∧
      refusals .standard .empty (phones ++ people) = [] ∧
      roundsToResolve steps ≤ ResolverConfig.standard.maxRounds) ∧
    (history .standard first).diagnostics.map toString =
      ["warning: Phone::owner: couldn't find referenced element `Person`"] ∧
    ∃ batched whole, (history .standard steps).resolve = .ok batched ∧
      (submitAll .standard (phones ++ people)).resolve = .ok whole ∧
      batched.catalogs = whole.catalogs ∧ batched.links = whole.links ∧
      batched.diagnostics = whole.diagnostics ∧ batched.diagnostics = [] := by
  intro phone phones people first steps
  have hsteps : submissions steps = phones ++ people := by decide +kernel
  have hfree : ∀ e ∈ phones ++ people, ∀ a ∈ (Embeddables.flatten .empty e).attributes.values,
      a.isManyToMany = false := by decide +kernel
  have haccepted : refusals .standard .empty (phones ++ people) = [] := by decide +kernel
  have hrounds : roundsToResolve steps ≤ ResolverConfig.standard.maxRounds := by decide +kernel
  obtain ⟨batched, whole, hbatched, hwhole, hcatalogs, hlinks, hdiagnostics⟩ :=
    resolve_batches hsteps hfree haccepted hrounds
  have hquiet : (history .standard steps).resolve.toOption.any
      (fun res => res.diagnostics.isEmpty) = true := by decide +kernel
  rw [hbatched] at hquiet
  exact ⟨⟨hsteps, hfree, haccepted, hrounds⟩, by decide +kernel, batched, whole, hbatched, hwhole,
    hcatalogs, hlinks, hdiagnostics, List.isEmpty_iff.1 hquiet⟩

end Resolver

end SchemaLinker
