import SchemaLinker.Proofs.History

/-!
# `SchemaLinker.Proofs.Stability`: current diagnostics and stable states

A round retires what was said about the attributes that it reviews and
adds what it finds. Nothing older survives this, because every diagnostic
that a resolver holds is about a resident attribute
(`Resolver.Coherent.resident`) and a round reviews all of them:
`Coherent.diagnostics_runRound`.

In a stable state nothing waits, and the diagnostics are those of the
catalogs as they are. So a further round takes nothing in, finds the same
again and makes nothing: `Coherent.runRound_of_stable`.

`runRound_current_history` states both for every reachable state, after
any submissions and any rounds, also failed ones.
-/

set_option autoImplicit false

namespace SchemaLinker.Resolver

/-- After a round that succeeds, a resolver holds the diagnostics that the
round reported and no others. -/
theorem Coherent.diagnostics_runRound {r after : Resolver} {report : RoundReport}
    (h : r.Coherent) (hrun : r.runRound = (.ok report, after)) :
    after.diagnostics = report.diagnostics := by
  obtain ⟨-, -, hsettle⟩ := runRound_eq_ok_iff.1 hrun
  have hdiagnostics := h.diagnostics_settleRound
  rw [hsettle] at hdiagnostics
  rw [hdiagnostics, ← congrArg (fun p => p.1.diagnostics) hsettle]
  rfl

/-- Every diagnostic is about an attribute of a resident entity. -/
theorem Coherent.exists_resident {r : Resolver} (h : r.Coherent) {d : Diagnostic}
    (hd : d ∈ r.diagnostics) :
    ∃ c ∈ r.catalogs.values, ∃ e ∈ c.entities, ∃ a ∈ e.attributes.values,
      d.subject = e.idOf a := by
  obtain ⟨c, hc, v, hv, hsubject⟩ := mem_subjects.1 (h.resident d hd)
  obtain ⟨hentity, hattribute⟩ := Catalog.mem_visits.1 hv
  exact ⟨c, hc, v.1, hentity, v.2, hattribute, hsubject.symm⟩

/-- A round from a stable state is counted and changes nothing else. It
reports no insertion, no junction, and the diagnostics that the resolver
holds. -/
theorem Coherent.runRound_of_stable {r : Resolver} (h : r.Coherent) (hstable : r.state = .stable)
    (hround : r.round < r.config.maxRounds) :
    r.runRound =
      (.ok
        { round := r.round + 1
          inserted := 0
          synthesized := []
          diagnostics := r.diagnostics },
        { r with round := r.round + 1 }) := by
  obtain ⟨hwaiting, hharvest⟩ := h.settled hstable
  have hintake : takeIn r.config r.catalogs 0 r.waiting = ⟨r.catalogs, 0, none⟩ := by
    rw [hwaiting]
    rfl
  refine runRound_eq_ok_iff.2 ⟨hround, by rw [hintake], ?_⟩
  have hretired : retireAll r.diagnostics r.catalogs.values = [] := retireAll_eq_nil h.resident
  rw [hintake]
  unfold settleRound
  dsimp only
  rw [hharvest, hretired, ← hstable, hwaiting]
  rfl

/-- Submit entities and run rounds, in any order, whether the rounds succeed
or fail. Then a round that succeeds leaves exactly the diagnostics that it
reports, and every diagnostic is about an attribute of a resident entity. In
a stable state nothing waits, and a further round within the limit inserts
nothing, makes no junction, reports the same diagnostics and changes nothing
but the number of rounds. -/
theorem runRound_current_history (config : ResolverConfig) (steps : List Step) :
    (∀ report after, (history config steps).runRound = (.ok report, after) →
      after.diagnostics = report.diagnostics) ∧
    (∀ d ∈ (history config steps).diagnostics,
      ∃ c ∈ (history config steps).catalogs.values, ∃ e ∈ c.entities,
        ∃ a ∈ e.attributes.values, d.subject = e.idOf a) ∧
    ((history config steps).state = .stable →
      (history config steps).waiting = [] ∧
      ((history config steps).round < config.maxRounds →
        ∃ report, (history config steps).runRound =
            (.ok report, { history config steps with round := (history config steps).round + 1 }) ∧
          report.inserted = 0 ∧ report.synthesized = [] ∧
          report.diagnostics = (history config steps).diagnostics)) := by
  have hcoherent := coherent_history config steps
  refine ⟨fun report after hrun => hcoherent.diagnostics_runRound hrun,
    fun d hd => hcoherent.exists_resident hd,
    fun hstable => ⟨(hcoherent.settled hstable).1, fun hround => ?_⟩⟩
  have hlimit : (history config steps).round < (history config steps).config.maxRounds := by
    rw [config_history]
    exact hround
  exact ⟨_, hcoherent.runRound_of_stable hstable hlimit, rfl, rfl, rfl⟩

/-- A phone is submitted without its owner's entity, which a warning says in
the first round. A second round says the same. The owner comes before the
third, and it says nothing any more. -/
theorem runRound_current_phone :
    let phone : Attribute :=
      { Attribute.column "owner" (.named ⟨["Person"]⟩) with cardinality := some .manyToOne }
    let phones := EntityDraft.buildAll
      [{ EntityDraft.ofType ⟨["Phone"]⟩ with attributes := [phone] }]
    let people := EntityDraft.buildAll [EntityDraft.ofType ⟨["Person"]⟩]
    let first := phones.map Step.submit ++ [.round]
    let later := first ++ people.map Step.submit
    ((history .standard first).state = .stable ∧
      (history .standard first).diagnostics.map toString =
        ["warning: Phone::owner: couldn't find referenced element `Person`"] ∧
      ∃ report, (history .standard first).runRound =
          (.ok report, { history .standard first with round := 2 }) ∧
        report.inserted = 0 ∧ report.synthesized = [] ∧
        report.diagnostics = (history .standard first).diagnostics) ∧
    ∃ report after, (history .standard later).runRound = (.ok report, after) ∧
      report.inserted = 1 ∧ report.diagnostics = [] ∧ after.diagnostics = report.diagnostics := by
  intro phone phones people first later
  have hstable : (history .standard first).state = .stable := by decide +kernel
  have hround : (history .standard first).round = 1 := by decide +kernel
  obtain ⟨-, hfixed⟩ := (runRound_current_history .standard first).2.2 hstable
  have hagain := hfixed (by rw [hround]; decide)
  rw [hround] at hagain
  refine ⟨⟨hstable, by decide +kernel, hagain⟩, ?_⟩
  have hlater : (history .standard later).runRound.1.toOption.any (fun report =>
      report.inserted == 1 && report.diagnostics.isEmpty) = true := by decide +kernel
  obtain ⟨report, hreport, htest⟩ := exists_ok_of_any_toOption hlater
  rw [Bool.and_eq_true, beq_iff_eq, List.isEmpty_iff] at htest
  have hrun : (history .standard later).runRound =
      (.ok report, (history .standard later).runRound.2) := Prod.ext hreport rfl
  exact ⟨report, _, hrun, htest.1, htest.2,
    (runRound_current_history .standard later).1 report _ hrun⟩

end SchemaLinker.Resolver
