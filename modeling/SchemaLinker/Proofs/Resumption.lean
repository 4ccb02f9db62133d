import SchemaLinker.Proofs.History

/-!
# `SchemaLinker.Proofs.Resumption`: rounds after a refusal

A refused entity ends a round in the middle of the queue. The entities
before it have come in, the refused one is dropped, and those behind it
wait for the next round. `Expects.runRound_cons` is this step, seen against
the whole queue: the round fails with the first of its `refusals`, the
others are still ahead, and receiving what waits leads to the catalogs to
which the whole queue would have led (`receiveAll`).

By induction on the refusals, running rounds until one succeeds is the same
as one pass over the queue that skips what is refused:
`runRound_roundsAfter`. There is one failed round for each refusal, with its
fault, and nothing is lost or comes in out of order.
-/

set_option autoImplicit false

namespace SchemaLinker.Resolver

/-- The resolver after some rounds, whether they succeed or fail. -/
def roundsAfter (r : Resolver) : Nat → Resolver
  | 0 => r
  | n + 1 => r.runRound.2.roundsAfter n

/-- One round more may also be run at the end. -/
theorem roundsAfter_succ (r : Resolver) (n : Nat) :
    r.roundsAfter (n + 1) = (r.roundsAfter n).runRound.2 := by
  induction n generalizing r with
  | zero => rfl
  | succ n ih => exact ih r.runRound.2

/-- A round that fails leaves the diagnostics and the state. -/
theorem runRound_eq_error_frame {r next : Resolver} {fault : Fault}
    (h : r.runRound = (.error fault, next)) :
    next.diagnostics = r.diagnostics ∧ next.state = r.state := by
  rcases runRound_eq_error h with hsame | ⟨behind, -, hnext⟩
  · rw [hsame]
    exact ⟨rfl, rfl⟩
  · rw [hnext]
    exact ⟨rfl, rfl⟩

/-- What is left of a queue that the resolver has begun to take in: the
faults that its refusals will raise, and the catalogs to which it leads. -/
structure Expects (r : Resolver) (faults : List Fault) (goal : OrderedMap String Catalog) :
    Prop where
  refusals : refusals r.config r.catalogs r.waiting = faults
  catalogs : receiveAll r.config r.catalogs r.waiting = goal

/-- With a refusal ahead, a round fails with its fault, and the resolver
expects the others and the same catalogs. -/
theorem Expects.runRound_cons {r : Resolver} {fault : Fault} {faults : List Fault}
    {goal : OrderedMap String Catalog} (h : r.Expects (fault :: faults) goal)
    (hround : r.round < r.config.maxRounds) :
    r.runRound.1 = .error fault ∧ r.runRound.2.Expects faults goal := by
  have hqueue := refusals_takeIn r.config r.catalogs 0 r.waiting
  have hgoal := receiveAll_takeIn r.config r.catalogs 0 r.waiting
  rw [h.refusals] at hqueue
  rw [h.catalogs] at hgoal
  rcases hrefusal : (takeIn r.config r.catalogs 0 r.waiting).refusal with _ | ⟨stopped, behind⟩
  · rw [hrefusal] at hqueue
    cases hqueue
  · -- The intake stops at the first refusal of the queue.
    simp only [hrefusal] at hqueue
    obtain ⟨rfl, hothers⟩ := List.cons.inj hqueue
    simp only [Intake.behind, hrefusal] at hgoal
    rw [runRound_of_refusal hround hrefusal]
    exact ⟨rfl, hothers.symm, hgoal⟩

/-- With no refusal ahead, a round succeeds and completes the catalogs. -/
theorem Expects.runRound_nil {r : Resolver} {goal : OrderedMap String Catalog}
    (h : r.Expects [] goal) (hround : r.round < r.config.maxRounds) :
    ∃ report, r.runRound.1 = .ok report ∧ r.runRound.2.catalogs = goal := by
  obtain ⟨report, after, hrun⟩ := exists_runRound_eq_ok_iff.2 ⟨hround, h.refusals⟩
  obtain ⟨-, hcatalogs, -⟩ := after_of_runRound hrun
  rw [hrun]
  exact ⟨report, rfl, hcatalogs.trans h.catalogs⟩

/-- The rounds fail with one expected fault after the other, and the round
after the last of them succeeds and completes the catalogs. -/
theorem Expects.roundsAfter {faults : List Fault} {goal : OrderedMap String Catalog}
    {r : Resolver} (h : r.Expects faults goal)
    (hleft : r.round + faults.length < r.config.maxRounds) :
    (∀ i (hi : i < faults.length), (r.roundsAfter i).runRound.1 = .error faults[i]) ∧
    ∃ report, (r.roundsAfter faults.length).runRound.1 = .ok report ∧
      (r.roundsAfter (faults.length + 1)).catalogs = goal := by
  induction faults generalizing r with
  | nil =>
    exact ⟨fun i hi => absurd hi (Nat.not_lt_zero i), h.runRound_nil hleft⟩
  | cons fault faults ih =>
    rw [List.length_cons] at hleft
    have hround : r.round < r.config.maxRounds := by omega
    obtain ⟨hfault, hnext⟩ := h.runRound_cons hround
    -- One round and one refusal are done, so enough rounds are left for the others.
    have hleft' : r.runRound.2.round + faults.length < r.runRound.2.config.maxRounds := by
      rw [round_runRound hround, config_runRound]
      omega
    obtain ⟨hfaults, hdone⟩ := ih hnext hleft'
    refine ⟨fun i hi => ?_, hdone⟩
    cases i with
    | zero => exact hfault
    | succ i => exact hfaults i (Nat.lt_of_succ_lt_succ hi)

/-- Let entities wait of which some will be refused, and let there be one
round more than refusals left. Then the rounds fail with the faults of the
refusals, one after the other, and the next round succeeds. The catalogs
are then those of one pass over the queue, in order, that skips what is
refused. No round that fails changes the diagnostics or the state. -/
theorem runRound_roundsAfter {r : Resolver}
    (hleft : r.round + (refusals r.config r.catalogs r.waiting).length < r.config.maxRounds) :
    (∀ i (hi : i < (refusals r.config r.catalogs r.waiting).length),
      (r.roundsAfter i).runRound =
        (.error (refusals r.config r.catalogs r.waiting)[i], r.roundsAfter (i + 1))) ∧
    (∃ report,
      (r.roundsAfter (refusals r.config r.catalogs r.waiting).length).runRound =
        (.ok report, r.roundsAfter ((refusals r.config r.catalogs r.waiting).length + 1)) ∧
      (r.roundsAfter ((refusals r.config r.catalogs r.waiting).length + 1)).catalogs =
        receiveAll r.config r.catalogs r.waiting) ∧
    ∀ (s next : Resolver) fault, s.runRound = (.error fault, next) →
      next.diagnostics = s.diagnostics ∧ next.state = s.state := by
  have hexpects : r.Expects (refusals r.config r.catalogs r.waiting)
      (receiveAll r.config r.catalogs r.waiting) := ⟨rfl, rfl⟩
  obtain ⟨hfaults, report, hreport, hcatalogs⟩ := hexpects.roundsAfter hleft
  refine ⟨fun i hi => ?_, ⟨report, ?_, hcatalogs⟩, fun s next fault h => runRound_eq_error_frame h⟩
  · exact Prod.ext (hfaults i hi) (roundsAfter_succ r i).symm
  · exact Prod.ext hreport (roundsAfter_succ r _).symm

/-- Five entities wait. The second and the fourth say otherwise than the one
before them and are refused, so two rounds fail. The third round has taken
in all others. -/
theorem runRound_roundsAfter_twice :
    let label := Attribute.column "label" (.scalar .string)
    let draft (name model : String) (attributes : List Attribute) : EntityDraft :=
      { EntityDraft.ofType ⟨[name]⟩ with model := some model, attributes := attributes }
    let r := submitAll .standard (EntityDraft.buildAll
      [draft "Tag" "default" [], draft "Tag" "default" [label], draft "Post" "blog" [],
        draft "Post" "blog" [label], draft "Note" "default" []])
    (refusals r.config r.catalogs r.waiting).map Fault.message =
      ["entity `Tag` is declared more than once with different definitions",
        "entity `Post` is declared more than once with different definitions"] ∧
    r.round + (refusals r.config r.catalogs r.waiting).length < r.config.maxRounds ∧
    ((r.roundsAfter 3).catalogs.values.map fun c => c.entities.map Entity.tableName) =
      [["Tag", "Note"], ["Post"]] ∧
    (∀ i (hi : i < (refusals r.config r.catalogs r.waiting).length),
      (r.roundsAfter i).runRound =
        (.error (refusals r.config r.catalogs r.waiting)[i], r.roundsAfter (i + 1))) ∧
    ∃ report, (r.roundsAfter 2).runRound = (.ok report, r.roundsAfter 3) ∧
      (r.roundsAfter 3).catalogs = receiveAll r.config r.catalogs r.waiting := by
  intro label draft r
  have hlength : (refusals r.config r.catalogs r.waiting).length = 2 := by decide +kernel
  have hleft : r.round + (refusals r.config r.catalogs r.waiting).length < r.config.maxRounds := by
    rw [hlength]
    decide +kernel
  obtain ⟨hfaults, hdone, -⟩ := runRound_roundsAfter hleft
  rw [hlength] at hdone
  exact ⟨by decide +kernel, hleft, by decide +kernel, hfaults, hdone⟩

end SchemaLinker.Resolver
