import Mathlib.Data.Set.Card
import SchemaLinker.Proofs.Assembly
import SchemaLinker.Proofs.History
import SchemaLinker.Proofs.PairTally

/-!
# `SchemaLinker.Proofs.PairErrors`: the errors about the two sides of an association

Two attributes that are one association, one the other's only other side,
have to fit together. Whether they do is the same from both sides
(`Attribute.Clashes.comm`), and a visit whose pair was looked at before says
nothing about it.

So of each unordered pair that does not fit (`Catalog.ClashingPair`) a review
has one error, about the side that comes first. `pairErrorsOnce_assemble`
states this as a list of the pairs beside the list of the errors, and as a
number. `pairFindings_review` is the closed form behind it: the errors are
the results of a run that gives each pair its result once.
-/

set_option autoImplicit false

namespace SchemaLinker

namespace Catalog

variable {c : Catalog}

/-- The association `a` of `e`, whose name the policy does not leave open, has
the attribute `b` of `t` for its only other side. -/
structure OnlyOther (c : Catalog) (e : Entity) (a : Attribute) (t : Entity) (b : Attribute) :
    Prop where
  visited : (e, a) ∈ c.visits
  association : a.isAssociation = true
  decided : ¬(c.policy = .strict ∧ c.ambiguousTargets a ≠ [])
  target : c.target? a = some t
  only : c.inverses e a t = [b]

/-- The unordered pair is an association with its only other side, and the
two do not fit together. -/
def ClashingPair (c : Catalog) (z : Sym2 AttributeId) : Prop :=
  ∃ e a t b, c.OnlyOther e a t b ∧ a.Clashes b ∧ s(e.idOf a, t.idOf b) = z

/-- The error about its pair that a visit finds, with the pair. -/
def pairFinding? (c : Catalog) (v : Entity × Attribute) :
    Option ((AttributeId × AttributeId) × Finding) :=
  (c.pair? v).bind fun p => (c.relationshipFinding v).map fun f => (p, f)

/-- What is found about a pair comes with the pair. -/
theorem pairFinding?_eq_some_iff {v : Entity × Attribute}
    {q : (AttributeId × AttributeId) × Finding} :
    c.pairFinding? v = some q ↔ c.pair? v = some q.1 ∧ c.relationshipFinding v = some q.2 := by
  simp only [pairFinding?, Option.bind_eq_some_iff, Option.map_eq_some_iff]
  constructor
  · rintro ⟨p, hp, f, hf, rfl⟩
    exact ⟨hp, hf⟩
  · rintro ⟨hp, hf⟩
    exact ⟨q.1, hp, q.2, hf, rfl⟩

/-- The pair errors that a visit says: the one of its pair, unless the pair
has had it. -/
theorem filter_isOfPair_said (checked : List (AttributeId × AttributeId))
    (v : Entity × Attribute) :
    (c.said checked v).filter Finding.isOfPair =
      (Review.unlessHeld checked (c.whenDecided c.pair? v)
        (c.whenDecided c.pairFinding? v)).toList.map Prod.snd := by
  -- The other rules find nothing about pairs.
  have hshared : (Finding.ofSharedName c v.2).toList.filter Finding.isOfPair = [] := by
    refine List.filter_eq_nil_iff.2 fun f hf => Bool.eq_false_iff.1 ?_
    exact Finding.isOfPair_of_ofSharedName (Option.mem_toList.1 hf)
  have hkey : (c.foreignKeyFinding v).toList.filter Finding.isOfPair = [] := by
    refine List.filter_eq_nil_iff.2 fun f hf => Bool.eq_false_iff.1 ?_
    exact Finding.isOfPair_of_ofForeignKey
      (foreignKeyFinding_eq_some_iff.1 (Option.mem_toList.1 hf)).2
  simp only [said, whenDecided]
  rw [List.filter_append, hshared, List.nil_append]
  cases c.undecided v.2 with
  | true => rfl
  | false =>
    simp only [Bool.false_eq_true, if_false]
    rw [List.filter_append, hkey, List.append_nil]
    simp only [Review.unlessHeld, pairFinding?]
    cases hf : c.relationshipFinding v with
    | none => cases c.pair? v <;> simp
    | some f =>
      have hpair := isOfPair_relationshipFinding hf
      cases hp : c.pair? v with
      | none => simp [hpair, hp]
      | some p =>
        rw [hp] at hpair
        by_cases hheld : Review.holds checked p.1 p.2 = true <;> simp [hheld, hpair]

end Catalog

namespace Review

variable (c : Catalog) (oneSided : Bool)

/-- The pair errors after some visits are those before and the ones of the
pairs that were not looked at. -/
theorem pairFindings_foldl (visits : List (Entity × Attribute)) (r : Review) :
    (visits.foldl (visit c oneSided) r).findings.filter (fun p => p.2.isOfPair) =
      r.findings.filter (fun p => p.2.isOfPair) ++
        (oncePerPair (c.whenDecided c.pair?) (c.whenDecided c.pairFinding?) r.checked visits).map
          fun q => (q.1.1, q.2) := by
  induction visits generalizing r with
  | nil => simp [oncePerPair]
  | cons v rest ih =>
    have hsaid : ((c.said r.checked v).map fun f => (v.1.idOf v.2, f)).filter
          (fun p => p.2.isOfPair) =
        (unlessHeld r.checked (c.whenDecided c.pair? v)
          (c.whenDecided c.pairFinding? v)).toList.map fun q => (q.1.1, q.2) := by
      rw [List.filter_map]
      show ((c.said r.checked v).filter Finding.isOfPair).map _ = _
      rw [Catalog.filter_isOfPair_said, List.map_map]
      -- The visited attribute is the first of its pair.
      refine List.map_congr_left fun q hq => ?_
      have hfinding := (Catalog.whenDecided_eq_some_iff.1
        (unlessHeld_eq_some (Option.mem_toList.1 hq))).2
      obtain ⟨_, _, _, _, _, _, hids⟩ :=
        Catalog.pair?_eq_some_iff.1 (Catalog.pairFinding?_eq_some_iff.1 hfinding).1
      rw [hids]
      rfl
    rw [List.foldl_cons, ih, visit_eq, oncePerPair, List.map_append, ← List.append_assoc]
    dsimp only
    rw [List.filter_append, hsaid]
    rfl

end Review

namespace Catalog

variable {c : Catalog}

/-- The pair errors of a review are those of its decided visits, one for each
pair that has one. -/
theorem pairFindings_review (c : Catalog) (oneSided : Bool) :
    (c.review oneSided).findings.filter (fun p => p.2.isOfPair) =
      (Review.oncePerPair (c.whenDecided c.pair?) (c.whenDecided c.pairFinding?) []
        c.visits).map fun q => (q.1.1, q.2) :=
  Review.pairFindings_foldl c oneSided c.visits .start

/-- A visit that finds an error about its pair looks at the pair. -/
theorem pair?_of_whenDecided_pairFinding? {v : Entity × Attribute}
    {q : (AttributeId × AttributeId) × Finding} (h : c.whenDecided c.pairFinding? v = some q) :
    c.whenDecided c.pair? v = some q.1 := by
  obtain ⟨hdecided, hfinding⟩ := whenDecided_eq_some_iff.1 h
  exact whenDecided_eq_some_iff.2 ⟨hdecided, (pairFinding?_eq_some_iff.1 hfinding).1⟩

/-- Visits of one pair find an error about it together. -/
theorem pairsAgree_pairFinding (hc : c.AllKeyed) :
    Review.PairsAgree (c.whenDecided c.pair?) (c.whenDecided c.pairFinding?) c.visits := by
  -- Where a visit looks at a pair, all that it finds there is about the pair.
  have hsame : ∀ v p, c.whenDecided c.pair? v = some p →
      ((c.whenDecided c.pairFinding? v).isSome = true ↔
        (c.whenDecided c.relationshipError v).isSome = true) := by
    intro v p hp
    obtain ⟨-, hp⟩ := whenDecided_eq_some_iff.1 hp
    rw [isSome_whenDecided_iff, isSome_whenDecided_iff]
    refine and_congr_right fun _ => ?_
    simp only [pairFinding?, relationshipError]
    cases hf : c.relationshipFinding v with
    | none => simp
    | some f => simp [hp, severity_of_pair? c hp hf]
  intro u hu v hv p q hp hq heq
  rw [hsame u p hp, hsame v q hq]
  exact pairsAgree_relationshipError hc u hu v hv p q hp hq heq

/-- The visits that find an error about their pair are those of an
association and an only other side that does not fit. -/
theorem exists_pairFinding?_iff {z : Sym2 AttributeId} :
    (∃ v ∈ c.visits, ∃ q, c.whenDecided c.pairFinding? v = some q ∧ s(q.1.1, q.1.2) = z) ↔
      c.ClashingPair z := by
  constructor
  · rintro ⟨⟨e, a⟩, hv, q, hq, hz⟩
    obtain ⟨hdecided, hfinding⟩ := whenDecided_eq_some_iff.1 hq
    obtain ⟨hpair, hfound⟩ := pairFinding?_eq_some_iff.1 hfinding
    obtain ⟨k, t, b, hk, ht, hi, hids⟩ := pair?_eq_some_iff.1 hpair
    rw [relationshipFinding_of_inverses hk ht hi] at hfound
    refine ⟨e, a, t, b, ⟨hv, ?_, ?_, ht, hi⟩, ?_, ?_⟩
    · exact Option.isSome_iff_exists.2 ⟨k, hk⟩
    · rw [← undecided_iff]
      exact Bool.eq_false_iff.1 hdecided
    · exact (Finding.isSome_ofPair_iff _ _ hk).1 (Option.isSome_iff_exists.2 ⟨_, hfound⟩)
    · rw [← hz, hids]
  · rintro ⟨e, a, t, b, hother, hclash, hz⟩
    obtain ⟨k, hk⟩ := Option.isSome_iff_exists.1 hother.association
    obtain ⟨f, hf⟩ := Option.isSome_iff_exists.1
      ((Finding.isSome_ofPair_iff (e.idOf a) (t.idOf b) hk).2 hclash)
    refine ⟨(e, a), hother.visited, ((e.idOf a, t.idOf b), f), ?_, hz⟩
    refine whenDecided_eq_some_iff.2 ⟨Bool.eq_false_iff.2 fun h =>
      hother.decided (undecided_iff.1 h), pairFinding?_eq_some_iff.2 ⟨?_, ?_⟩⟩
    · exact pair?_eq_some_iff.2 ⟨k, t, b, hk, hother.target, hother.only, rfl⟩
    · rw [relationshipFinding_of_inverses hk hother.target hother.only]
      exact hf

/-- Each pair that does not fit together has one error among these findings,
and there are no other pair errors. -/
structure PairErrorsOnce (c : Catalog) (findings : List (AttributeId × Finding)) : Prop where
  /-- The pairs stand beside the errors in a list: an error is about the first
  of its pair, and each unordered pair is there once. -/
  paired : ∃ pairs : List (AttributeId × AttributeId),
    (findings.filter fun p => p.2.isOfPair).map Prod.fst = pairs.map Prod.fst ∧
      (pairs.map fun p => s(p.1, p.2)).Nodup ∧
      ∀ z, z ∈ pairs.map (fun p => s(p.1, p.2)) ↔ c.ClashingPair z
  number : (findings.countP fun p => p.2.isOfPair) = {z | c.ClashingPair z}.ncard
  errors : ∀ p ∈ findings, p.2.isOfPair = true → p.2.severity = .error
  /-- Where both sides are such associations, either of them shows whether the
  pair fits. -/
  symmetric : ∀ e a t b, c.OnlyOther e a t b → c.OnlyOther t b e a →
    (a.Clashes b ↔ b.Clashes a)

/-- For entities that were built, a review has one error for each pair that
does not fit together, and no other pair errors. -/
theorem pairErrorsOnce_assemble {entities : List Entity} (hbuilt : ∀ e ∈ entities, e.IsBuilt)
    (model : String) (policy : NamePolicy) (t : Embeddables) (oneSided : Bool) :
    (assemble model policy t entities).PairErrorsOnce
      ((assemble model policy t entities).review oneSided).findings := by
  have hc := allKeyed_assemble hbuilt model policy t
  generalize assemble model policy t entities = c at hc
  have hclosed := pairFindings_review c oneSided
  generalize hrun : Review.oncePerPair (c.whenDecided c.pair?) (c.whenDecided c.pairFinding?) []
    c.visits = run at hclosed
  have hkey := fun v q => c.pair?_of_whenDecided_pairFinding? (v := v) (q := q)
  have hnodup : (run.map fun q => s(q.1.1, q.1.2)).Nodup := by
    rw [← hrun]
    exact Review.nodup_oncePerPair hkey [] c.visits
  have hmem : ∀ z, z ∈ run.map (fun q => s(q.1.1, q.1.2)) ↔ c.ClashingPair z := by
    intro z
    rw [← hrun, Review.mem_pairs_oncePerPair_iff hkey (pairsAgree_pairFinding hc)]
    exact exists_pairFinding?_iff
  refine ⟨⟨run.map Prod.fst, ?_, ?_, ?_⟩, ?_, ?_, ?_⟩
  · rw [hclosed, List.map_map, List.map_map]
    rfl
  · rw [List.map_map]
    exact hnodup
  · intro z
    rw [List.map_map]
    exact hmem z
  · -- The pairs of the run are distinct, so they are as many as its results.
    have hset : {z | c.ClashingPair z} =
        ((run.map fun q => s(q.1.1, q.1.2)).toFinset : Set (Sym2 AttributeId)) := by
      rw [List.coe_toFinset]
      exact Set.ext fun z => (hmem z).symm
    rw [List.countP_eq_length_filter, hclosed, List.length_map, hset, Set.ncard_coe_finset,
      List.toFinset_card_of_nodup hnodup, List.length_map]
  · exact fun p _ => Finding.severity_of_isOfPair
  · intro e a t b ha hb
    exact Attribute.Clashes.comm ha.association hb.association

/-- People and addresses are each other's only other side, and neither is a
foreign key. People follow people and declare no junction. The owner of a
phone is mapped by a name. -/
def misfits : List Entity :=
  EntityDraft.buildAll
    [{ EntityDraft.ofType ⟨["Person"]⟩ with
        attributes := [.column "name" (.scalar .string),
          { Attribute.column "address" (.named ⟨["Address"]⟩) with cardinality := some .oneToOne },
          .manyToMany "follows" "Person" none,
          { Attribute.manyToMany "followers" "Person" none with mappedBy := some "follows" }] },
      { EntityDraft.ofType ⟨["Address"]⟩ with
        attributes := [{ Attribute.column "person" (.named ⟨["Person"]⟩) with
          cardinality := some .oneToOne }] },
      { EntityDraft.ofType ⟨["Phone"]⟩ with
        attributes := [{ Attribute.column "owner" (.named ⟨["Person"]⟩) with
          cardinality := some .manyToOne
          mappedBy := some "name" }] }]

/-- These are three pairs, and two of them are looked at from both sides. -/
theorem pairErrorsOnce_misfits :
    (assemble defaultModel .firstMatch .empty misfits).PairErrorsOnce
        ((assemble defaultModel .firstMatch .empty misfits).review true).findings ∧
      {z | (assemble defaultModel .firstMatch .empty misfits).ClashingPair z}.ncard = 3 := by
  have hbuilt : ∀ e ∈ misfits, e.IsBuilt := fun _ => EntityDraft.isBuilt_of_mem_buildAll
  have honce := pairErrorsOnce_assemble hbuilt defaultModel .firstMatch .empty true
  refine ⟨honce, honce.number.symm.trans ?_⟩
  decide +kernel

end Catalog

end SchemaLinker
