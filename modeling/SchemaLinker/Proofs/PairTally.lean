import Mathlib.Data.Finset.Card
import Mathlib.Data.Sym.Sym2
import SchemaLinker.Proofs.Review

/-!
# `SchemaLinker.Proofs.PairTally`: how much a review says, counted

Two things are done once for a pair of attributes: the pair rule is
applied, and a junction that neither side declares is asked for.
`Review.oncePerPair` are the results of a run of visits where each pair
gives its result once. Which visit comes first decides which side the
result is charged to. How many results there are does not depend on it:
one for each visit that looks at no pair, and one for each unordered pair
(`length_oncePerPair`). Where every result is about a pair, the pairs of the
results are distinct (`nodup_oncePerPair`) and are those of the visits that
have one (`mem_pairs_oncePerPair_iff`). This takes that the visits of one
pair agree on whether there is a result.

A review is put together from such runs. `requests_review` writes out its
requests, `warnings_review` its warnings, and `length_errors_review` says
how many errors it has.
-/

set_option autoImplicit false

namespace SchemaLinker

namespace Review

/-- A pair of two attributes, in whichever order, is one of the two
orders. -/
theorem exists_pair_iff {P : AttributeId × AttributeId → Prop} {x y : AttributeId} :
    (∃ p, P p ∧ s(p.1, p.2) = s(x, y)) ↔ P (x, y) ∨ P (y, x) := by
  constructor
  · rintro ⟨⟨u, w⟩, h, heq⟩
    rcases Sym2.eq_iff.1 heq with ⟨rfl, rfl⟩ | ⟨rfl, rfl⟩
    · exact Or.inl h
    · exact Or.inr h
  · rintro (h | h)
    · exact ⟨_, h, rfl⟩
    · exact ⟨_, h, Sym2.eq_swap⟩

/-- The pairs of a list without their order. -/
def pairSet (pairs : List (AttributeId × AttributeId)) : Finset (Sym2 AttributeId) :=
  (pairs.map fun p => s(p.1, p.2)).toFinset

/-- A set of pairs has them without their order. -/
theorem mem_pairSet_iff {pairs : List (AttributeId × AttributeId)} {z : Sym2 AttributeId} :
    z ∈ pairSet pairs ↔ ∃ p ∈ pairs, s(p.1, p.2) = z := by
  simp only [pairSet]
  rw [List.mem_toFinset, List.mem_map]

/-- A pair is held when it is in the list in one order or the other. -/
theorem holds_iff_mem_pairSet {pairs : List (AttributeId × AttributeId)} {x y : AttributeId} :
    holds pairs x y = true ↔ s(x, y) ∈ pairSet pairs := by
  rw [holds_iff, mem_pairSet_iff, exists_pair_iff]

/-- After a visit a pair is held when it was before, or when the visit looked
at it, in one order or the other. -/
theorem holds_remember_iff {pairs : List (AttributeId × AttributeId)}
    {p : Option (AttributeId × AttributeId)} {x y : AttributeId} :
    holds (remember pairs p) x y = true ↔
      holds pairs x y = true ∨ ∃ q, p = some q ∧ s(q.1, q.2) = s(x, y) := by
  rw [holds_remember, exists_pair_iff]

/-- Results of visits in order, where a visit gives none if its pair is
held or an earlier visit looked at it. -/
def oncePerPair {V β : Type} (pair? : V → Option (AttributeId × AttributeId))
    (result : V → Option β) : (held : List (AttributeId × AttributeId)) → List V → List β
  | _, [] => []
  | held, v :: rest =>
    (unlessHeld held (pair? v) (result v)).toList ++
      oncePerPair pair? result (remember held (pair? v)) rest

section Run

variable {V β : Type} {pair? : V → Option (AttributeId × AttributeId)} {result : V → Option β}

/-- What a run gives comes from one of its visits, at which the pair was not
held. -/
theorem mem_oncePerPair_iff {held : List (AttributeId × AttributeId)} {l : List V} {b : β} :
    b ∈ oncePerPair pair? result held l ↔
      ∃ before v after, l = before ++ v :: after ∧
        unlessHeld (heldAfter pair? held before) (pair? v) (result v) = some b := by
  induction l generalizing held with
  | nil => simp [oncePerPair]
  | cons u rest ih =>
    rw [oncePerPair, List.mem_append, Option.mem_toList, ih]
    constructor
    · rintro (hfirst | ⟨before, v, after, rfl, hv⟩)
      · exact ⟨[], u, rest, rfl, hfirst⟩
      · exact ⟨u :: before, v, after, rfl, hv⟩
    · rintro ⟨before, v, after, hsplit, hv⟩
      rcases List.cons_eq_append_iff.1 hsplit with ⟨rfl, hcons⟩ | ⟨before, rfl, hrest⟩
      · cases hcons
        exact Or.inl hv
      · exact Or.inr ⟨before, v, after, hrest, hv⟩

/-- Where a result is a value of its visit, the results come in the order of
the visits. -/
theorem oncePerPair_sublist {value : V → Option β}
    (h : ∀ v b, result v = some b → value v = some b)
    (held : List (AttributeId × AttributeId)) (l : List V) :
    (oncePerPair pair? result held l).Sublist (l.filterMap value) := by
  induction l generalizing held with
  | nil => exact List.Sublist.refl _
  | cons v rest ih =>
    have hcons : (v :: rest).filterMap value = (value v).toList ++ rest.filterMap value := by
      cases hv : value v <;> simp [hv]
    rw [oncePerPair, hcons]
    refine List.Sublist.append ?_ (ih _)
    cases hv : unlessHeld held (pair? v) (result v) with
    | none => exact List.nil_sublist _
    | some b => rw [h v b (unlessHeld_eq_some hv)]

end Run

section Count

variable {V β : Type} (pair? : V → Option (AttributeId × AttributeId)) (result : V → Option β)

/-- The pairs of the visits that have a result. -/
def fruitfulPairs (l : List V) : Finset (Sym2 AttributeId) :=
  pairSet (l.filterMap fun v => if (result v).isSome then pair? v else none)

/-- Visits of one pair have a result together. -/
def PairsAgree (l : List V) : Prop :=
  ∀ u ∈ l, ∀ v ∈ l, ∀ p q, pair? u = some p → pair? v = some q → s(p.1, p.2) = s(q.1, q.2) →
    ((result u).isSome = true ↔ (result v).isSome = true)

variable {pair? result}

/-- A visit without a pair adds none. -/
theorem fruitfulPairs_cons_of_none {v : V} (hp : pair? v = none) (rest : List V) :
    fruitfulPairs pair? result (v :: rest) = fruitfulPairs pair? result rest := by
  simp [fruitfulPairs, hp]

/-- A visit with a pair adds it if it has a result. -/
theorem fruitfulPairs_cons_of_some {v : V} {p : AttributeId × AttributeId} (hp : pair? v = some p)
    (rest : List V) :
    fruitfulPairs pair? result (v :: rest) =
      if (result v).isSome then insert s(p.1, p.2) (fruitfulPairs pair? result rest)
      else fruitfulPairs pair? result rest := by
  cases hr : result v <;> simp [fruitfulPairs, pairSet, hp, hr]

/-- Fewer visits agree all the more. -/
theorem PairsAgree.of_cons {v : V} {rest : List V} (h : PairsAgree pair? result (v :: rest)) :
    PairsAgree pair? result rest := fun u hu w hw =>
  h u (List.mem_cons_of_mem _ hu) w (List.mem_cons_of_mem _ hw)

/-- A pair that gave no result is none of the fruitful pairs behind it. -/
theorem PairsAgree.notMem_fruitfulPairs {v : V} {rest : List V}
    (h : PairsAgree pair? result (v :: rest)) {p : AttributeId × AttributeId}
    (hp : pair? v = some p) (hr : result v = none) :
    s(p.1, p.2) ∉ fruitfulPairs pair? result rest := by
  intro hmem
  obtain ⟨q, hq, heq⟩ := mem_pairSet_iff.1 hmem
  obtain ⟨w, hw, hpair⟩ := List.mem_filterMap.1 hq
  split at hpair
  · rename_i hsome
    have hv := (h w (List.mem_cons_of_mem _ hw) v List.mem_cons_self q p hpair hp heq).1 hsome
    rw [hr] at hv
    cases hv
  · cases hpair

/-- Where visits of one pair agree, there is one result for each visit
without a pair that has one, and one for each fruitful pair that is not
held. -/
theorem length_oncePerPair {l : List V} (h : PairsAgree pair? result l)
    (held : List (AttributeId × AttributeId)) :
    (oncePerPair pair? result held l).length =
      l.countP (fun v => (pair? v).isNone && (result v).isSome) +
        (fruitfulPairs pair? result l \ pairSet held).card := by
  induction l generalizing held with
  | nil => simp [oncePerPair, fruitfulPairs, pairSet]
  | cons v rest ih =>
    rw [oncePerPair, List.length_append, ih h.of_cons, List.countP_cons]
    cases hp : pair? v with
    | none =>
      -- Without a pair the visit is counted by itself.
      rw [fruitfulPairs_cons_of_none hp]
      cases result v with
      | none => simp [unlessHeld, remember]
      | some b =>
        simp [unlessHeld, remember]
        omega
    | some p =>
      rw [fruitfulPairs_cons_of_some hp]
      by_cases hheld : holds held p.1 p.2 = true
      · -- The pair is held, so it is counted neither way.
        have hmem : s(p.1, p.2) ∈ pairSet held := holds_iff_mem_pairSet.1 hheld
        cases result v <;> simp [unlessHeld, remember, hheld, Finset.insert_sdiff_of_mem, hmem]
      · have hnot : s(p.1, p.2) ∉ pairSet held := fun hmem =>
          hheld (holds_iff_mem_pairSet.2 hmem)
        have hnext : pairSet (remember held (some p)) = insert s(p.1, p.2) (pairSet held) := by
          simp [remember, hheld, pairSet]
        rw [hnext]
        cases hr : result v with
        | none =>
          rw [Finset.sdiff_insert_of_notMem (h.notMem_fruitfulPairs hp hr)]
          simp [unlessHeld]
        | some b =>
          -- A new fruitful pair is one more, and no later visit counts it again.
          have hone : (insert s(p.1, p.2) (fruitfulPairs pair? result rest) \ pairSet held).card =
              (fruitfulPairs pair? result rest \ insert s(p.1, p.2) (pairSet held)).card + 1 := by
            rw [Finset.insert_sdiff_of_notMem _ hnot, Finset.sdiff_insert,
              ← Finset.erase_insert_eq_erase,
              Finset.card_erase_add_one (Finset.mem_insert_self _ _)]
          simp [unlessHeld, hheld, hone]
          omega

/-- So their number is the same in every order of the visits. -/
theorem length_oncePerPair_of_perm {l m : List V} (hperm : l.Perm m)
    (h : PairsAgree pair? result l) :
    (oncePerPair pair? result [] l).length = (oncePerPair pair? result [] m).length := by
  have hm : PairsAgree pair? result m := fun u hu v hv =>
    h u (hperm.mem_iff.2 hu) v (hperm.mem_iff.2 hv)
  have hpairs : fruitfulPairs pair? result l = fruitfulPairs pair? result m :=
    List.toFinset_eq_of_perm _ _ ((hperm.filterMap _).map _)
  rw [length_oncePerPair h, length_oncePerPair hm, hperm.countP_eq, hpairs]

end Count

section Keyed

-- Every result is about the pair of its visit, its key.
variable {V β : Type} {pair? : V → Option (AttributeId × AttributeId)} {result : V → Option β}
  {key : β → AttributeId × AttributeId}

/-- What a run gives is the result of a visit whose pair was not held. -/
theorem not_holds_of_mem_oncePerPair (hkey : ∀ v b, result v = some b → pair? v = some (key b))
    {held : List (AttributeId × AttributeId)} {l : List V} {b : β}
    (hb : b ∈ oncePerPair pair? result held l) : ¬ holds held (key b).1 (key b).2 = true := by
  obtain ⟨before, v, after, -, hv⟩ := mem_oncePerPair_iff.1 hb
  have hpair := hkey v b (unlessHeld_eq_some hv)
  intro hheld
  -- A pair that is held stays so, and the visit would have given nothing.
  have hlater : holds (heldAfter pair? held before) (key b).1 (key b).2 = true :=
    holds_heldAfter.2 (Or.inl hheld)
  rw [hpair, unlessHeld, Option.any_some, if_pos hlater] at hv
  cases hv

/-- A run gives no two results for one pair. -/
theorem nodup_oncePerPair (hkey : ∀ v b, result v = some b → pair? v = some (key b))
    (held : List (AttributeId × AttributeId)) (l : List V) :
    ((oncePerPair pair? result held l).map fun b => s((key b).1, (key b).2)).Nodup := by
  induction l generalizing held with
  | nil => exact List.nodup_nil
  | cons v rest ih =>
    rw [oncePerPair, List.map_append]
    refine List.nodup_append.2 ⟨?_, ih _, ?_⟩
    · cases unlessHeld held (pair? v) (result v) with
      | none => exact List.nodup_nil
      | some b => exact List.nodup_singleton _
    · -- The pair of the first visit is held for all that follow.
      rintro x hx y hy rfl
      obtain ⟨b, hb, rfl⟩ := List.mem_map.1 hx
      obtain ⟨b', hb', hsame⟩ := List.mem_map.1 hy
      have hpair := hkey v b (unlessHeld_eq_some (Option.mem_toList.1 hb))
      exact not_holds_of_mem_oncePerPair hkey hb'
        (holds_remember_iff.2 (Or.inr ⟨key b, hpair, hsame.symm⟩))

/-- Where the visits of one pair agree, every result stands for a result of
the run about the same pair. -/
theorem exists_mem_oncePerPair (hkey : ∀ v b, result v = some b → pair? v = some (key b))
    {l : List V} (hagree : PairsAgree pair? result l) {held : List (AttributeId × AttributeId)}
    {v : V} (hv : v ∈ l) {b : β} (hb : result v = some b)
    (hfree : ¬ holds held (key b).1 (key b).2 = true) :
    ∃ b' ∈ oncePerPair pair? result held l,
      s((key b').1, (key b').2) = s((key b).1, (key b).2) := by
  induction l generalizing held with
  | nil => cases hv
  | cons u rest ih =>
    rw [oncePerPair]
    by_cases hnext : holds (remember held (pair? u)) (key b).1 (key b).2 = true
    · -- The first visit looks at the pair, so it has a result, too.
      obtain ⟨p, hp, hsame⟩ := (holds_remember_iff.1 hnext).resolve_left hfree
      have hsome : (result u).isSome = true :=
        (hagree u List.mem_cons_self v hv p (key b) hp (hkey v b hb) hsame).2 (by rw [hb]; rfl)
      obtain ⟨b', hb'⟩ := Option.isSome_iff_exists.1 hsome
      have hkeyed : key b' = p := Option.some.inj ((hkey u b' hb').symm.trans hp)
      refine ⟨b', List.mem_append_left _ (Option.mem_toList.2 ?_), hkeyed ▸ hsame⟩
      have hopen : ¬ holds held p.1 p.2 = true := by
        rw [holds_iff_mem_pairSet] at hfree ⊢
        rw [hsame]
        exact hfree
      rw [hp, unlessHeld, Option.any_some, if_neg hopen, hb']
    · have hrest : v ∈ rest := by
        refine (List.mem_cons.1 hv).resolve_left ?_
        rintro rfl
        exact hnext (holds_remember_iff.2 (Or.inr ⟨key b, hkey v b hb, rfl⟩))
      obtain ⟨b', hb', hsame⟩ := ih hagree.of_cons hrest hnext
      exact ⟨b', List.mem_append_right _ hb', hsame⟩

/-- The pairs of a run are those of the visits that have a result. -/
theorem mem_pairs_oncePerPair_iff (hkey : ∀ v b, result v = some b → pair? v = some (key b))
    {l : List V} (hagree : PairsAgree pair? result l) {z : Sym2 AttributeId} :
    z ∈ (oncePerPair pair? result [] l).map (fun b => s((key b).1, (key b).2)) ↔
      ∃ v ∈ l, ∃ b, result v = some b ∧ s((key b).1, (key b).2) = z := by
  rw [List.mem_map]
  constructor
  · rintro ⟨b, hb, hz⟩
    obtain ⟨before, v, after, rfl, hv⟩ := mem_oncePerPair_iff.1 hb
    exact ⟨v, by simp, b, unlessHeld_eq_some hv, hz⟩
  · rintro ⟨v, hv, b, hb, rfl⟩
    exact exists_mem_oncePerPair hkey hagree hv hb (by simp [holds])

end Keyed

end Review

namespace Catalog

/-- What a visit gives, unless the policy leaves its target open. -/
def whenDecided {α : Type} (c : Catalog) (x : Entity × Attribute → Option α)
    (v : Entity × Attribute) : Option α :=
  if c.undecided v.2 then none else x v

/-- The error that the relationship rules find. -/
def relationshipError (c : Catalog) (v : Entity × Attribute) : Option Finding :=
  (c.relationshipFinding v).filter fun f => f.severity == .error

/-- Whether the foreign key rule finds an error about an attribute whose
target is not left open. -/
def breaksForeignKey (c : Catalog) (v : Entity × Attribute) : Bool :=
  !c.undecided v.2 && (c.foreignKeyFinding v).any fun f => f.severity == .error

variable {c : Catalog}

/-- A visit gives something if its target is not left open and there is something. -/
theorem isSome_whenDecided_iff {α : Type} {x : Entity × Attribute → Option α}
    {v : Entity × Attribute} :
    (c.whenDecided x v).isSome = true ↔ c.undecided v.2 = false ∧ (x v).isSome = true := by
  simp only [whenDecided]
  cases c.undecided v.2 <;> simp

/-- It gives what there is. -/
theorem whenDecided_eq_some_iff {α : Type} {x : Entity × Attribute → Option α}
    {v : Entity × Attribute} {a : α} :
    c.whenDecided x v = some a ↔ c.undecided v.2 = false ∧ x v = some a := by
  simp only [whenDecided]
  cases c.undecided v.2 <;> simp

/-- A visit whose pair neither side declares has a wish. -/
theorem isSome_wish?_of_sharedPair? {oneSided : Bool} {v : Entity × Attribute}
    {p : AttributeId × AttributeId} (h : c.sharedPair? v = some p) :
    (c.wish? oneSided v).isSome = true := by
  simp only [sharedPair?] at h
  simp only [wish?]
  split at h
  · rename_i t hk ht
    split at h
    · rename_i b hi
      split at h
      · cases h
      · rename_i hnone
        rw [Bool.or_eq_true, not_or] at hnone
        simp [hi, hnone.2]
    · cases h
  · cases h

/-- Visits of one undeclared pair have a wish together. -/
theorem pairsAgree_wish (c : Catalog) (oneSided : Bool) (l : List (Entity × Attribute)) :
    Review.PairsAgree (c.whenDecided c.sharedPair?) (c.whenDecided (c.wish? oneSided)) l := by
  intro u _ v _ p q hp hq _
  obtain ⟨hu, hp⟩ := whenDecided_eq_some_iff.1 hp
  obtain ⟨hv, hq⟩ := whenDecided_eq_some_iff.1 hq
  rw [isSome_whenDecided_iff, isSome_whenDecided_iff]
  exact iff_of_true ⟨hu, isSome_wish?_of_sharedPair? hp⟩ ⟨hv, isSome_wish?_of_sharedPair? hq⟩

/-- Visits of one pair find an error together. -/
theorem pairsAgree_relationshipError (hc : c.AllKeyed) :
    Review.PairsAgree (c.whenDecided c.pair?) (c.whenDecided c.relationshipError) c.visits := by
  -- The statement is symmetric, so one direction is enough.
  have himp : ∀ u ∈ c.visits, ∀ v ∈ c.visits, ∀ p q, c.whenDecided c.pair? u = some p →
      c.whenDecided c.pair? v = some q → s(p.1, p.2) = s(q.1, q.2) →
      (c.whenDecided c.relationshipError v).isSome = true →
      (c.whenDecided c.relationshipError u).isSome = true := by
    intro u hu v hv p q hp hq heq hsome
    obtain ⟨hdecided, hp⟩ := whenDecided_eq_some_iff.1 hp
    obtain ⟨-, hq⟩ := whenDecided_eq_some_iff.1 hq
    obtain ⟨-, hsome⟩ := isSome_whenDecided_iff.1 hsome
    obtain ⟨f, hf⟩ := Option.isSome_iff_exists.1 hsome
    have hpair : c.pair? u = some (q.1, q.2) ∨ c.pair? u = some (q.2, q.1) :=
      Review.exists_pair_iff (P := fun x => c.pair? u = some x).1 ⟨p, hp, heq⟩
    obtain ⟨g, hg, herror⟩ := relationshipFinding_of_swap hc hu hv hq hpair
      (Option.filter_eq_some_iff.1 hf).1
    refine isSome_whenDecided_iff.2 ⟨hdecided, ?_⟩
    simp [relationshipError, hg, herror]
  intro u hu v hv p q hp hq heq
  exact ⟨himp v hv u hu q p hq hp heq.symm, himp u hu v hv p q hp hq heq⟩

end Catalog

namespace Review

variable (c : Catalog) (oneSided : Bool)

/-- Visits request what the first of each shared pair wants. -/
theorem requests_foldl (visits : List (Entity × Attribute)) (r : Review) :
    (visits.foldl (visit c oneSided) r).requests =
      r.requests ++ oncePerPair (c.whenDecided c.sharedPair?)
        (c.whenDecided (c.wish? oneSided)) r.requested visits := by
  induction visits generalizing r with
  | nil => simp [oncePerPair]
  | cons v rest ih =>
    rw [List.foldl_cons, ih, visit_eq, oncePerPair, ← List.append_assoc]
    simp only [Catalog.whenDecided]
    cases c.undecided v.2 <;> simp [unlessHeld]

/-- What a visit says has an error for an open name, one for a foreign key
that leads nowhere, and the one of its pair unless that is held. -/
theorem countP_said (checked : List (AttributeId × AttributeId)) (v : Entity × Attribute) :
    (c.said checked v).countP (fun f => f.severity == .error) =
      (if c.undecided v.2 then 1 else 0) + (if c.breaksForeignKey v then 1 else 0) +
        (unlessHeld checked (c.whenDecided c.pair? v)
          (c.whenDecided c.relationshipError v)).toList.length := by
  -- A rule finds one thing at most.
  have hone : ∀ x : Option Finding, x.toList.countP (fun f => f.severity == .error) =
      if x.any fun f => f.severity == .error then 1 else 0 := by
    intro x
    cases x <;> simp
  have hpair : (unlessHeld checked (c.pair? v) (c.relationshipFinding v)).toList.countP
        (fun f => f.severity == .error) =
      (unlessHeld checked (c.pair? v) (c.relationshipError v)).toList.length := by
    simp only [unlessHeld, Catalog.relationshipError]
    split
    · rfl
    · cases c.relationshipFinding v with
      | none => rfl
      | some f => cases h : f.severity <;> simp [Option.filter, h]
  simp only [Catalog.said]
  rw [List.countP_append, hone]
  change (if c.undecided v.2 then 1 else 0) + _ = _
  cases h : c.undecided v.2 with
  | true => simp [Catalog.breaksForeignKey, Catalog.whenDecided, unlessHeld, h]
  | false =>
    simp only [Bool.false_eq_true, if_false]
    rw [List.countP_append, hpair, hone]
    simp [Catalog.breaksForeignKey, Catalog.whenDecided, h]
    omega

/-- The errors after some visits: those before, one for every open name,
one for every foreign key that leads nowhere, and those of the pairs and
the unpaired associations and columns. -/
theorem countP_findings_foldl (visits : List (Entity × Attribute)) (r : Review) :
    (visits.foldl (visit c oneSided) r).findings.countP (fun p => p.2.severity == .error) =
      r.findings.countP (fun p => p.2.severity == .error) +
        visits.countP (fun v => c.undecided v.2) + visits.countP c.breaksForeignKey +
        (oncePerPair (c.whenDecided c.pair?) (c.whenDecided c.relationshipError) r.checked
          visits).length := by
  induction visits generalizing r with
  | nil => simp [oncePerPair]
  | cons v rest ih =>
    have hsaid : ((c.said r.checked v).map fun f => (v.1.idOf v.2, f)).countP
        (fun p => p.2.severity == .error) = _ := List.countP_map.trans (countP_said c r.checked v)
    rw [List.foldl_cons, ih, visit_eq, oncePerPair]
    dsimp only
    rw [List.countP_append, hsaid, List.countP_cons, List.countP_cons, List.length_append]
    simp only [Catalog.whenDecided]
    omega

end Review

namespace Catalog

variable (c : Catalog) (oneSided : Bool)

/-- The requests of a review are the wishes of the decided visits, one for
each pair that neither side declares. -/
theorem requests_review :
    (c.review oneSided).requests =
      Review.oncePerPair (c.whenDecided c.sharedPair?) (c.whenDecided (c.wish? oneSided)) []
        c.visits :=
  Review.requests_foldl c oneSided c.visits .start

/-- The number of errors of a review. -/
theorem length_errors_review :
    (c.review oneSided).diagnostics.errors.length =
      c.visits.countP (fun v => c.undecided v.2) + c.visits.countP c.breaksForeignKey +
        (Review.oncePerPair (c.whenDecided c.pair?) (c.whenDecided c.relationshipError) []
          c.visits).length := by
  have herrors : (c.review oneSided).diagnostics.errors.length =
      (c.review oneSided).findings.countP fun p => p.2.severity == .error := by
    simp only [Diagnostics.errors, Review.diagnostics]
    rw [← List.countP_eq_length_filter, List.countP_map]
    rfl
  rw [herrors, review, Review.countP_findings_foldl]
  simp [Review.start]

/-- What a visit finds about its pair is an error. -/
theorem severity_of_pair? {v : Entity × Attribute} {p : AttributeId × AttributeId} {f : Finding}
    (hp : c.pair? v = some p) (hf : c.relationshipFinding v = some f) : f.severity = .error := by
  obtain ⟨k, t, b, hk, ht, hi, -⟩ := pair?_eq_some_iff.1 hp
  rw [relationshipFinding_of_inverses hk ht hi] at hf
  exact Finding.severity_of_ofPair hf

/-- Pairs that have had their finding take no warning away. -/
theorem filter_warning_said (checked : List (AttributeId × AttributeId))
    (v : Entity × Attribute) :
    (c.said checked v).filter (fun f => f.severity == .warning) =
      (c.said [] v).filter fun f => f.severity == .warning := by
  have hpair : (Review.unlessHeld checked (c.pair? v) (c.relationshipFinding v)).toList.filter
        (fun f => f.severity == .warning) =
      (c.relationshipFinding v).toList.filter fun f => f.severity == .warning := by
    simp only [Review.unlessHeld]
    split
    · rename_i hheld
      obtain ⟨p, hp, -⟩ := Option.any_eq_true _ _ |>.1 hheld
      cases hf : c.relationshipFinding v with
      | none => rfl
      | some f => simp [c.severity_of_pair? hp hf]
    · rfl
  simp only [said]
  cases c.undecided v.2 with
  | true => rfl
  | false =>
    simp only [Bool.false_eq_true, if_false]
    rw [Review.unlessHeld_nil]
    simp only [List.filter_append]
    rw [hpair]

/-- The warnings of a review are those of its visits, one after the
other. -/
theorem warnings_review :
    (c.review oneSided).diagnostics.warnings =
      c.visits.flatMap fun v => ((c.said [] v).filter fun f => f.severity == .warning).map
        fun f => f.diagnostic (v.1.idOf v.2) := by
  have hfold : ∀ (visits : List (Entity × Attribute)) (r : Review),
      (visits.foldl (Review.visit c oneSided) r).diagnostics.warnings =
        r.diagnostics.warnings ++ visits.flatMap fun v =>
          ((c.said [] v).filter fun f => f.severity == .warning).map
            fun f => f.diagnostic (v.1.idOf v.2) := by
    intro visits
    induction visits with
    | nil => exact fun r => (List.append_nil _).symm
    | cons v rest ih =>
      intro r
      have hsaid : ((c.said r.checked v).map fun f => f.diagnostic (v.1.idOf v.2)).filter
            (fun d => d.isWarning) =
          ((c.said [] v).filter fun f => f.severity == .warning).map
            fun f => f.diagnostic (v.1.idOf v.2) := by
        rw [← filter_warning_said c r.checked v, List.filter_map]
        rfl
      rw [List.foldl_cons, ih, List.flatMap_cons, ← List.append_assoc, Review.visit_eq, ← hsaid]
      simp only [Review.diagnostics, Diagnostics.warnings]
      rw [List.map_append, List.filter_append, List.map_map]
      rfl
  exact hfold c.visits .start

end Catalog

end SchemaLinker
