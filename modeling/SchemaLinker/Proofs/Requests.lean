import SchemaLinker.Proofs.Assembly
import SchemaLinker.Proofs.History
import SchemaLinker.Proofs.PairTally

/-!
# `SchemaLinker.Proofs.Requests`: which junctions a review asks for

`WantsJunction` lists the three reasons for asking for the junction of a
many-to-many association: it declares the junction and its other side does
not, it has no other side and one-sided associations get a junction, or
neither side declares one and the other side has not asked.

`exactRequests_assemble` says that a review asks for no junction without
one of these reasons, and for every junction with one, once and in the order
of its visits. That the other side has not asked is a fact about the review
itself: the pair is held when an earlier visit looked at it, and that visit
is the other side's (`holds_heldAfter_iff`).
-/

set_option autoImplicit false

namespace SchemaLinker

namespace Catalog

/-- The request that a visit makes, if it makes one. -/
def request? (c : Catalog) (v : Entity × Attribute) : Option JunctionRequest :=
  (c.target? v.2).map fun t => ⟨v.1.ty, t.ty, v.2.name⟩

/-- The association `b` of `t`, visited before, has asked for the junction
that it shares with the association `a` of `e`, its only other side. -/
structure AskedBefore (c : Catalog) (before : List (Entity × Attribute))
    (requests : List JunctionRequest) (t : Entity) (b : Attribute) (e : Entity) (a : Attribute) :
    Prop where
  visited : (t, b) ∈ before
  asked : ⟨t.ty, e.ty, b.name⟩ ∈ requests
  pair : c.inverses t b e = [a]

/-- The reasons for asking for the junction of the association `a` of `e`
with the target `t` when the visits in `before` have been made. -/
inductive WantsJunction (c : Catalog) (oneSided : Bool) (before : List (Entity × Attribute))
    (requests : List JunctionRequest) (e : Entity) (a : Attribute) (t : Entity) : Prop
  /-- The association declares the junction, and there is at most one other
  side, which does not. -/
  | declares (hdeclared : a.junction.isSome) (hone : (c.inverses e a t).length ≤ 1)
      (hother : ∀ b ∈ c.inverses e a t, b.junction = none)
  /-- There is no declaration and no other side, and one-sided associations
  get a junction. -/
  | alone (hundeclared : a.junction = none) (hnone : c.inverses e a t = [])
      (honeSided : oneSided = true)
  /-- Neither side declares the junction, and the other has not asked. -/
  | first (b : Attribute) (hundeclared : a.junction = none)
      (hone : c.inverses e a t = [b]) (hother : b.junction = none)
      (hfirst : ¬ c.AskedBefore before requests t b e a)

/-- The requests are exactly those for which there is a reason. -/
structure ExactRequests (c : Catalog) (oneSided : Bool) (requests : List JunctionRequest) :
    Prop where
  /-- They come in the order of the visits. -/
  order : requests.Sublist (c.visits.filterMap c.request?)
  distinct : requests.Nodup
  /-- A visit asks exactly if the policy does not leave its target open, it
  is many-to-many, and there is a reason. -/
  asked : ∀ before e a after t, c.visits = before ++ (e, a) :: after → c.target? a = some t →
    (⟨e.ty, t.ty, a.name⟩ ∈ requests ↔
      ¬(c.policy = .strict ∧ c.ambiguousTargets a ≠ []) ∧
      a.cardinality = some .manyToMany ∧ c.WantsJunction oneSided before requests e a t)
  /-- Of two associations that are each other's only other side at most one
  asks. -/
  once : ∀ e a t b, (e, a) ∈ c.visits → (t, b) ∈ c.visits → c.target? a = some t →
    c.target? b = some e → c.inverses e a t = [b] → c.inverses t b e = [a] →
    ¬(⟨e.ty, t.ty, a.name⟩ ∈ requests ∧ ⟨t.ty, e.ty, b.name⟩ ∈ requests)
  /-- Synthesis finds what a request names. -/
  found : ∀ q ∈ requests, ∃ e t a, c.requested q = .ok (e, t, a)

section Review

variable {c : Catalog} {oneSided : Bool}

/-- A visit looks at a shared pair when it is many-to-many and neither side
declares the junction. -/
theorem sharedPair?_eq_some_iff {v : Entity × Attribute} {p : AttributeId × AttributeId} :
    c.sharedPair? v = some p ↔
      ∃ t b, v.2.cardinality = some .manyToMany ∧ c.target? v.2 = some t ∧
        c.inverses v.1 v.2 t = [b] ∧ v.2.junction = none ∧ b.junction = none ∧
        p = (v.1.idOf v.2, t.idOf b) := by
  simp only [sharedPair?]
  constructor
  · intro h
    split at h
    · rename_i t hk ht
      split at h
      · rename_i b hi
        split at h
        · cases h
        · rename_i hnone
          cases h
          rw [Bool.or_eq_true, not_or, Option.not_isSome_iff_eq_none,
            Option.not_isSome_iff_eq_none] at hnone
          exact ⟨t, b, hk, ht, hi, hnone.1, hnone.2, rfl⟩
      · cases h
    · cases h
  · rintro ⟨t, b, hk, ht, hi, ha, hb, rfl⟩
    simp [hk, ht, hi, ha, hb]

/-- What a visit wishes for is the request that it can make. -/
theorem request?_of_wish? {v : Entity × Attribute} {q : JunctionRequest}
    (h : c.whenDecided (c.wish? oneSided) v = some q) : c.request? v = some q := by
  obtain ⟨t, -, ht, rfl, -⟩ := wish?_eq_some (whenDecided_eq_some_iff.1 h).2
  simp [request?, ht]

/-- A request names its visit. -/
theorem idOf_of_request? {v : Entity × Attribute} {q : JunctionRequest}
    (h : c.request? v = some q) : v.1.idOf v.2 = ⟨q.source, q.name⟩ := by
  obtain ⟨t, -, rfl⟩ := Option.map_eq_some_iff.1 h
  rfl

/-- No two visits can make one request. -/
theorem nodup_request? (hc : c.AllKeyed) : (c.visits.filterMap c.request?).Nodup := by
  have hids := nodup_ids hc
  simp only [List.Nodup] at hids ⊢
  rw [List.pairwise_map] at hids
  rw [List.pairwise_filterMap]
  refine hids.imp fun hne q hq q' hq' hsame => hne ?_
  rw [idOf_of_request? hq, idOf_of_request? hq', hsame]

/-- No visit stands among those before it or after it. -/
theorem notMem_of_split (hc : c.AllKeyed) {before after : List (Entity × Attribute)}
    {v : Entity × Attribute} (hsplit : c.visits = before ++ v :: after) :
    v ∉ before ∧ v ∉ after := by
  have hnodup : c.visits.Nodup := (nodup_ids hc).of_map _
  rw [hsplit, List.nodup_middle, List.nodup_cons, List.mem_append, not_or] at hnodup
  exact hnodup.1

/-- The request of a visit is made at this visit or not at all. -/
theorem mem_requests_iff_of_split (hc : c.AllKeyed) {before after : List (Entity × Attribute)}
    {v : Entity × Attribute} (hsplit : c.visits = before ++ v :: after) {q : JunctionRequest}
    (hq : c.request? v = some q) :
    q ∈ (c.review oneSided).requests ↔
      Review.unlessHeld (Review.heldAfter (c.whenDecided c.sharedPair?) [] before)
        (c.whenDecided c.sharedPair? v) (c.whenDecided (c.wish? oneSided) v) = some q := by
  rw [requests_review, Review.mem_oncePerPair_iff]
  constructor
  · rintro ⟨before', u, after', hsplit', hu⟩
    have hv : v ∈ c.visits := by simp [hsplit]
    have hu' : u ∈ c.visits := by simp [hsplit']
    have hsame : u = v := by
      refine eq_of_idOf_eq hc hu' hv ?_
      rw [idOf_of_request? hq, idOf_of_request? (request?_of_wish? (Review.unlessHeld_eq_some hu))]
    subst hsame
    -- The visit stands in one place only, so the visits before it are the same.
    obtain ⟨hbefore, hafter⟩ := notMem_of_split hc hsplit'
    rw [← ((List.append_cons_inj_of_notMem hbefore hafter).1 (hsplit'.symm.trans hsplit)).1]
    exact hu
  · exact fun h => ⟨before, v, after, hsplit, h⟩

/-- Of the visits of the pair that two associations are, the one that is not
the first association's is the second's. -/
theorem eq_of_sharedPair? (hc : c.AllKeyed) {u : Entity × Attribute} {e t : Entity}
    {a b : Attribute} (hu : u ∈ c.visits) (ha : (e, a) ∈ c.visits) (hb : (t, b) ∈ c.visits)
    (hne : u ≠ (e, a))
    (hpair : c.whenDecided c.sharedPair? u = some (e.idOf a, t.idOf b) ∨
      c.whenDecided c.sharedPair? u = some (t.idOf b, e.idOf a)) :
    u = (t, b) ∧ c.whenDecided c.sharedPair? (t, b) = some (t.idOf b, e.idOf a) := by
  -- A visit is on the left of its pair.
  have hleft : ∀ p, c.whenDecided c.sharedPair? u = some p → p.1 = u.1.idOf u.2 := by
    intro p hp
    obtain ⟨_, _, _, _, _, _, _, rfl⟩ :=
      sharedPair?_eq_some_iff.1 (whenDecided_eq_some_iff.1 hp).2
    rfl
  rcases hpair with hpair | hpair
  · exact absurd (eq_of_idOf_eq hc hu ha (hleft _ hpair).symm) hne
  · have hub : u = (t, b) := eq_of_idOf_eq hc hu hb (hleft _ hpair).symm
    rw [hub] at hpair
    exact ⟨hub, hpair⟩

/-- The pair of two associations that declare no junction is held at the
visit of the first exactly if the second has asked. -/
theorem holds_heldAfter_iff (hc : c.AllKeyed) {before after : List (Entity × Attribute)}
    {e t : Entity} {a b : Attribute} (hsplit : c.visits = before ++ (e, a) :: after)
    (hb : (t, b) ∈ c.visits) (hdeclared : a.junction = none) (hother : b.junction = none) :
    Review.holds (Review.heldAfter (c.whenDecided c.sharedPair?) [] before) (e.idOf a)
        (t.idOf b) = true ↔
      c.AskedBefore before (c.review oneSided).requests t b e a := by
  have ha : (e, a) ∈ c.visits := by simp [hsplit]
  have hbefore : ∀ u ∈ before, u ∈ c.visits := fun u hu => by simp [hsplit, hu]
  have hnot : ∀ u ∈ before, u ≠ (e, a) := fun u hu h =>
    (notMem_of_split hc hsplit).1 (h ▸ hu)
  rw [Review.holds_heldAfter, or_iff_right (by simp [Review.holds])]
  constructor
  · rintro ⟨u, hu, hpair⟩
    obtain ⟨rfl, hown⟩ := eq_of_sharedPair? hc (hbefore u hu) ha hb (hnot u hu) hpair
    obtain ⟨hdecided, hshared⟩ := whenDecided_eq_some_iff.1 hown
    obtain ⟨t', b', hk, ht, hi, -, -, hids⟩ := sharedPair?_eq_some_iff.1 hshared
    have hback : (e, a) = (t', b') :=
      eq_of_idOf_eq hc ha (mem_visits_of_inverses ht hi) (Prod.mk.inj hids).2
    obtain ⟨rfl, rfl⟩ := Prod.mk.inj hback
    refine ⟨hu, ?_, hi⟩
    -- The other side has asked, for nobody looked at the pair before it.
    obtain ⟨earlier, later, rfl⟩ := List.append_of_mem hu
    rw [List.append_assoc, List.cons_append] at hsplit
    have hfree : ¬ Review.holds (Review.heldAfter (c.whenDecided c.sharedPair?) [] earlier)
        (t.idOf b) (e.idOf a) = true := by
      rw [Review.holds_heldAfter, or_iff_right (by simp [Review.holds])]
      rintro ⟨w, hw, hpair⟩
      have hmem : w ∈ earlier ++ (t, b) :: later := List.mem_append_left _ hw
      obtain ⟨rfl, -⟩ := eq_of_sharedPair? hc (hbefore w hmem) ha hb (hnot w hmem) hpair.symm
      exact (notMem_of_split hc hsplit).1 hw
    have hwish : c.whenDecided (c.wish? oneSided) (t, b) = some ⟨t.ty, e.ty, b.name⟩ := by
      refine whenDecided_eq_some_iff.2 ⟨hdecided, ?_⟩
      simp only [wish?]
      rw [hk, ht]
      simp [hi, hdeclared]
    refine (mem_requests_iff_of_split hc hsplit (request?_of_wish? hwish)).2 ?_
    simp only [Review.unlessHeld]
    rw [hown, Option.any_some, if_neg hfree, hwish]
  · intro h
    obtain ⟨u, hu, hdecided, hwish⟩ := mem_requests h.asked
    obtain ⟨t', hk, ht, hq, -⟩ := wish?_eq_some hwish
    obtain ⟨hty, htarget, hname⟩ := JunctionRequest.mk.inj hq
    have hub : u = (t, b) := by
      refine eq_of_idOf_eq hc hu hb ?_
      simp only [Entity.idOf]
      rw [hty, hname]
    subst hub
    have hback : t' = e :=
      eq_of_mem_of_ty_eq (mem_of_target? ht) (mem_visits.1 ha).1 htarget.symm
    rw [hback] at ht
    refine ⟨(t, b), h.visited, Or.inr (whenDecided_eq_some_iff.2 ⟨hdecided, ?_⟩)⟩
    exact sharedPair?_eq_some_iff.2 ⟨e, a, hk, ht, h.pair, hother, hdeclared, rfl⟩

/-- A visit has a wish if it is many-to-many and its sides allow one. -/
theorem wish?_of_sides {e t : Entity} {a : Attribute} (hk : a.cardinality = some .manyToMany)
    (ht : c.target? a = some t)
    (hsides : c.inverses e a t = [] ∧ (a.junction.isSome ∨ oneSided) ∨
      ∃ b, c.inverses e a t = [b] ∧ b.junction = none) :
    c.wish? oneSided (e, a) = some ⟨e.ty, t.ty, a.name⟩ := by
  simp only [wish?]
  rw [hk, ht]
  rcases hsides with ⟨hnone, hwanted⟩ | ⟨b, hone, hother⟩
  · simp only [hnone]
    rw [if_pos ((Bool.or_eq_true _ _).mpr hwanted)]
  · simp [hone, hother]

/-- The reasons, put together: the sides allow a junction, and a pair that
does not declare it has not asked for it. -/
theorem wantsJunction_iff {before : List (Entity × Attribute)} {requests : List JunctionRequest}
    {e t : Entity} {a : Attribute} :
    c.WantsJunction oneSided before requests e a t ↔
      (c.inverses e a t = [] ∧ (a.junction.isSome ∨ oneSided) ∨
        ∃ b, c.inverses e a t = [b] ∧ b.junction = none) ∧
      ∀ b, c.inverses e a t = [b] → a.junction = none → b.junction = none →
        ¬ c.AskedBefore before requests t b e a := by
  constructor
  · rintro (⟨hdeclared, hlength, hother⟩ | ⟨hdeclared, hnone, hsetting⟩ |
      ⟨b, hdeclared, hone, hother, hfirst⟩)
    · refine ⟨?_, fun b _ hundeclared => ?_⟩
      · cases hi : c.inverses e a t with
        | nil => exact Or.inl ⟨rfl, Or.inl hdeclared⟩
        | cons b others =>
          -- There is one other side at most, and it declares nothing.
          rw [hi, List.length_cons] at hlength
          have hothers : others = [] := List.length_eq_zero_iff.1 (by omega)
          rw [hothers]
          exact Or.inr ⟨b, rfl, hother b (by simp [hi])⟩
      · rw [hundeclared] at hdeclared
        cases hdeclared
    · refine ⟨Or.inl ⟨hnone, Or.inr hsetting⟩, fun b hone => ?_⟩
      rw [hnone] at hone
      cases hone
    · refine ⟨Or.inr ⟨b, hone, hother⟩, fun b' hone' _ _ => ?_⟩
      cases hone.symm.trans hone'
      exact hfirst
  · -- Whether the association itself declares the junction decides which case it is.
    rintro ⟨hsides, hfirst⟩
    cases hdeclared : a.junction with
    | some j =>
      rcases hsides with ⟨hnone, -⟩ | ⟨b, hone, hother⟩
      · exact .declares (by simp [hdeclared]) (by simp [hnone]) (by simp [hnone])
      · exact .declares (by simp [hdeclared]) (by simp [hone]) (by simp [hone, hother])
    | none =>
      rcases hsides with ⟨hnone, hwanted⟩ | ⟨b, hone, hother⟩
      · refine .alone hdeclared hnone (hwanted.resolve_left fun hsome => ?_)
        rw [hdeclared] at hsome
        cases hsome
      · exact .first b hdeclared hone hother (hfirst b hone hdeclared hother)

/-- A visit asks exactly if its target is decided, it is many-to-many and
there is a reason. -/
theorem mem_requests_iff (hc : c.AllKeyed) {before after : List (Entity × Attribute)}
    {e t : Entity} {a : Attribute} (hsplit : c.visits = before ++ (e, a) :: after)
    (ht : c.target? a = some t) :
    ⟨e.ty, t.ty, a.name⟩ ∈ (c.review oneSided).requests ↔
      ¬(c.policy = .strict ∧ c.ambiguousTargets a ≠ []) ∧
      a.cardinality = some .manyToMany ∧
      c.WantsJunction oneSided before (c.review oneSided).requests e a t := by
  have hq : c.request? (e, a) = some ⟨e.ty, t.ty, a.name⟩ := by simp [request?, ht]
  rw [mem_requests_iff_of_split hc hsplit hq, ← undecided_iff, Bool.not_eq_true,
    wantsJunction_iff]
  constructor
  · intro h
    obtain ⟨hdecided, hwish⟩ := whenDecided_eq_some_iff.1 (Review.unlessHeld_eq_some h)
    obtain ⟨t', hk, ht', -, hsides⟩ := wish?_eq_some hwish
    cases ht.symm.trans ht'
    refine ⟨hdecided, hk, hsides, fun b hone hdeclared hother hasked => ?_⟩
    -- A pair that has asked is held, and then the visit does not ask.
    have hheld := (holds_heldAfter_iff hc hsplit (mem_visits_of_inverses ht hone) hdeclared
      hother).2 hasked
    have hpair : c.whenDecided c.sharedPair? (e, a) = some (e.idOf a, t.idOf b) :=
      whenDecided_eq_some_iff.2 ⟨hdecided,
        sharedPair?_eq_some_iff.2 ⟨t, b, hk, ht, hone, hdeclared, hother, rfl⟩⟩
    rw [hpair, Review.unlessHeld, Option.any_some, if_pos hheld] at h
    cases h
  · rintro ⟨hdecided, hk, hsides, hfirst⟩
    have hwish : c.whenDecided (c.wish? oneSided) (e, a) = some ⟨e.ty, t.ty, a.name⟩ :=
      whenDecided_eq_some_iff.2 ⟨hdecided, wish?_of_sides hk ht hsides⟩
    simp only [Review.unlessHeld]
    rw [hwish, if_neg]
    intro hheld
    obtain ⟨p, hpair, hheld⟩ := (Option.any_eq_true _ _).1 hheld
    obtain ⟨t', b, -, ht', hone, hdeclared, hother, rfl⟩ :=
      sharedPair?_eq_some_iff.1 (whenDecided_eq_some_iff.1 hpair).2
    cases ht.symm.trans ht'
    exact hfirst b hone hdeclared hother ((holds_heldAfter_iff hc hsplit
      (mem_visits_of_inverses ht hone) hdeclared hother).1 hheld)

/-- Where two associations are each other's only other side, the one that is
visited later does not ask if the earlier has. -/
theorem not_both_of_split (hc : c.AllKeyed) {before after : List (Entity × Attribute)}
    {e t : Entity} {a b : Attribute} (hsplit : c.visits = before ++ (e, a) :: after)
    (hbefore : (t, b) ∈ before) (ht : c.target? a = some t) (he : c.target? b = some e)
    (hone : c.inverses e a t = [b]) (hback : c.inverses t b e = [a])
    (hasks : ⟨e.ty, t.ty, a.name⟩ ∈ (c.review oneSided).requests)
    (hasked : ⟨t.ty, e.ty, b.name⟩ ∈ (c.review oneSided).requests) : False := by
  obtain ⟨earlier, later, hsplit'⟩ : ∃ earlier later, c.visits = earlier ++ (t, b) :: later := by
    obtain ⟨earlier, later, rfl⟩ := List.append_of_mem hbefore
    exact ⟨earlier, later ++ (e, a) :: after, by rw [hsplit, List.append_assoc, List.cons_append]⟩
  have hleft := ((mem_requests_iff hc hsplit ht).1 hasks).2.2
  have hright := ((mem_requests_iff hc hsplit' he).1 hasked).2.2
  rw [wantsJunction_iff, hone] at hleft
  rw [wantsJunction_iff, hback] at hright
  -- Each side asks because the other does not declare the junction.
  have hother : b.junction = none := by simpa using hleft.1
  have hdeclared : a.junction = none := by simpa using hright.1
  exact hleft.2 b rfl hdeclared hother ⟨hbefore, hasked, hback⟩

end Review

/-- For entities that were built, a review asks for exactly the junctions
for which there is a reason. -/
theorem exactRequests_assemble {entities : List Entity} (hbuilt : ∀ e ∈ entities, e.IsBuilt)
    (model : String) (policy : NamePolicy) (t : Embeddables) (oneSided : Bool) :
    (assemble model policy t entities).ExactRequests oneSided
      ((assemble model policy t entities).review oneSided).requests := by
  have hc := allKeyed_assemble hbuilt model policy t
  generalize assemble model policy t entities = c at hc
  have horder : (c.review oneSided).requests.Sublist (c.visits.filterMap c.request?) := by
    rw [requests_review]
    exact Review.oncePerPair_sublist (fun v q => request?_of_wish?) [] c.visits
  refine ⟨horder, horder.nodup (nodup_request? hc), fun _ _ _ _ _ hsplit => mem_requests_iff hc
    hsplit, ?_, ?_⟩
  · rintro e a t b ha hb ht he hone hback ⟨hasks, hasked⟩
    have hne : (t, b) ≠ (e, a) := by
      rintro h
      obtain ⟨rfl, rfl⟩ := Prod.mk.inj h
      exact (mem_of_mem_inverses (hone ▸ List.mem_singleton_self b)).2 ⟨rfl, rfl⟩
    -- One of the two is visited first.
    obtain ⟨before, after, hsplit⟩ := List.append_of_mem ha
    have hmem := hb
    rw [hsplit, List.mem_append, List.mem_cons, or_iff_right hne] at hmem
    rcases hmem with hbefore | hafter
    · exact not_both_of_split hc hsplit hbefore ht he hone hback hasks hasked
    · obtain ⟨between, rest, rfl⟩ := List.append_of_mem hafter
      have hsplit' : c.visits = (before ++ (e, a) :: between) ++ (t, b) :: rest := by
        rw [hsplit, List.append_assoc, List.cons_append]
      exact not_both_of_split hc hsplit' (by simp) he ht hback hone hasked hasks
  · intro q hq
    obtain ⟨e, a, t, hof⟩ := requestOf_of_mem_requests hc hq
    exact ⟨e, t, a, hof.requested⟩

/-- Posts declare the junction with their tags, which do not lead back. Posts
and people are each other's other side and declare nothing. Topics lead from
people to tags and not back, and declare nothing, either. -/
def taggedPosts : List Entity :=
  EntityDraft.buildAll
    [EntityDraft.ofType ⟨["Tag"]⟩,
      { EntityDraft.ofType ⟨["Post"]⟩ with
        attributes := [.manyToMany "tags" "Tag" (some ⟨"post_tag", [], .explicit⟩),
          .manyToMany "authors" "Person" none] },
      { EntityDraft.ofType ⟨["Person"]⟩ with
        attributes := [.manyToMany "posts" "Post" none, .manyToMany "topics" "Tag" none] }]

/-- Each of the three reasons gives one request. -/
theorem exactRequests_taggedPosts :
    (∀ e ∈ taggedPosts, e.IsBuilt) ∧
    (assemble defaultModel .firstMatch .empty taggedPosts).ExactRequests true
      ((assemble defaultModel .firstMatch .empty taggedPosts).review true).requests ∧
    ((assemble defaultModel .firstMatch .empty taggedPosts).review true).requests.map toString =
      ["Post::tags -> Tag", "Post::authors -> Person", "Person::topics -> Tag"] :=
  have hbuilt : ∀ e ∈ taggedPosts, e.IsBuilt := fun _ => EntityDraft.isBuilt_of_mem_buildAll
  ⟨hbuilt, exactRequests_assemble hbuilt defaultModel .firstMatch .empty true, by decide +kernel⟩

/-- An association that declares the junction needs no other side that does
not. The tags of a post have no other side and are asked for, while the other
two reasons are for associations that declare nothing. -/
theorem taggedPosts_declaredAlone :
    ∃ v ∈ (assemble defaultModel .firstMatch .empty taggedPosts).visits, ∃ t,
      (assemble defaultModel .firstMatch .empty taggedPosts).target? v.2 = some t ∧
      ⟨v.1.ty, t.ty, v.2.name⟩ ∈
        ((assemble defaultModel .firstMatch .empty taggedPosts).review false).requests ∧
      ¬(v.2.junction.isSome ∧
          ∃ b ∈ (assemble defaultModel .firstMatch .empty taggedPosts).inverses v.1 v.2 t,
            b.junction = none) ∧
      v.2.junction ≠ none := by
  have hrun : (assemble defaultModel .firstMatch .empty taggedPosts).visits.any (fun v =>
      ((assemble defaultModel .firstMatch .empty taggedPosts).target? v.2).any fun t =>
        decide (⟨v.1.ty, t.ty, v.2.name⟩ ∈
          ((assemble defaultModel .firstMatch .empty taggedPosts).review false).requests) &&
        ((assemble defaultModel .firstMatch .empty taggedPosts).inverses v.1 v.2 t).isEmpty &&
        v.2.junction.isSome) = true := by decide +kernel
  obtain ⟨v, hv, hvisit⟩ := List.any_eq_true.1 hrun
  obtain ⟨t, ht, htest⟩ := (Option.any_eq_true _ _).1 hvisit
  rw [Bool.and_eq_true, Bool.and_eq_true, List.isEmpty_iff] at htest
  obtain ⟨⟨hasks, hnone⟩, hdeclared⟩ := htest
  refine ⟨v, hv, t, ht, of_decide_eq_true hasks, ?_, ?_⟩
  · rintro ⟨-, b, hb, -⟩
    rw [hnone] at hb
    cases hb
  · intro h
    rw [h] at hdeclared
    cases hdeclared

end Catalog

end SchemaLinker
