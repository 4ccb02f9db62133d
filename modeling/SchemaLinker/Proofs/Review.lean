import SchemaLinker.Proofs.Reference
import SchemaLinker.Proofs.Rules

/-!
# `SchemaLinker.Proofs.Review`: a review, visit by visit

A visit reads the catalog and, of what the review has noted so far, only
the two lists of pairs. `Review.visit_eq` writes out what it adds: the
findings `Catalog.said`, at most one pair to each list, and at most one
request. The parts do not depend on the review:

* `Catalog.pair?`: the pair that a visit looks at,
* `Catalog.relationshipFinding`, `Catalog.foreignKeyFinding`: what its
  rules find,
* `Catalog.wish?`: the junction it would ask for, and
  `Catalog.sharedPair?`: the pair for which it would ask only once.

A pair is held exactly when an earlier visit looked at it, from either
side (`holds_heldAfter`, `holds_checked_foldl`).

Two main statements follow. `mem_requests` says that every request of a
review is the wish of one of its visits. `exists_error_review` says that a
review has an error exactly when some visit finds one by itself: the
finding of a pair is left out on the second visit of the pair only, and
the first visit has found the same from the other side
(`relationshipFinding_of_swap`).
-/

set_option autoImplicit false

namespace SchemaLinker

namespace Review

/-- The list of pairs after a visit that looked at a pair. -/
def remember (pairs : List (AttributeId × AttributeId)) :
    Option (AttributeId × AttributeId) → List (AttributeId × AttributeId)
  | none => pairs
  | some p => if holds pairs p.1 p.2 then pairs else p :: pairs

/-- What is left to do where a pair is done once. -/
def unlessHeld {α : Type} (pairs : List (AttributeId × AttributeId))
    (p : Option (AttributeId × AttributeId)) (x : Option α) : Option α :=
  if p.any fun p => holds pairs p.1 p.2 then none else x

/-- A pair is held in either order. -/
theorem holds_iff {pairs : List (AttributeId × AttributeId)} {x y : AttributeId} :
    holds pairs x y = true ↔ (x, y) ∈ pairs ∨ (y, x) ∈ pairs := by
  simp only [holds]
  rw [Bool.or_eq_true, List.contains_iff_mem, List.contains_iff_mem]

/-- A pair that is looked at is held afterwards, and no other is new. -/
theorem holds_remember {pairs : List (AttributeId × AttributeId)}
    {p : Option (AttributeId × AttributeId)} {x y : AttributeId} :
    holds (remember pairs p) x y = true ↔
      holds pairs x y = true ∨ p = some (x, y) ∨ p = some (y, x) := by
  cases p with
  | none => simp [remember]
  | some p =>
    obtain ⟨u, w⟩ := p
    have hstep : remember pairs (some (u, w)) =
        if holds pairs u w then pairs else (u, w) :: pairs := rfl
    by_cases hp : holds pairs u w = true
    · -- The pair is held already, and with it its other order.
      rw [hstep, if_pos hp]
      constructor
      · exact Or.inl
      · rintro (h | h | h)
        · exact h
        · cases h
          exact hp
        · cases h
          exact holds_iff.2 (holds_iff.1 hp).symm
    · rw [hstep, if_neg hp, holds_iff, holds_iff, List.mem_cons, List.mem_cons]
      grind

section Run

variable {V : Type} {pair? : V → Option (AttributeId × AttributeId)}

/-- The pairs held after some visits. -/
def heldAfter (pair? : V → Option (AttributeId × AttributeId))
    (held : List (AttributeId × AttributeId)) (visits : List V) :
    List (AttributeId × AttributeId) :=
  visits.foldl (fun held v => remember held (pair? v)) held

/-- A pair is held when it was before, or when a visit looked at it from
either side. -/
theorem holds_heldAfter {held : List (AttributeId × AttributeId)} {visits : List V}
    {x y : AttributeId} :
    holds (heldAfter pair? held visits) x y = true ↔
      holds held x y = true ∨ ∃ u ∈ visits, pair? u = some (x, y) ∨ pair? u = some (y, x) := by
  induction visits generalizing held with
  | nil => simp [heldAfter]
  | cons u rest ih =>
    show holds (heldAfter pair? (remember held (pair? u)) rest) x y = true ↔ _
    rw [ih, holds_remember]
    simp [or_assoc]

end Run

/-- What is not held back is unchanged. -/
theorem unlessHeld_eq_some {α : Type} {pairs : List (AttributeId × AttributeId)}
    {p : Option (AttributeId × AttributeId)} {x : Option α} {a : α}
    (h : unlessHeld pairs p x = some a) : x = some a := by
  simp only [unlessHeld] at h
  split at h
  · cases h
  · exact h

end Review

namespace Catalog

/-- Whether the report about a shared name is all that a visit says. -/
def undecided (c : Catalog) (a : Attribute) : Bool :=
  (Finding.ofSharedName c a).any fun f => f.severity == .error

/-- The pair that a visit looks at: the attribute and its only other
side. -/
def pair? (c : Catalog) (v : Entity × Attribute) : Option (AttributeId × AttributeId) :=
  match v.2.cardinality, c.target? v.2 with
  | some _, some t =>
    match c.inverses v.1 v.2 t with
    | [b] => some (v.1.idOf v.2, t.idOf b)
    | _ => none
  | _, _ => none

/-- What the rules find about an attribute as an association or a plain
column. -/
def relationshipFinding (c : Catalog) (v : Entity × Attribute) : Option Finding :=
  match v.2.cardinality with
  | none => Finding.ofPlainColumn c v.2
  | some cardinality =>
    match c.target? v.2 with
    | none => some (.unresolvedTarget (Finding.targetDescription v.2))
    | some t =>
      match c.inverses v.1 v.2 t with
      | [] => Finding.ofOneSide v.2 cardinality t
      | [b] => Finding.ofPair (v.1.idOf v.2) v.2 cardinality (t.idOf b) b
      | b :: others => some (.ambiguousInverse t.ty b.name (others.map Attribute.name))

/-- What the rules find about an attribute as a foreign key. -/
def foreignKeyFinding (c : Catalog) (v : Entity × Attribute) : Option Finding :=
  if v.2.foreignKey then Finding.ofForeignKey c v.1 v.2 else none

/-- The junction that a visit would ask for. -/
def wish? (c : Catalog) (oneSided : Bool) (v : Entity × Attribute) : Option JunctionRequest :=
  match v.2.cardinality, c.target? v.2 with
  | some .manyToMany, some t =>
    match c.inverses v.1 v.2 t with
    | [] =>
      if v.2.junction.isSome || oneSided then some ⟨v.1.ty, t.ty, v.2.name⟩ else none
    | [b] => if b.junction.isSome then none else some ⟨v.1.ty, t.ty, v.2.name⟩
    | _ => none
  | _, _ => none

/-- The pair for which a visit would ask only once: neither side declares
the junction. -/
def sharedPair? (c : Catalog) (v : Entity × Attribute) : Option (AttributeId × AttributeId) :=
  match v.2.cardinality, c.target? v.2 with
  | some .manyToMany, some t =>
    match c.inverses v.1 v.2 t with
    | [b] =>
      if v.2.junction.isSome || b.junction.isSome then none
      else some (v.1.idOf v.2, t.idOf b)
    | _ => none
  | _, _ => none

/-- The rule for foreign keys looks at foreign keys only. -/
theorem foreignKeyFinding_eq_some_iff {c : Catalog} {v : Entity × Attribute} {f : Finding} :
    c.foreignKeyFinding v = some f ↔
      v.2.foreignKey = true ∧ Finding.ofForeignKey c v.1 v.2 = some f := by
  simp only [foreignKeyFinding]
  cases v.2.foreignKey <;> simp

/-- What a visit says when the pairs in `checked` have had their
finding. -/
def said (c : Catalog) (checked : List (AttributeId × AttributeId)) (v : Entity × Attribute) :
    List Finding :=
  (Finding.ofSharedName c v.2).toList ++
    if c.undecided v.2 then []
    else
      (Review.unlessHeld checked (c.pair? v) (c.relationshipFinding v)).toList ++
        (c.foreignKeyFinding v).toList

/-- Only the strict policy leaves a name open, and only a shared one. -/
theorem undecided_iff {c : Catalog} {a : Attribute} :
    c.undecided a = true ↔ c.policy = .strict ∧ c.ambiguousTargets a ≠ [] := by
  simp only [undecided, Finding.ofSharedName]
  cases h : c.ambiguousTargets a with
  | nil => simp
  | cons first others => cases hp : c.policy <;> simp [Finding.severity]

end Catalog

namespace Review

variable (c : Catalog) (oneSided : Bool) (r : Review)

/-- The visit of an attribute as an association or a plain column, part by
part. -/
theorem visitRelationship_eq (v : Entity × Attribute) :
    visitRelationship c oneSided r v.1 v.2 =
      { checked := remember r.checked (c.pair? v)
        requested := remember r.requested (c.sharedPair? v)
        findings := r.findings ++
          ((unlessHeld r.checked (c.pair? v) (c.relationshipFinding v)).map
            fun f => (v.1.idOf v.2, f)).toList
        requests := r.requests ++
          (unlessHeld r.requested (c.sharedPair? v) (c.wish? oneSided v)).toList } := by
  obtain ⟨e, a⟩ := v
  unfold visitRelationship Catalog.pair? Catalog.sharedPair? Catalog.relationshipFinding
    Catalog.wish?
  cases hk : a.cardinality with
  | none => simp [note, remember, unlessHeld]
  | some k =>
    cases ht : c.target? a with
    | none => simp [note, remember, unlessHeld]
    | some t =>
      simp only [visitResolved]
      cases hi : c.inverses e a t with
      | nil =>
        cases k <;> cases hj : a.junction <;> cases oneSided <;>
          simp [note, askJunction, ask, remember, unlessHeld, hi, hj]
      | cons b others =>
        cases others with
        | nil =>
          -- One other side: what the visit adds depends on both lists of pairs.
          by_cases hc : holds r.checked (e.idOf a) (t.idOf b) = true <;>
            by_cases hr : holds r.requested (e.idOf a) (t.idOf b) = true <;>
            cases k <;> cases hj : a.junction <;> cases hjb : b.junction <;>
            simp [note, notePair, askJunction, ask, remember, unlessHeld, hi, hj, hjb, hc, hr]
        | cons b' others => cases k <;> simp [note, remember, unlessHeld, hi]

/-- One visit, part by part. -/
theorem visit_eq (v : Entity × Attribute) :
    visit c oneSided r v =
      { checked := remember r.checked (if c.undecided v.2 then none else c.pair? v)
        requested := remember r.requested (if c.undecided v.2 then none else c.sharedPair? v)
        findings := r.findings ++ (c.said r.checked v).map fun f => (v.1.idOf v.2, f)
        requests := r.requests ++
          (if c.undecided v.2 then none
            else unlessHeld r.requested (c.sharedPair? v) (c.wish? oneSided v)).toList } := by
  have hshared : r.note (v.1.idOf v.2) (Finding.ofSharedName c v.2) =
      { r with findings := r.findings ++
          (Finding.ofSharedName c v.2).toList.map fun f => (v.1.idOf v.2, f) } := by
    simp only [note]
    cases Finding.ofSharedName c v.2 <;> rfl
  have hvisit : visit c oneSided r v =
      if c.undecided v.2 then r.note (v.1.idOf v.2) (Finding.ofSharedName c v.2)
      else
        visitForeignKey c
          (visitRelationship c oneSided (r.note (v.1.idOf v.2) (Finding.ofSharedName c v.2))
            v.1 v.2)
          v.1 v.2 := rfl
  rw [hvisit, hshared]
  simp only [Catalog.said]
  by_cases h : c.undecided v.2 = true
  · simp [h, remember]
  · -- The name is not left open, so the other two rules note what they find.
    rw [if_neg h, visitRelationship_eq]
    simp only [visitForeignKey, Catalog.foreignKeyFinding, note]
    cases unlessHeld r.checked (c.pair? v) (c.relationshipFinding v) <;>
      cases v.2.foreignKey <;> cases Finding.ofForeignKey c v.1 v.2 <;> simp [h]

/-- The pairs held after some visits of a review are those of its decided
visits. -/
theorem checked_foldl (visits : List (Entity × Attribute)) :
    (visits.foldl (visit c oneSided) r).checked =
      heldAfter (fun u => if c.undecided u.2 then none else c.pair? u) r.checked visits := by
  induction visits generalizing r with
  | nil => rfl
  | cons u rest ih =>
    rw [List.foldl_cons, ih, visit_eq]
    rfl

/-- They are those that one of the visits looked at, from either side. -/
theorem holds_checked_foldl (visits : List (Entity × Attribute)) (x y : AttributeId) :
    holds (visits.foldl (visit c oneSided) r).checked x y = true ↔
      holds r.checked x y = true ∨
        ∃ u ∈ visits, c.undecided u.2 = false ∧
          (c.pair? u = some (x, y) ∨ c.pair? u = some (y, x)) := by
  have hdecided : ∀ (u : Entity × Attribute) (p : AttributeId × AttributeId),
      (if c.undecided u.2 then none else c.pair? u) = some p ↔
        c.undecided u.2 = false ∧ c.pair? u = some p := by
    intro u p
    cases c.undecided u.2 <;> simp
  rw [checked_foldl, holds_heldAfter]
  simp only [hdecided, and_or_left]

/-- What was found before some visits stays. -/
theorem mem_findings_foldl_of_mem (visits : List (Entity × Attribute)) {p : AttributeId × Finding}
    (hp : p ∈ r.findings) : p ∈ (visits.foldl (visit c oneSided) r).findings := by
  induction visits generalizing r with
  | nil => exact hp
  | cons u rest ih =>
    apply ih
    rw [visit_eq]
    exact List.mem_append_left _ hp

/-- At first nothing is held back. -/
theorem unlessHeld_nil {α : Type} (p : Option (AttributeId × AttributeId)) (x : Option α) :
    unlessHeld [] p x = x := by
  cases p <;> rfl

end Review

namespace Catalog

/-- What a visit says when no pair has had its finding. -/
theorem mem_said_nil {c : Catalog} {v : Entity × Attribute} {f : Finding} :
    f ∈ c.said [] v ↔
      Finding.ofSharedName c v.2 = some f ∨
      (c.undecided v.2 = false ∧
        (c.relationshipFinding v = some f ∨ c.foreignKeyFinding v = some f)) := by
  simp only [said]
  rw [Review.unlessHeld_nil]
  cases c.undecided v.2 <;> simp

/-- Pairs that have had their finding only take findings away. -/
theorem mem_said_nil_of_mem_said {c : Catalog} {checked : List (AttributeId × AttributeId)}
    {v : Entity × Attribute} {f : Finding} (h : f ∈ c.said checked v) : f ∈ c.said [] v := by
  rw [mem_said_nil]
  simp only [said] at h
  rcases List.mem_append.1 h with hshared | hrest
  · exact Or.inl (Option.mem_toList.1 hshared)
  · split at hrest
    · cases hrest
    · rename_i hdecided
      refine Or.inr ⟨Bool.eq_false_iff.2 hdecided, ?_⟩
      rcases List.mem_append.1 hrest with hrel | hkey
      · exact Or.inl (Review.unlessHeld_eq_some (Option.mem_toList.1 hrel))
      · exact Or.inr (Option.mem_toList.1 hkey)

/-- A visit looks at a pair where a single attribute maps back to an association. -/
theorem pair?_eq_some_iff {c : Catalog} {v : Entity × Attribute}
    {p : AttributeId × AttributeId} :
    c.pair? v = some p ↔
      ∃ k t b, v.2.cardinality = some k ∧ c.target? v.2 = some t ∧ c.inverses v.1 v.2 t = [b] ∧
        p = (v.1.idOf v.2, t.idOf b) := by
  simp only [pair?]
  cases hk : v.2.cardinality with
  | none => simp
  | some k =>
    cases ht : c.target? v.2 with
    | none => simp
    | some t =>
      simp only [Option.some.injEq, exists_eq_left', exists_and_left]
      rcases hi : c.inverses v.1 v.2 t with _ | ⟨b, _ | ⟨b', others⟩⟩
      · simp
      · simp only [Option.some.injEq, List.cons.injEq, and_true, exists_eq_left']
        exact eq_comm
      · simp

/-- A wish comes from a many-to-many association with a target and at most
one other side, which does not declare the junction. Without another side
the association declares it, or one-sided ones get one. -/
theorem wish?_eq_some {c : Catalog} {oneSided : Bool} {v : Entity × Attribute}
    {q : JunctionRequest} (h : c.wish? oneSided v = some q) :
    ∃ t, v.2.cardinality = some .manyToMany ∧ c.target? v.2 = some t ∧
      q = ⟨v.1.ty, t.ty, v.2.name⟩ ∧
      (c.inverses v.1 v.2 t = [] ∧ (v.2.junction.isSome ∨ oneSided) ∨
        ∃ b, c.inverses v.1 v.2 t = [b] ∧ b.junction = none) := by
  simp only [wish?] at h
  split at h
  · rename_i t hk ht
    refine ⟨t, hk, ht, ?_⟩
    split at h
    · rename_i hi
      split at h
      · rename_i hdeclared
        cases h
        exact ⟨rfl, Or.inl ⟨hi, (Bool.or_eq_true _ _).mp hdeclared⟩⟩
      · cases h
    · rename_i b hi
      split at h
      · cases h
      · rename_i hnot
        cases h
        refine ⟨rfl, Or.inr ⟨b, hi, ?_⟩⟩
        rw [← Option.isNone_iff_eq_none]
        simpa using hnot
    · cases h
  · cases h

/-- The finding of a visit with one other side is the finding of the
pair. -/
theorem relationshipFinding_of_inverses {c : Catalog} {v : Entity × Attribute} {k : Cardinality}
    {t : Entity} {b : Attribute} (hk : v.2.cardinality = some k) (ht : c.target? v.2 = some t)
    (hi : c.inverses v.1 v.2 t = [b]) :
    c.relationshipFinding v = Finding.ofPair (v.1.idOf v.2) v.2 k (t.idOf b) b := by
  simp only [relationshipFinding]
  rw [hk]
  simp only [ht, hi]

/-- What the rules find about an attribute as an association or a plain
column, with the rule that finds it. -/
theorem relationshipFinding_cases {c : Catalog} {v : Entity × Attribute} {f : Finding}
    (h : c.relationshipFinding v = some f) :
    (v.2.cardinality = none ∧ Finding.ofPlainColumn c v.2 = some f) ∨
      ∃ k, v.2.cardinality = some k ∧
        ((c.target? v.2 = none ∧ f = .unresolvedTarget (Finding.targetDescription v.2)) ∨
          ∃ t, c.target? v.2 = some t ∧
            ((c.inverses v.1 v.2 t = [] ∧ Finding.ofOneSide v.2 k t = some f) ∨
              (∃ b, c.inverses v.1 v.2 t = [b] ∧
                Finding.ofPair (v.1.idOf v.2) v.2 k (t.idOf b) b = some f) ∨
              ∃ b b' others, c.inverses v.1 v.2 t = b :: b' :: others ∧
                f = .ambiguousInverse t.ty b.name ((b' :: others).map Attribute.name))) := by
  simp only [relationshipFinding] at h
  cases hk : v.2.cardinality with
  | none =>
    rw [hk] at h
    exact Or.inl ⟨rfl, h⟩
  | some k =>
    rw [hk] at h
    refine Or.inr ⟨k, rfl, ?_⟩
    cases ht : c.target? v.2 with
    | none =>
      simp only [ht, Option.some.injEq] at h
      exact Or.inl ⟨rfl, h.symm⟩
    | some t =>
      simp only [ht] at h
      refine Or.inr ⟨t, rfl, ?_⟩
      rcases hi : c.inverses v.1 v.2 t with _ | ⟨b, _ | ⟨b', others⟩⟩
      · simp only [hi] at h
        exact Or.inl ⟨rfl, h⟩
      · simp only [hi] at h
        exact Or.inr (Or.inl ⟨b, rfl, h⟩)
      · simp only [hi, Option.some.injEq] at h
        exact Or.inr (Or.inr ⟨b, b', others, rfl, h.symm⟩)

/-- What a visit finds as an association is about a pair when the visit looks
at one. -/
theorem isOfPair_relationshipFinding {c : Catalog} {v : Entity × Attribute} {f : Finding}
    (hf : c.relationshipFinding v = some f) : f.isOfPair = (c.pair? v).isSome := by
  simp only [pair?]
  obtain ⟨hk, hplain⟩ | ⟨k, hk, ⟨ht, rfl⟩ | ⟨t, ht, ⟨hi, hone⟩ | ⟨b, hi, hpair⟩ |
    ⟨b, b', others, hi, rfl⟩⟩⟩ := relationshipFinding_cases hf
  · obtain ⟨t, -, rfl⟩ := Option.map_eq_some_iff.1 hplain
    simp only [hk, Finding.isOfPair, Option.isSome_none]
  · simp only [hk, ht, Finding.isOfPair, Option.isSome_none]
  · simp only [hk, ht, hi, (Finding.severity_isOfPair_of_ofOneSide hone).2, Option.isSome_none]
  · simp only [hk, ht, hi, Finding.isOfPair_of_ofPair hpair, Option.isSome_some]
  · simp only [hk, ht, hi, Finding.isOfPair, Option.isSome_none]

/-- Two visits of one pair find an error or nothing together. -/
theorem relationshipFinding_of_swap {c : Catalog} (hc : c.AllKeyed) {u v : Entity × Attribute}
    (hu : u ∈ c.visits) (hv : v ∈ c.visits) {x y : AttributeId} (hpv : c.pair? v = some (x, y))
    (hpu : c.pair? u = some (x, y) ∨ c.pair? u = some (y, x)) {f : Finding}
    (hf : c.relationshipFinding v = some f) :
    ∃ g, c.relationshipFinding u = some g ∧ g.severity = .error := by
  obtain ⟨k, t, b, hk, ht, hi, hxy⟩ := pair?_eq_some_iff.1 hpv
  obtain ⟨rfl, rfl⟩ := Prod.mk.inj hxy
  rw [relationshipFinding_of_inverses hk ht hi] at hf
  rcases hpu with hsame | hswap
  · -- The same side: the visits are one.
    obtain ⟨_, _, _, _, _, _, h⟩ := pair?_eq_some_iff.1 hsame
    rw [eq_of_idOf_eq hc hu hv (Prod.mk.inj h).1.symm, relationshipFinding_of_inverses hk ht hi]
    exact ⟨f, hf, Finding.severity_of_ofPair hf⟩
  · -- The other side: the visit is the inverse, and its inverse is the first.
    obtain ⟨k', t', b', hk', ht', hi', h⟩ := pair?_eq_some_iff.1 hswap
    obtain ⟨hleft, hright⟩ := Prod.mk.inj h
    have hub : u = (t, b) := eq_of_idOf_eq hc hu (mem_visits_of_inverses ht hi) hleft.symm
    have hvb : v = (t', b') := eq_of_idOf_eq hc hv (mem_visits_of_inverses ht' hi') hright
    have hside : u.2 = b := by rw [hub]
    have hback : b' = v.2 := by rw [hvb]
    rw [relationshipFinding_of_inverses hk' ht' hi', ← hleft, ← hright, hside, hback]
    rw [hside] at hk'
    have hsome : (Finding.ofPair (t.idOf b) b k' (v.1.idOf v.2) v.2).isSome := by
      rw [← Finding.ofPair_isSome_comm hk hk', hf]
      rfl
    obtain ⟨g, hg⟩ := Option.isSome_iff_exists.1 hsome
    exact ⟨g, hg, Finding.severity_of_ofPair hg⟩

/-- The visit finds an error by itself. -/
def FindsError (c : Catalog) (v : Entity × Attribute) : Prop :=
  ∃ f ∈ c.said [] v, f.severity = .error

end Catalog

namespace Review

/-- The review has noted an error. -/
def HasError (r : Review) : Prop := ∃ p ∈ r.findings, p.2.severity = .error

section Run

variable (c : Catalog) (oneSided : Bool)

/-- Every finding of a run of visits was there before, or one of the
visits says it about its attribute. -/
theorem mem_findings_foldl (visits : List (Entity × Attribute)) (r : Review)
    {p : AttributeId × Finding} (hp : p ∈ (visits.foldl (visit c oneSided) r).findings) :
    p ∈ r.findings ∨ ∃ v ∈ visits, p.1 = v.1.idOf v.2 ∧ p.2 ∈ c.said [] v := by
  induction visits generalizing r with
  | nil => exact Or.inl hp
  | cons v rest ih =>
    rcases ih _ hp with hnew | ⟨u, hu, hid, hsaid⟩
    · rw [visit_eq] at hnew
      rcases List.mem_append.1 hnew with hold | hsaid
      · exact Or.inl hold
      · obtain ⟨f, hf, rfl⟩ := List.mem_map.1 hsaid
        exact Or.inr ⟨v, List.mem_cons_self, rfl, Catalog.mem_said_nil_of_mem_said hf⟩
    · exact Or.inr ⟨u, List.mem_cons_of_mem _ hu, hid, hsaid⟩

/-- Every request of a run of visits was there before, or is the wish of a
visit whose target the policy does not leave open. -/
theorem mem_requests_foldl (visits : List (Entity × Attribute)) (r : Review)
    {q : JunctionRequest} (hq : q ∈ (visits.foldl (visit c oneSided) r).requests) :
    q ∈ r.requests ∨ ∃ v ∈ visits, c.undecided v.2 = false ∧ c.wish? oneSided v = some q := by
  induction visits generalizing r with
  | nil => exact Or.inl hq
  | cons v rest ih =>
    rcases ih _ hq with hnew | ⟨u, hu, hdecided, hwish⟩
    · rw [visit_eq] at hnew
      rcases List.mem_append.1 hnew with hold | hask
      · exact Or.inl hold
      · cases h : c.undecided v.2 with
        | true => simp [h] at hask
        | false =>
          simp only [h, Bool.false_eq_true, if_false, Option.mem_toList] at hask
          exact Or.inr ⟨v, List.mem_cons_self, h, unlessHeld_eq_some hask⟩
    · exact Or.inr ⟨u, List.mem_cons_of_mem _ hu, hdecided, hwish⟩

/-- One visit notes the error that it finds, unless the finding of its
pair is left out because an earlier visit looked at the pair. -/
theorem hasError_visit_or {v : Entity × Attribute} {r : Review} (h : c.FindsError v) :
    (visit c oneSided r v).HasError ∨
      ∃ x y, c.undecided v.2 = false ∧ c.pair? v = some (x, y) ∧ holds r.checked x y = true ∧
        ∃ f, c.relationshipFinding v = some f := by
  obtain ⟨f, hf, herror⟩ := h
  by_cases hsaid : f ∈ c.said r.checked v
  · refine Or.inl ⟨(v.1.idOf v.2, f), ?_, herror⟩
    rw [visit_eq]
    exact List.mem_append_right _ (List.mem_map.2 ⟨f, hsaid, rfl⟩)
  · -- What is not said again is the finding of a pair that is held.
    simp only [Catalog.said] at hsaid
    rcases Catalog.mem_said_nil.1 hf with hshared | ⟨hdecided, hrel | hkey⟩
    · exact absurd (List.mem_append_left _ (Option.mem_toList.2 hshared)) hsaid
    · have hheld : ((c.pair? v).any fun p => holds r.checked p.1 p.2) = true := by
        refine Classical.byContradiction fun hnot => hsaid ?_
        have hall : unlessHeld r.checked (c.pair? v) (c.relationshipFinding v) = some f := by
          simp only [unlessHeld]
          rw [if_neg hnot, hrel]
        simp [hdecided, hall]
      cases hp : c.pair? v with
      | none =>
        rw [hp] at hheld
        cases hheld
      | some p =>
        rw [hp] at hheld
        exact Or.inr ⟨p.1, p.2, hdecided, rfl, hheld, f, hrel⟩
    · refine absurd ?_ hsaid
      simp [hdecided, hkey]

/-- After a run of visits every error that one of them finds by itself has
been noted, for the pairs held stand for visits that found the same. -/
theorem hasError_foldl (hc : c.AllKeyed) (visits before : List (Entity × Attribute)) (r : Review)
    (hvisits : ∀ v ∈ before ++ visits, v ∈ c.visits)
    (hheld : ∀ x y, holds r.checked x y = true → ∃ u ∈ before, c.undecided u.2 = false ∧
      (c.pair? u = some (x, y) ∨ c.pair? u = some (y, x)))
    (hbefore : ∀ u ∈ before, c.FindsError u → r.HasError) :
    ∀ v ∈ before ++ visits, c.FindsError v → (visits.foldl (visit c oneSided) r).HasError := by
  induction visits generalizing before r with
  | nil =>
    intro v hv
    rw [List.append_nil] at hv
    exact hbefore v hv
  | cons w rest ih =>
    have hkeep : r.HasError → (visit c oneSided r w).HasError := by
      rintro ⟨p, hp, herror⟩
      exact ⟨p, mem_findings_foldl_of_mem c oneSided r [w] hp, herror⟩
    have happ : before ++ w :: rest = (before ++ [w]) ++ rest := by simp
    rw [happ] at hvisits ⊢
    refine ih (before ++ [w]) (visit c oneSided r w) hvisits ?_ ?_
    · -- The pairs held now are those held before and the one of `w`.
      intro x y h
      rcases (holds_checked_foldl c oneSided r [w] x y).1 h with hold | ⟨u, hu, hpair⟩
      · obtain ⟨u, hu, hpair⟩ := hheld x y hold
        exact ⟨u, List.mem_append_left _ hu, hpair⟩
      · exact ⟨u, List.mem_append_right _ hu, hpair⟩
    · intro u hu hfinds
      rcases List.mem_append.1 hu with hold | hlast
      · exact hkeep (hbefore u hold hfinds)
      · cases List.mem_singleton.1 hlast
        rcases hasError_visit_or c oneSided (r := r) hfinds with hnoted | ⟨x, y, _, hp, hh, f, hf⟩
        · exact hnoted
        · obtain ⟨s, hs, hdecided, hps⟩ := hheld x y hh
          have hmem : ∀ v ∈ before ++ [w], v ∈ c.visits := fun v hv =>
            hvisits v (List.mem_append_left _ hv)
          obtain ⟨g, hg, hgerror⟩ := Catalog.relationshipFinding_of_swap hc
            (hmem s (List.mem_append_left _ hs)) (hmem w hu) hp hps hf
          exact hkeep (hbefore s hs ⟨g, Catalog.mem_said_nil.2 (Or.inr ⟨hdecided, Or.inl hg⟩),
            hgerror⟩)

end Run

end Review

namespace Catalog

/-- A request of a review is the wish of one of its visits. -/
theorem mem_requests {c : Catalog} {oneSided : Bool} {q : JunctionRequest}
    (h : q ∈ (c.review oneSided).requests) :
    ∃ v ∈ c.visits, c.undecided v.2 = false ∧ c.wish? oneSided v = some q := by
  rcases Review.mem_requests_foldl c oneSided c.visits Review.start h with hstart | hwish
  · cases hstart
  · exact hwish

/-- A diagnostic of a review is what one of its visits says by itself. -/
theorem mem_diagnostics_review {c : Catalog} {oneSided : Bool} {d : Diagnostic}
    (h : d ∈ (c.review oneSided).diagnostics) :
    ∃ v ∈ c.visits, ∃ f ∈ c.said [] v, d = f.diagnostic (v.1.idOf v.2) := by
  obtain ⟨⟨x, f⟩, hp, rfl⟩ := List.mem_map.1 h
  rcases Review.mem_findings_foldl c oneSided c.visits Review.start hp with
    hstart | ⟨v, hv, hid, hsaid⟩
  · cases hstart
  · exact ⟨v, hv, f, hsaid, congrArg f.diagnostic hid⟩

/-- What a visit says that is not about a pair is never left out. -/
theorem mem_diagnostics_of_said {c : Catalog} (oneSided : Bool) {v : Entity × Attribute}
    (hv : v ∈ c.visits) {f : Finding} (hf : f ∈ c.said [] v) (hpair : f.isOfPair = false) :
    f.diagnostic (v.1.idOf v.2) ∈ (c.review oneSided).diagnostics := by
  obtain ⟨before, rest, hvisits⟩ := List.append_of_mem hv
  refine List.mem_map.2 ⟨(v.1.idOf v.2, f), ?_, rfl⟩
  simp only [review]
  rw [hvisits, List.foldl_append, List.foldl_cons]
  apply Review.mem_findings_foldl_of_mem
  rw [Review.visit_eq]
  refine List.mem_append_right _ (List.mem_map.2 ⟨f, ?_, rfl⟩)
  simp only [said]
  rcases mem_said_nil.1 hf with hshared | ⟨hdecided, hrelationship | hkey⟩
  · exact List.mem_append_left _ (Option.mem_toList.2 hshared)
  · -- The finding is about no pair, so the visit looks at none.
    rw [isOfPair_relationshipFinding hrelationship] at hpair
    have hnone : c.pair? v = none := by simpa using hpair
    simp [hdecided, hnone, Review.unlessHeld, hrelationship]
  · simp [hdecided, hkey]

/-- A review has an error exactly when a visit finds one by itself. -/
theorem exists_error_review {c : Catalog} (hc : c.AllKeyed) (oneSided : Bool) :
    (∃ d ∈ (c.review oneSided).diagnostics, d.isError = true) ↔
      ∃ v ∈ c.visits, c.FindsError v := by
  constructor
  · rintro ⟨d, hd, herror⟩
    obtain ⟨v, hv, f, hf, rfl⟩ := mem_diagnostics_review hd
    exact ⟨v, hv, f, hf, beq_iff_eq.1 herror⟩
  · rintro ⟨v, hv, hfinds⟩
    obtain ⟨p, hp, herror⟩ := Review.hasError_foldl c oneSided hc c.visits [] Review.start
      (fun _ h => h) (fun x y h => absurd h (by simp [Review.start, Review.holds]))
      (fun u hu => absurd hu List.not_mem_nil) v hv hfinds
    exact ⟨p.2.diagnostic p.1, List.mem_map.2 ⟨p, hp, rfl⟩, beq_iff_eq.2 herror⟩

end Catalog

end SchemaLinker
