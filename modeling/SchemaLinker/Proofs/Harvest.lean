import SchemaLinker.Proofs.Review
import SchemaLinker.Proofs.Synthesis
import SchemaLinker.Resolution.Resolver

/-!
# `SchemaLinker.Proofs.Harvest`: what the reviews of one round lead to

A harvest takes two things from every catalog, and neither depends on the
catalogs before it: the diagnostics, those of the review and those about
requests that cannot be served (`Resolver.failures`), and the junctions
that the requests lead to (`Resolver.made`). `harvest_eq` puts them
together: the diagnostics one after the other, and of the junctions the
first of every model and table.

* `pairwise_junctions`: no two harvested junctions share model and table.
* `mem_junctions`: each is made for a request of a review.
* `subject_mem_subjects`: the diagnostics are about attributes of the
  catalogs, so a later review retires them all (`retireAll_eq_nil`).
-/

set_option autoImplicit false

namespace SchemaLinker

namespace Resolver

/-- The two entities have one model and, ASCII case set aside, one
table. -/
def SharesTable (i j : Entity) : Prop :=
  i.model = j.model ∧ Text.sameFolded i.tableName j.tableName = true

/-- A junction is kept unless an earlier one has its model and table. -/
def keepNew (kept : List Entity) (j : Entity) : List Entity :=
  if coversTable kept j then kept else kept ++ [j]

/-- The junction that a request leads to. -/
def madeOn? (config : ResolverConfig) (c : Catalog) (q : JunctionRequest) : Option Entity :=
  match c.synthesize config.separator q with
  | .ok j => j
  | .error _ => none

/-- The diagnostic about a request that cannot be served. -/
def failureOn? (config : ResolverConfig) (c : Catalog) (q : JunctionRequest) :
    Option Diagnostic :=
  match c.synthesize config.separator q with
  | .ok _ => none
  | .error fault =>
    some ((Finding.junctionFailed fault.message).diagnostic ⟨q.source, q.name⟩)

/-- The junctions that the requests of a catalog's review lead to. -/
def made (config : ResolverConfig) (c : Catalog) : List Entity :=
  (c.review config.oneSided).requests.filterMap (madeOn? config c)

/-- The diagnostics about the requests of a catalog's review that cannot
be served. -/
def failures (config : ResolverConfig) (c : Catalog) : Diagnostics :=
  (c.review config.oneSided).requests.filterMap (failureOn? config c)

/-- A table is covered when a kept entity of the model has it. -/
theorem coversTable_iff {kept : List Entity} {e : Entity} :
    coversTable kept e = true ↔ ∃ j ∈ kept, SharesTable j e := by
  simp only [coversTable, SharesTable]
  simp [List.any_eq_true]

/-- A junction is made where synthesis gives one. -/
theorem madeOn?_eq_some_iff {config : ResolverConfig} {c : Catalog} {q : JunctionRequest}
    {j : Entity} :
    madeOn? config c q = some j ↔ c.synthesize config.separator q = .ok (some j) := by
  simp only [madeOn?]
  split
  · rename_i h
    rw [h, Except.ok.injEq]
  · rename_i h
    rw [h]
    simp

section Fold

variable (config : ResolverConfig)

/-- Serving one request adds its diagnostic and keeps its junction. -/
theorem serve_eq (c : Catalog) (h : Harvest) (q : JunctionRequest) :
    serve config c h q =
      { diagnostics := h.diagnostics ++ (failureOn? config c q).toList
        junctions := (madeOn? config c q).toList.foldl keepNew h.junctions } := by
  simp only [serve, failureOn?, madeOn?]
  rcases hs : c.synthesize config.separator q with fault | (_ | j)
  · rfl
  · simp
  · by_cases hcover : coversTable h.junctions j = true <;> simp [keepNew, hcover]

/-- Serving requests adds their failures, and the junctions that are new. -/
theorem foldl_serve (c : Catalog) (h : Harvest) (requests : List JunctionRequest) :
    requests.foldl (serve config c) h =
      { diagnostics := h.diagnostics ++ requests.filterMap (failureOn? config c)
        junctions := (requests.filterMap (madeOn? config c)).foldl keepNew h.junctions } := by
  induction requests generalizing h with
  | nil => simp
  | cons q rest ih =>
    rw [List.foldl_cons, ih, serve_eq, List.filterMap_cons, List.filterMap_cons]
    cases failureOn? config c q <;> cases madeOn? config c q <;> simp

/-- A harvest of catalogs, seen as a whole. -/
theorem foldl_harvestCatalog (h : Harvest) (catalogs : List Catalog) :
    catalogs.foldl (harvestCatalog config) h =
      { diagnostics := h.diagnostics ++ catalogs.flatMap fun c =>
          (c.review config.oneSided).diagnostics ++ failures config c
        junctions := (catalogs.flatMap (made config)).foldl keepNew h.junctions } := by
  induction catalogs generalizing h with
  | nil => simp
  | cons c rest ih =>
    have hstep : harvestCatalog config h c =
        { diagnostics :=
            h.diagnostics ++ ((c.review config.oneSided).diagnostics ++ failures config c)
          junctions := (made config c).foldl keepNew h.junctions } := by
      simp only [harvestCatalog]
      rw [foldl_serve, ← List.append_assoc]
      rfl
    rw [List.foldl_cons, ih, hstep, List.flatMap_cons, List.flatMap_cons, List.foldl_append,
      List.append_assoc]

/-- A harvest has the diagnostics of all catalogs, and of the junctions
the first of every model and table. -/
theorem harvest_eq (catalogs : List Catalog) :
    harvest config catalogs =
      { diagnostics := catalogs.flatMap fun c =>
          (c.review config.oneSided).diagnostics ++ failures config c
        junctions := (catalogs.flatMap (made config)).foldl keepNew [] } := by
  simp only [harvest]
  rw [foldl_harvestCatalog]
  rfl

end Fold

/-- What was kept stays. -/
theorem mem_foldl_keepNew_of_mem (l kept : List Entity) {i : Entity} (hi : i ∈ kept) :
    i ∈ l.foldl keepNew kept := by
  induction l generalizing kept with
  | nil => exact hi
  | cons j rest ih =>
    apply ih
    simp only [keepNew]
    split
    · exact hi
    · exact List.mem_append_left _ hi

/-- What is kept was kept before or comes from the list. -/
theorem mem_of_mem_foldl_keepNew (l kept : List Entity) {i : Entity}
    (hi : i ∈ l.foldl keepNew kept) : i ∈ kept ∨ i ∈ l := by
  induction l generalizing kept with
  | nil => exact Or.inl hi
  | cons j rest ih =>
    rcases ih _ hi with hkept | hrest
    · unfold keepNew at hkept
      split at hkept
      · exact Or.inl hkept
      · rcases List.mem_append.1 hkept with hold | hlast
        · exact Or.inl hold
        · exact Or.inr (List.mem_singleton.1 hlast ▸ List.mem_cons_self)
    · exact Or.inr (List.mem_cons_of_mem _ hrest)

/-- Nothing is kept only of nothing. -/
theorem foldl_keepNew_eq_nil {l : List Entity} (h : l.foldl keepNew [] = []) : l = [] := by
  cases l with
  | nil => rfl
  | cons j rest =>
    have hmem : j ∈ (j :: rest).foldl keepNew [] :=
      mem_foldl_keepNew_of_mem rest [j] List.mem_cons_self
    rw [h] at hmem
    cases hmem

/-- Of the junctions that are kept no two share model and table. -/
theorem pairwise_foldl_keepNew (l kept : List Entity)
    (h : kept.Pairwise fun i j => ¬SharesTable i j) :
    (l.foldl keepNew kept).Pairwise fun i j => ¬SharesTable i j := by
  induction l generalizing kept with
  | nil => exact h
  | cons j rest ih =>
    apply ih
    simp only [keepNew]
    split
    · exact h
    · rename_i hnew
      refine List.pairwise_append.2 ⟨h, List.pairwise_singleton _ _, ?_⟩
      intro i hi k hk hshares
      cases List.mem_singleton.1 hk
      exact hnew (coversTable_iff.2 ⟨i, hi, hshares⟩)

/-- No two harvested junctions share model and table. -/
theorem pairwise_junctions (config : ResolverConfig) (catalogs : List Catalog) :
    (harvest config catalogs).junctions.Pairwise fun i j => ¬SharesTable i j := by
  rw [harvest_eq]
  exact pairwise_foldl_keepNew _ [] List.Pairwise.nil

/-- A harvested junction is made for a request of a catalog's review. -/
theorem mem_junctions {config : ResolverConfig} {catalogs : List Catalog} {j : Entity}
    (h : j ∈ (harvest config catalogs).junctions) :
    ∃ c ∈ catalogs, ∃ q ∈ (c.review config.oneSided).requests,
      c.synthesize config.separator q = .ok (some j) := by
  rw [harvest_eq] at h
  rcases mem_of_mem_foldl_keepNew _ _ h with hnil | hmade
  · cases hnil
  · obtain ⟨c, hc, hj⟩ := List.mem_flatMap.1 hmade
    obtain ⟨q, hq, hj⟩ := List.mem_filterMap.1 hj
    exact ⟨c, hc, q, hq, madeOn?_eq_some_iff.1 hj⟩

/-- The subjects are the attributes of all catalogs. -/
theorem mem_subjects {catalogs : List Catalog} {x : AttributeId} :
    x ∈ subjects catalogs ↔ ∃ c ∈ catalogs, ∃ v ∈ c.visits, v.1.idOf v.2 = x := by
  simp only [subjects]
  simp only [List.mem_flatMap, List.mem_map]

/-- A diagnostic of a harvest is about an attribute of the catalogs. -/
theorem subject_mem_subjects {config : ResolverConfig} {catalogs : List Catalog}
    {d : Diagnostic} (h : d ∈ (harvest config catalogs).diagnostics) :
    d.subject ∈ subjects catalogs := by
  rw [harvest_eq] at h
  obtain ⟨c, hc, hd⟩ := List.mem_flatMap.1 h
  rw [mem_subjects]
  refine ⟨c, hc, ?_⟩
  rcases List.mem_append.1 hd with hreview | hfailure
  · obtain ⟨v, hv, f, -, rfl⟩ := Catalog.mem_diagnostics_review hreview
    exact ⟨v, hv, rfl⟩
  · -- A request that fails names the association that a visit asked for.
    obtain ⟨q, hq, hd⟩ := List.mem_filterMap.1 hfailure
    obtain ⟨v, hv, -, hwish⟩ := Catalog.mem_requests hq
    obtain ⟨t, -, -, rfl, -⟩ := Catalog.wish?_eq_some hwish
    simp only [failureOn?] at hd
    split at hd
    · cases hd
    · cases hd
      exact ⟨v, hv, rfl⟩

/-- Retiring the attributes of some catalogs leaves no diagnostic about
one of them. -/
theorem retireAll_eq_nil {ds : Diagnostics} {catalogs : List Catalog}
    (h : ∀ d ∈ ds, d.subject ∈ subjects catalogs) : retireAll ds catalogs = [] := by
  have hmem : ∀ (l : List AttributeId) (ds : Diagnostics) (d : Diagnostic),
      d ∈ l.foldl Diagnostics.retire ds → d ∈ ds ∧ d.subject ∉ l := by
    intro l
    -- Attributes are retired one after the other, so the diagnostics are generalized.
    induction l with
    | nil =>
      intro ds d hd
      exact ⟨hd, List.not_mem_nil⟩
    | cons x rest ih =>
      intro ds d hd
      obtain ⟨hretired, hrest⟩ := ih _ _ hd
      obtain ⟨hold, hx⟩ := Diagnostics.mem_retire.1 hretired
      refine ⟨hold, ?_⟩
      rw [List.mem_cons, not_or]
      exact ⟨hx, hrest⟩
  refine List.eq_nil_iff_forall_not_mem.2 fun d hd => ?_
  obtain ⟨hold, hnot⟩ := hmem (subjects catalogs) ds d hd
  exact hnot (h d hold)

end Resolver

end SchemaLinker
