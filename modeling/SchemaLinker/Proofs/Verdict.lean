import SchemaLinker.Proofs.History

/-!
# `SchemaLinker.Proofs.Verdict`: what a resolution without errors says of a schema

`Catalog.Consistent` states what a schema is asked for, without a review:
what each attribute owes to the catalog by itself (`Catalog.Upholds`), that
under the strict policy no name is left open, and that every junction that
is asked for has its table.

`result_eq_ok_iff_consistent` proves that a resolution of built entities
is one without errors exactly when all its catalogs are consistent. One
half of it says that no violation is missed, although a pair is looked at
once and the diagnostics of earlier rounds are retired. The other half
says that no error is left over from an earlier round.

The steps go from the inside to the outside. `not_findsError_iff` reads
the errors of one visit, `isError_review_iff` those of one catalog, and
`Resolution.Closed` says that the diagnostics of a resolution are those of
its catalogs.
-/

set_option autoImplicit false

namespace SchemaLinker

namespace Catalog

/-- What an attribute owes to its catalog, shared names set aside. -/
structure Upholds (c : Catalog) (v : Entity × Attribute) : Prop where
  /-- A plain column has the type of no entity. -/
  plain : v.2.cardinality = none → c.entityOfType? v.2.ty = none
  /-- An association that leads nowhere is no foreign key. -/
  dangling : v.2.isAssociation = true → c.target? v.2 = none → v.2.foreignKey = false
  /-- Without another side, an association is no one-to-many, and a
  one-to-one is a foreign key. -/
  alone : ∀ k t, v.2.cardinality = some k → c.target? v.2 = some t → c.inverses v.1 v.2 t = [] →
    k ≠ .oneToMany ∧ (k = .oneToOne → v.2.foreignKey = true)
  /-- An only other side has the inverse cardinality, and one of the two
  declares the junction of a many-to-many or is the foreign key of a
  one-to-one. -/
  paired : ∀ k t b, v.2.cardinality = some k → c.target? v.2 = some t →
    c.inverses v.1 v.2 t = [b] →
    b.cardinality = some k.inverse ∧
      (k = .manyToMany → v.2.junction.isSome ≠ b.junction.isSome) ∧
      (k = .oneToOne → v.2.foreignKey ≠ b.foreignKey)

/-- What a resolver with these choices asks of a catalog. -/
structure Consistent (config : ResolverConfig) (c : Catalog) : Prop where
  /-- Under the strict policy no name is left open. -/
  unambiguous : config.policy = .strict → ∀ v ∈ c.visits, c.ambiguousTargets v.2 = []
  upheld : ∀ v ∈ c.visits, c.Upholds v
  /-- The table of every junction that is asked for is resident. -/
  junctions : ∀ q ∈ (c.review config.oneSided).requests, ∃ e t a, c.requested q = .ok (e, t, a) ∧
    ∃ j ∈ c.entities,
      Text.sameFolded j.tableName (junctionTable config.separator e t a) = true

/-- The report about a shared name is an error where it is all that is
said. -/
theorem exists_error_ofSharedName {c : Catalog} {a : Attribute} :
    (∃ f, Finding.ofSharedName c a = some f ∧ f.severity = .error) ↔ c.undecided a = true := by
  simp only [undecided]
  rw [Option.any_eq_true]
  simp only [beq_iff_eq]

/-- The relationship rules find an error exactly when the attribute does
not uphold one of the facts they look at. -/
theorem exists_error_relationshipFinding {c : Catalog} {v : Entity × Attribute} :
    (∃ f, c.relationshipFinding v = some f ∧ f.severity = .error) ↔
      (v.2.cardinality = none ∧ c.entityOfType? v.2.ty ≠ none) ∨
      ∃ k t, v.2.cardinality = some k ∧ c.target? v.2 = some t ∧
        (c.inverses v.1 v.2 t = [] ∧ Finding.ofOneSide v.2 k t ≠ none ∨
          ∃ b, c.inverses v.1 v.2 t = [b] ∧
            Finding.ofPair (v.1.idOf v.2) v.2 k (t.idOf b) b ≠ none) := by
  -- Where every finding is an error, there is an error if there is a finding.
  have hsome : ∀ {x : Option Finding}, (∀ f, x = some f → f.severity = .error) →
      ((∃ f, x = some f ∧ f.severity = .error) ↔ x ≠ none) := by
    intro x hx
    rw [Option.ne_none_iff_exists']
    exact exists_congr fun f => ⟨fun h => h.1, fun h => ⟨h, hx f h⟩⟩
  simp only [relationshipFinding]
  cases hk : v.2.cardinality with
  | none =>
    dsimp only
    rw [hsome fun f => Finding.severity_of_ofPlainColumn]
    simp [Finding.ofPlainColumn]
  | some k =>
    cases ht : c.target? v.2 with
    | none => simp [Finding.severity]
    | some t =>
      simp only [reduceCtorEq, false_and, false_or, Option.some.injEq, exists_eq_left',
        exists_and_left]
      rcases c.inverses v.1 v.2 t with _ | ⟨b, _ | ⟨b', others⟩⟩
      · dsimp only
        rw [hsome fun f hf => (Finding.severity_isOfPair_of_ofOneSide hf).1]
        simp
      · dsimp only
        rw [hsome fun f => Finding.severity_of_ofPair]
        simp
      · simp [Finding.severity]

/-- A visit finds an error when it leaves a name open, or when one of the
other rules finds one. -/
theorem findsError_iff {c : Catalog} {v : Entity × Attribute} :
    c.FindsError v ↔
      c.undecided v.2 = true ∨ (∃ f, c.relationshipFinding v = some f ∧ f.severity = .error) ∨
        (v.2.foreignKey = true ∧ v.2.isAssociation = true ∧ c.target? v.2 = none) := by
  have hkey : (∃ f, c.foreignKeyFinding v = some f ∧ f.severity = .error) ↔
      v.2.foreignKey = true ∧ v.2.isAssociation = true ∧ c.target? v.2 = none := by
    rw [← Finding.exists_error_ofForeignKey (e := v.1)]
    simp only [foreignKeyFinding_eq_some_iff, and_assoc, exists_and_left]
  rw [← hkey, ← exists_error_ofSharedName]
  constructor
  · rintro ⟨f, hf, herror⟩
    rcases mem_said_nil.1 hf with hshared | ⟨-, hrel | hforeign⟩
    · exact Or.inl ⟨f, hshared, herror⟩
    · exact Or.inr (Or.inl ⟨f, hrel, herror⟩)
    · exact Or.inr (Or.inr ⟨f, hforeign, herror⟩)
  · intro h
    -- An open name is an error already, so the other rules matter without one.
    by_cases hshared : ∃ f, Finding.ofSharedName c v.2 = some f ∧ f.severity = .error
    · obtain ⟨f, hf, herror⟩ := hshared
      exact ⟨f, mem_said_nil.2 (Or.inl hf), herror⟩
    · have hdecided : c.undecided v.2 = false := by
        rw [exists_error_ofSharedName, Bool.not_eq_true] at hshared
        exact hshared
      rcases h with hopen | ⟨f, hf, herror⟩ | ⟨f, hf, herror⟩
      · exact absurd hopen hshared
      · exact ⟨f, mem_said_nil.2 (Or.inr ⟨hdecided, Or.inl hf⟩), herror⟩
      · exact ⟨f, mem_said_nil.2 (Or.inr ⟨hdecided, Or.inr hf⟩), herror⟩

/-- A visit finds no error exactly when the policy leaves no name open and
the attribute upholds what it owes. -/
theorem not_findsError_iff {c : Catalog} {v : Entity × Attribute} :
    ¬c.FindsError v ↔
      (c.policy = .strict → c.ambiguousTargets v.2 = []) ∧ c.Upholds v := by
  have hopen : ¬c.undecided v.2 = true ↔ (c.policy = .strict → c.ambiguousTargets v.2 = []) := by
    rw [undecided_iff, not_and, Classical.not_not]
  rw [findsError_iff, not_or, not_or, hopen, exists_error_relationshipFinding]
  refine and_congr_right fun _ => ⟨?_, ?_⟩
  · -- Each rule that finds no error leaves one fact.
    rintro ⟨hrelation, hkey⟩
    rw [not_or] at hrelation
    obtain ⟨hplain, hassociation⟩ := hrelation
    refine ⟨fun hk => ?_, fun hassoc ht => ?_, fun k t hk ht hi => ?_, fun k t b hk ht hi => ?_⟩
    · exact Classical.byContradiction fun hne => hplain ⟨hk, hne⟩
    · exact Bool.eq_false_iff.2 fun hforeign => hkey ⟨hforeign, hassoc, ht⟩
    · have hnone : Finding.ofOneSide v.2 k t = none :=
        Classical.byContradiction fun hne => hassociation ⟨k, t, hk, ht, Or.inl ⟨hi, hne⟩⟩
      exact Finding.ofOneSide_eq_none_iff.1 hnone
    · have hnone : Finding.ofPair (v.1.idOf v.2) v.2 k (t.idOf b) b = none :=
        Classical.byContradiction fun hne => hassociation ⟨k, t, hk, ht, Or.inr ⟨b, hi, hne⟩⟩
      exact Finding.ofPair_eq_none_iff.1 hnone
  · intro h
    refine ⟨?_, ?_⟩
    · rintro (⟨hk, hne⟩ | ⟨k, t, hk, ht, ⟨hi, hne⟩ | ⟨b, hi, hne⟩⟩)
      · exact hne (h.plain hk)
      · exact hne (Finding.ofOneSide_eq_none_iff.2 (h.alone k t hk ht hi))
      · exact hne (Finding.ofPair_eq_none_iff.2 (h.paired k t b hk ht hi))
    · rintro ⟨hforeign, hassoc, ht⟩
      rw [h.dangling hassoc ht] at hforeign
      cases hforeign

/-- The review of a keyed catalog is one without errors exactly when no
name is left open and every attribute upholds what it owes. -/
theorem isError_review_iff {c : Catalog} (hc : c.AllKeyed) (oneSided : Bool) :
    (∀ d ∈ (c.review oneSided).diagnostics, d.isError = false) ↔
      (c.policy = .strict → ∀ v ∈ c.visits, c.ambiguousTargets v.2 = []) ∧
        ∀ v ∈ c.visits, c.Upholds v := by
  have hquiet : (∀ d ∈ (c.review oneSided).diagnostics, d.isError = false) ↔
      ∀ v ∈ c.visits, ¬c.FindsError v := by
    have h := not_congr (exists_error_review hc oneSided)
    simpa only [not_exists, not_and, Bool.not_eq_true] using h
  rw [hquiet]
  constructor
  · intro h
    exact ⟨fun hstrict v hv => (not_findsError_iff.1 (h v hv)).1 hstrict,
      fun v hv => (not_findsError_iff.1 (h v hv)).2⟩
  · rintro ⟨hopen, hupheld⟩ v hv
    exact not_findsError_iff.2 ⟨fun hstrict => hopen hstrict v hv, hupheld v hv⟩

end Catalog

namespace Resolver

/-- A request that no junction is made for has failed or has its table. -/
theorem failureOn?_eq_none_iff {config : ResolverConfig} {c : Catalog} {q : JunctionRequest}
    (hmade : madeOn? config c q = none) :
    failureOn? config c q = none ↔ c.synthesize config.separator q = .ok none := by
  simp only [failureOn?]
  rcases hs : c.synthesize config.separator q with fault | (_ | j)
  · simp
  · simp
  · rw [madeOn?_eq_some_iff.2 hs] at hmade
    cases hmade

/-- Where no junction is made, no request fails exactly when every one
has its table. -/
theorem isError_failures_iff {config : ResolverConfig} {c : Catalog}
    (hmade : made config c = []) :
    (∀ d ∈ failures config c, d.isError = false) ↔
      ∀ q ∈ (c.review config.oneSided).requests, ∃ e t a, c.requested q = .ok (e, t, a) ∧
        c.entitiesOfTable (junctionTable config.separator e t a) ≠ [] := by
  have hnone : ∀ q ∈ (c.review config.oneSided).requests, madeOn? config c q = none :=
    List.filterMap_eq_nil_iff.1 hmade
  -- Every failure is an error, so no error means no failure.
  have herror : ∀ d ∈ failures config c, d.isError = true := by
    intro d hd
    obtain ⟨q, -, hq⟩ := List.mem_filterMap.1 hd
    simp only [failureOn?] at hq
    split at hq
    · cases hq
    · cases hq
      rfl
  constructor
  · intro h q hq
    rw [← Catalog.synthesize_eq_none_iff, ← failureOn?_eq_none_iff (hnone q hq)]
    rw [Option.eq_none_iff_forall_ne_some]
    intro d hd
    have hmem : d ∈ failures config c := List.mem_filterMap.2 ⟨q, hq, hd⟩
    exact Bool.eq_false_iff.1 (h d hmem) (herror d hmem)
  · intro h d hd
    obtain ⟨q, hq, hdq⟩ := List.mem_filterMap.1 hd
    have hserved := Catalog.synthesize_eq_none_iff.2 (h q hq)
    rw [(failureOn?_eq_none_iff (hnone q hq)).2 hserved] at hdq
    cases hdq

end Resolver

namespace Resolution

/-- A resolution is its own result when it has no error. -/
theorem result_eq_ok_iff {res : Resolution} :
    res.result = .ok res ↔ ∀ d ∈ res.diagnostics, d.isError = false := by
  have herrors : res.diagnostics.errors = [] ↔ ∀ d ∈ res.diagnostics, d.isError = false := by
    simp only [Diagnostics.errors]
    rw [List.filter_eq_nil_iff]
    simp only [Bool.not_eq_true]
  rw [← herrors]
  simp only [result]
  cases res.diagnostics.errors <;> simp

/-- A closed resolution has no error exactly when all its catalogs are
consistent. -/
theorem Closed.quiet_iff {config : ResolverConfig} {res : Resolution} (h : res.Closed config) :
    (∀ d ∈ res.diagnostics, d.isError = false) ↔
      ∀ c ∈ res.catalogs.values, c.Consistent config := by
  have hquiet : (∀ d ∈ res.diagnostics, d.isError = false) ↔ ∀ c ∈ res.catalogs.values,
      (∀ d ∈ (c.review config.oneSided).diagnostics, d.isError = false) ∧
        ∀ d ∈ Resolver.failures config c, d.isError = false := by
    rw [h.diagnostics]
    simp only [List.mem_flatMap, List.mem_append]
    constructor
    · intro hall c hc
      exact ⟨fun d hd => hall d ⟨c, hc, Or.inl hd⟩, fun d hd => hall d ⟨c, hc, Or.inr hd⟩⟩
    · rintro hall d ⟨c, hc, hreview | hfailure⟩
      · exact (hall c hc).1 d hreview
      · exact (hall c hc).2 d hfailure
  rw [hquiet]
  refine forall₂_congr fun c hc => ?_
  obtain ⟨m, hm⟩ := OrderedMap.mem_values_iff.1 hc
  rw [Catalog.isError_review_iff (h.keyed c hc), Resolver.isError_failures_iff (h.made c hc),
    (h.houses m c hm).policy]
  simp only [Catalog.entitiesOfTable_ne_nil_iff]
  constructor
  · rintro ⟨⟨hopen, hupheld⟩, hrequests⟩
    exact ⟨hopen, hupheld, hrequests⟩
  · intro hconsistent
    exact ⟨⟨hconsistent.unambiguous, hconsistent.upheld⟩, hconsistent.junctions⟩

end Resolution

namespace Resolver

/-- Entities are built and submitted to a new resolver, and it comes to a
resolution. Then this is one without errors exactly when all catalogs are
consistent. -/
theorem result_eq_ok_iff_consistent {config : ResolverConfig} {entities : List Entity}
    {res : Resolution} (hbuilt : ∀ e ∈ entities, e.IsBuilt)
    (h : (submitAll config entities).resolve = .ok res) :
    res.result = .ok res ↔ ∀ c ∈ res.catalogs.values, c.Consistent config := by
  rw [Resolution.result_eq_ok_iff]
  exact (closed_of_resolve hbuilt h).quiet_iff

/-- People and groups get their junction and are consistent. -/
theorem consistent_membership :
    ∃ res, (submitAll .standard (EntityDraft.buildAll membership)).resolve = .ok res ∧
      (res.catalogs.values.map fun c => c.entities.map Entity.tableName) =
        [["Person", "Group", "Person_Group"]] ∧
      res.result = .ok res ∧ ∀ c ∈ res.catalogs.values, c.Consistent .standard := by
  have hrun : (((submitAll .standard (EntityDraft.buildAll membership)).resolve.toOption.any
      fun res => !res.diagnostics.hasErrors && decide
        ((res.catalogs.values.map fun c => c.entities.map Entity.tableName) =
          [["Person", "Group", "Person_Group"]])) = true) := by decide +kernel
  obtain ⟨res, h, htest⟩ := exists_ok_of_any_toOption hrun
  simp only [Bool.and_eq_true, Bool.not_eq_true', decide_eq_true_eq, Diagnostics.hasErrors,
    List.any_eq_false] at htest
  have hresult : res.result = .ok res :=
    Resolution.result_eq_ok_iff.2 fun d hd => Bool.eq_false_iff.2 (htest.1 d hd)
  exact ⟨res, h, htest.2, hresult,
    (result_eq_ok_iff_consistent (fun _ => EntityDraft.isBuilt_of_mem_buildAll) h).1 hresult⟩

end Resolver

end SchemaLinker
