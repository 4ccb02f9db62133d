import SchemaLinker.Proofs.NamePolicy
import SchemaLinker.Proofs.Provenance
import SchemaLinker.Proofs.Stability

/-!
# `SchemaLinker.Proofs.JunctionColumns`: errors about the columns of junctions

A column of a junction is a plain column with the type of a key. So under
the policy that takes the first match there is one error that can be about
it: its type is that of an entity (`isError_plain_iff`).

The type comes from the only key of a resident. That may be a junction
itself, but it came in before, so its own columns are copied from keys that
are older still. In the end the type is that of the only key of an entity
that was submitted, or an integer (`exists_declaredKey`).

`columnReport_of_runRound` puts this together for every round of every run
without embeddables. The error about a column is there exactly when its type
finds an entity. Then a submitted entity has a key of this type, and either
the same error is about this key, or the key is an association. So junctions
bring errors into a schema only where a single key is an association
(`ColumnReport.quiet`), and `error_from_association_key` is a run in which
one does.
-/

set_option autoImplicit false

namespace SchemaLinker

namespace Catalog

/-- Where the first match is taken, the error that a visit of a plain column
finds is that its type is an entity. -/
theorem error_said_plain_iff {c : Catalog} (hpolicy : c.policy = .firstMatch)
    {v : Entity × Attribute} (hk : v.2.cardinality = none) {f : Finding} :
    (f ∈ c.said [] v ∧ f.severity = .error) ↔
      ∃ target, c.entityOfType? v.2.ty = some target ∧ f = .plainReference target.ty := by
  have hdecided : c.undecided v.2 = false := by
    rw [Bool.eq_false_iff]
    intro hopen
    rw [(undecided_iff.1 hopen).1] at hpolicy
    cases hpolicy
  have hplain : c.relationshipFinding v =
      (c.entityOfType? v.2.ty).map fun target => .plainReference target.ty := by
    simp only [relationshipFinding]
    rw [hk]
    rfl
  rw [mem_said_nil, hplain, Option.map_eq_some_iff]
  constructor
  · rintro ⟨hshared | ⟨-, ⟨target, htarget, rfl⟩ | hforeign⟩, herror⟩
    · have hopen := exists_error_ofSharedName.1 ⟨f, hshared, herror⟩
      rw [hdecided] at hopen
      cases hopen
    · exact ⟨target, htarget, rfl⟩
    · -- The error of a foreign key is one of associations.
      obtain ⟨-, hfound⟩ := foreignKeyFinding_eq_some_iff.1 hforeign
      have hassociation := (Finding.exists_error_ofForeignKey.1 ⟨f, hfound, herror⟩).1
      simp only [Attribute.isAssociation] at hassociation
      rw [hk] at hassociation
      cases hassociation
  · rintro ⟨target, htarget, rfl⟩
    exact ⟨Or.inr ⟨hdecided, Or.inl ⟨target, htarget, rfl⟩⟩, rfl⟩

/-- So a review says of a plain column the one error that its type is an
entity, where it is one. -/
theorem isError_plain_iff {c : Catalog} (hc : c.AllKeyed) (hpolicy : c.policy = .firstMatch)
    (oneSided : Bool) {v : Entity × Attribute} (hv : v ∈ c.visits) (hk : v.2.cardinality = none)
    {d : Diagnostic} :
    (d ∈ (c.review oneSided).diagnostics ∧ d.subject = v.1.idOf v.2 ∧ d.isError = true) ↔
      ∃ target, c.entityOfType? v.2.ty = some target ∧
        d = (Finding.plainReference target.ty).diagnostic (v.1.idOf v.2) := by
  constructor
  · rintro ⟨hd, hsubject, herror⟩
    obtain ⟨u, hu, f, hf, rfl⟩ := mem_diagnostics_review hd
    obtain rfl : u = v := eq_of_idOf_eq hc hu hv hsubject
    obtain ⟨target, htarget, rfl⟩ :=
      (error_said_plain_iff hpolicy hk).1 ⟨hf, beq_iff_eq.1 herror⟩
    exact ⟨target, htarget, rfl⟩
  · rintro ⟨target, htarget, rfl⟩
    have hsaid := ((error_said_plain_iff hpolicy hk).2 ⟨target, htarget, rfl⟩).1
    exact ⟨mem_diagnostics_of_said oneSided hv hsaid rfl, rfl, rfl⟩

end Catalog

namespace Resolver

/-- What a round reports about a catalog: what its review finds, and the
requests that cannot be served. -/
def reported (config : ResolverConfig) (c : Catalog) : Diagnostics :=
  (c.review config.oneSided).diagnostics ++ failures config c

/-- A request that fails is one of a visited association. -/
theorem exists_visit_of_mem_failures {config : ResolverConfig} {c : Catalog} {d : Diagnostic}
    (h : d ∈ failures config c) :
    ∃ v ∈ c.visits, d.subject = v.1.idOf v.2 ∧ v.2.cardinality = some .manyToMany := by
  obtain ⟨q, hq, hd⟩ := List.mem_filterMap.1 h
  obtain ⟨v, hv, -, hwish⟩ := Catalog.mem_requests hq
  obtain ⟨t, hk, -, rfl, -⟩ := Catalog.wish?_eq_some hwish
  refine ⟨v, hv, ?_, hk⟩
  simp only [failureOn?] at hd
  split at hd
  · cases hd
  · cases hd
    rfl

/-- A round that succeeds reports this for every catalog, and the resolver
then holds nothing else. -/
theorem diagnostics_runRound_eq {r after : Resolver} {report : RoundReport} (h : r.Coherent)
    (hrun : r.runRound = (.ok report, after)) :
    report.diagnostics = after.catalogs.values.flatMap (reported r.config) ∧
      after.diagnostics = report.diagnostics := by
  refine ⟨?_, h.diagnostics_runRound hrun⟩
  obtain ⟨-, -, hsettle⟩ := runRound_eq_ok_iff.1 hrun
  have hreport : report.diagnostics = (harvest r.config after.catalogs.values).diagnostics := by
    rw [← congrArg (fun p => p.1.diagnostics) hsettle,
      ← congrArg (fun p => p.2.catalogs) hsettle]
    rfl
  rw [hreport, harvest_eq]
  rfl

/-- What a round reports about a plain column, where the first match is
taken: that its type is an entity, if it is one. -/
theorem isError_reported_plain_iff {config : ResolverConfig} {c : Catalog} (hc : c.AllKeyed)
    (hpolicy : c.policy = .firstMatch) {v : Entity × Attribute} (hv : v ∈ c.visits)
    (hk : v.2.cardinality = none) {d : Diagnostic} :
    (d ∈ reported config c ∧ d.subject = v.1.idOf v.2 ∧ d.isError = true) ↔
      ∃ target, c.entityOfType? v.2.ty = some target ∧
        d = (Finding.plainReference target.ty).diagnostic (v.1.idOf v.2) := by
  rw [← Catalog.isError_plain_iff hc hpolicy config.oneSided hv hk]
  refine and_congr_left fun h => ?_
  simp only [reported]
  rw [List.mem_append, or_iff_left]
  -- Requests come from associations, so none of them fails on a plain column.
  intro hfailure
  obtain ⟨u, hu, hsubject, hmany⟩ := exists_visit_of_mem_failures hfailure
  rw [Catalog.eq_of_idOf_eq hc hu hv (hsubject.symm.trans h.1), hk] at hmany
  cases hmany

section Keys

variable {config : ResolverConfig} {steps : List Step} {c : Catalog}

/-- Every resident of the catalog has an origin, and nobody submits
junctions. The columns of a junction that a stage of the catalog makes have
integer types, and types of the only keys of declared residents. -/
theorem exists_declaredKey (horigin : ∀ f ∈ c.entities, Origin config steps c f)
    (hdeclared : ∀ e, .submit e ∈ steps → e.synthesized = false) {stage : Catalog}
    {q : JunctionRequest} {j : Entity} (hstage : stage.entities <+: c.entities)
    (hmade : stage.synthesize config.separator q = .ok (some j)) :
    ∀ k ∈ j.attributes.values, k.ty = .scalar .int64 ∨
      ∃ t ∈ c.entities, t.synthesized = false ∧ ∃ key, t.singleKey? = some key ∧ key.ty = k.ty := by
  -- A junction whose key is copied was made at an earlier stage, so the stages get shorter.
  induction hn : stage.entities.length using Nat.strongRecOn generalizing stage q j with
  | _ n ih =>
    intro k hk
    rcases Catalog.ty_of_synthesize hmade k hk with hinteger | ⟨t, ht, key, hkey, hty⟩
    · exact Or.inl hinteger
    · have htc := hstage.subset ht
      cases hsynth : t.synthesized with
      | false => exact Or.inr ⟨t, htc, hsynth, key, hkey, hty.symm⟩
      | true =>
        cases horigin t htc with
        | submitted hsubmit =>
          rw [hdeclared t hsubmit] at hsynth
          cases hsynth
        | made earlier q' _ hearlier _ hmade' =>
          obtain ⟨e, s, a, -, hjunction⟩ := Catalog.junctionOf_of_synthesize hmade'
          have hshorter : earlier.entities.length < n := by
            rw [← hn]
            refine Nat.lt_of_not_le fun hle => ?_
            have hcontained := List.prefix_of_prefix_length_le hstage hearlier hle
            exact Catalog.entity?_eq_none_iff.1 hjunction.unknown
              (List.mem_map_of_mem (hcontained.subset ht))
          rw [hty]
          exact ih _ hshorter hearlier hmade' rfl key (Entity.mem_of_singleKey? hkey)

end Keys

/-- What a round reports about a column `k` of a junction `j`. -/
structure ColumnReport (config : ResolverConfig) (c : Catalog) (j : Entity) (k : Attribute) :
    Prop where
  /-- The one error there may be is that the column's type is an entity. -/
  error_iff : ∀ d, (d ∈ reported config c ∧ d.subject = j.idOf k ∧ d.isError = true) ↔
    ∃ target, c.entityOfType? k.ty = some target ∧
      d = (Finding.plainReference target.ty).diagnostic (j.idOf k)
  /-- Then the column's type is that of the only key of a declared entity.
  The key is an association, or the same error is about the key. -/
  copied : ∀ target, c.entityOfType? k.ty = some target →
    ∃ t ∈ c.entities, t.synthesized = false ∧ ∃ key, t.singleKey? = some key ∧ key.ty = k.ty ∧
      (key.isAssociation = true ∨
        (Finding.plainReference target.ty).diagnostic (t.idOf key) ∈ reported config c)

/-- Where no single key of a declared entity is an association, and no error
is about a declared entity, no error is about the column. -/
theorem ColumnReport.quiet {config : ResolverConfig} {c : Catalog} {j : Entity} {k : Attribute}
    (h : ColumnReport config c j k)
    (hkeys : ∀ t ∈ c.entities, t.synthesized = false → ∀ key, t.singleKey? = some key →
      key.isAssociation = false)
    (hdeclared : ∀ t ∈ c.entities, t.synthesized = false → ∀ a ∈ t.attributes.values,
      ∀ d ∈ reported config c, d.subject = t.idOf a → d.isError = false) :
    ∀ d ∈ reported config c, d.subject = j.idOf k → d.isError = false := by
  intro d hd hsubject
  refine Bool.eq_false_iff.2 fun herror => ?_
  obtain ⟨target, htarget, -⟩ := (h.error_iff d).1 ⟨hd, hsubject, herror⟩
  obtain ⟨t, ht, hsynth, key, hkey, -, hassociation | hreported⟩ := h.copied target htarget
  · rw [hkeys t ht hsynth key hkey] at hassociation
    cases hassociation
  · have hquiet := hdeclared t ht hsynth key (Entity.mem_of_singleKey? hkey) _ hreported rfl
    cases hquiet

/-- The report about the columns of a junction that some stage of the
catalog made. -/
theorem columnReport_of_made {config : ResolverConfig} {steps : List Step} {c : Catalog}
    (hc : c.AllKeyed) (hpolicy : c.policy = .firstMatch)
    (horigin : ∀ f ∈ c.entities, Origin config steps c f)
    (hdeclared : ∀ e, .submit e ∈ steps → e.synthesized = false) {stage : Catalog}
    {q : JunctionRequest} {j : Entity} (hstage : stage.entities <+: c.entities)
    (hmade : stage.synthesize config.separator q = .ok (some j)) (hj : j ∈ c.entities) :
    ∀ k ∈ j.attributes.values, ColumnReport config c j k := by
  intro k hk
  obtain ⟨e, s, a, -, hjunction⟩ := Catalog.junctionOf_of_synthesize hmade
  have hvisit : (j, k) ∈ c.visits := Catalog.mem_visits.2 ⟨hj, hk⟩
  refine ⟨fun d => isError_reported_plain_iff hc hpolicy hvisit (hjunction.columns k hk).2.2, ?_⟩
  intro target htarget
  rcases exists_declaredKey horigin hdeclared hstage hmade k hk with
    hinteger | ⟨t, ht, hsynth, key, hkey, hty⟩
  · -- An integer is no entity.
    rw [hinteger] at htarget
    cases htarget
  · refine ⟨t, ht, hsynth, key, hkey, hty, ?_⟩
    cases hassociation : key.cardinality with
    | some cardinality => exact Or.inl (by simp [Attribute.isAssociation, hassociation])
    | none =>
      have hkeyVisit : (t, key) ∈ c.visits :=
        Catalog.mem_visits.2 ⟨ht, Entity.mem_of_singleKey? hkey⟩
      rw [← hty] at htarget
      exact Or.inr ((isError_reported_plain_iff hc hpolicy hkeyVisit hassociation).2
        ⟨target, htarget, rfl⟩).1

/-- So it is in every reachable state, if only built entities were
submitted, there are no embeddables, and the first match is taken. -/
theorem columnReport_history {config : ResolverConfig} (hpolicy : config.policy = .firstMatch)
    (hembeddables : config.embeddables = .empty) {steps : List Step}
    (hsteps : ∀ e, .submit e ∈ steps → e.IsBuilt ∧ e.synthesized = false) {m : String}
    {c : Catalog} (hm : (history config steps).catalogs.get? m = some c) {j : Entity}
    (hj : j ∈ c.entities) (hsynth : j.synthesized = true) :
    ∀ k ∈ j.attributes.values, ColumnReport config c j k := by
  have hkeyed := (keyed_history config steps fun e he => (hsteps e he).1.keyed).1 m c hm
  have hsourced := sourced_history config steps
  have hfirst : c.policy = .firstMatch := by
    rw [(hsourced.houses m c hm).policy, hpolicy]
  -- Without embeddables what came in is what is resident.
  have horigin : ∀ f ∈ c.entities, Origin config steps c f := by
    intro f hf
    obtain ⟨e, he, rfl⟩ := hsourced.resident m c hm f hf
    rw [hembeddables, Embeddables.flatten_empty]
    exact he
  cases horigin j hj with
  | submitted hsubmit =>
    rw [(hsteps j hsubmit).2] at hsynth
    cases hsynth
  | made stage q _ hstage _ hmade =>
    exact columnReport_of_made hkeyed hfirst horigin (fun e he => (hsteps e he).2) hstage hmade hj

/-- Built entities are submitted to a resolver without embeddables that
takes the first match, and rounds are run, in any order. Take a round that
succeeds. It reports what there is to say about the catalogs, and this is
what the resolver then holds. Every column of every junction that was made
has a `ColumnReport`: the one error about it is that it has the type of an
entity, and then it has this type from a declared key that is an association
or has the same error. -/
theorem columnReport_of_runRound {config : ResolverConfig} (hpolicy : config.policy = .firstMatch)
    (hembeddables : config.embeddables = .empty) {steps : List Step}
    (hsteps : ∀ e, .submit e ∈ steps → e.IsBuilt ∧ e.synthesized = false)
    {report : RoundReport} {after : Resolver}
    (hrun : (history config steps).runRound = (.ok report, after)) :
    report.diagnostics = after.catalogs.values.flatMap (reported config) ∧
      after.diagnostics = report.diagnostics ∧
      ∀ c ∈ after.catalogs.values, ∀ j ∈ c.entities, j.synthesized = true →
        ∀ k ∈ j.attributes.values, ColumnReport config c j k := by
  have hdiagnostics := diagnostics_runRound_eq (coherent_history config steps) hrun
  rw [config_history] at hdiagnostics
  refine ⟨hdiagnostics.1, hdiagnostics.2, fun c hc j hj hsynth => ?_⟩
  -- The round is one more step of the history, and it submits nothing.
  have hafter : after = history config (steps ++ [.round]) := by
    rw [history_append]
    show after = (history config steps).runRound.2
    rw [hrun]
  have hmore : ∀ e, .submit e ∈ steps ++ [.round] → e.IsBuilt ∧ e.synthesized = false := by
    intro e he
    rcases List.mem_append.1 he with hsubmit | hround
    · exact hsteps e hsubmit
    · cases List.mem_singleton.1 hround
  obtain ⟨m, hm⟩ := OrderedMap.mem_values_iff.1 hc
  rw [hafter] at hm
  exact columnReport_history hpolicy hembeddables hmore hm hj hsynth

/-- The junction of people and groups comes in with the second round, and
each of its columns has its report. -/
theorem columnReport_membership :
    let steps := (EntityDraft.buildAll membership).map Step.submit ++ [.round]
    ∃ report after c j, (history .standard steps).runRound = (.ok report, after) ∧
      c ∈ after.catalogs.values ∧ c.entity? ⟨["PersonGroup"]⟩ = some j ∧
      j.attributes.values.map Attribute.name = ["PersonId", "GroupId"] ∧
      report.diagnostics = after.catalogs.values.flatMap (reported .standard) ∧
      after.diagnostics = report.diagnostics ∧
      ∀ k ∈ j.attributes.values, ColumnReport .standard c j k := by
  intro steps
  have hround : (history .standard steps).runRound.1.toOption.any (fun _ =>
      (history .standard steps).runRound.2.catalogs.values.any fun c =>
        (c.entity? ⟨["PersonGroup"]⟩).any fun j => decide (j.synthesized = true ∧
          j.attributes.values.map Attribute.name = ["PersonId", "GroupId"])) = true := by
    decide +kernel
  obtain ⟨report, hreport, hcatalogs⟩ := exists_ok_of_any_toOption hround
  obtain ⟨c, hc, hentity⟩ := List.any_eq_true.1 hcatalogs
  obtain ⟨j, hj, htest⟩ := (Option.any_eq_true _ _).1 hentity
  obtain ⟨hsynth, hnames⟩ := of_decide_eq_true htest
  have hrun : (history .standard steps).runRound =
      (.ok report, (history .standard steps).runRound.2) := Prod.ext hreport rfl
  have hsteps : ∀ e, .submit e ∈ steps → e.IsBuilt ∧ e.synthesized = false := by
    intro e he
    have hplain : ∀ d ∈ EntityDraft.buildAll membership, d.synthesized = false := by
      decide +kernel
    have hsubmitted := mem_of_submit_mem (by simp) he
    exact ⟨EntityDraft.isBuilt_of_mem_buildAll hsubmitted, hplain e hsubmitted⟩
  have hpolicy : ResolverConfig.standard.policy = .firstMatch := rfl
  obtain ⟨hreported, hheld, hcolumns⟩ := columnReport_of_runRound hpolicy rfl hsteps hrun
  exact ⟨report, _, c, j, hrun, hc, hj, hnames, hreported, hheld,
    hcolumns c hc j (Catalog.mem_of_entity? hj) hsynth⟩

/-- People with groups, which have a country for a key. -/
def groupsOfCountries : List EntityDraft :=
  let id : Attribute := { Attribute.column "id" (.scalar .int64) with key := true }
  let country : Attribute :=
    { Attribute.column "country" (.named ⟨["Country"]⟩) with
      cardinality := some .manyToOne
      foreignKey := true
      key := true }
  [{ EntityDraft.ofType ⟨["Person"]⟩ with attributes := [id, .manyToMany "groups" "Group" none] },
    { EntityDraft.ofType ⟨["Group"]⟩ with attributes := [country] },
    { EntityDraft.ofType ⟨["Country"]⟩ with attributes := [id] }]

/-- The first round reports nothing. It makes the junction of people and
groups, and the second round reports an error about the column for the
groups: it has the type of their key, which is an association with
countries. -/
theorem error_from_association_key :
    let submits := (EntityDraft.buildAll groupsOfCountries).map Step.submit
    let first := history .standard (submits ++ [.round])
    (∀ e ∈ EntityDraft.buildAll groupsOfCountries, e.IsBuilt ∧ e.synthesized = false) ∧
      first.diagnostics = [] ∧
      ∃ report after c j k, first.runRound = (.ok report, after) ∧
        c ∈ after.catalogs.values ∧ j ∈ c.entities ∧ j.synthesized = true ∧
        k ∈ j.attributes.values ∧ k.referencedType = some (.named ⟨["Group"]⟩) ∧
        report.diagnostics =
          [(Finding.plainReference ⟨["Country"]⟩).diagnostic (j.idOf k)] := by
  intro submits first
  have hplain : ∀ d ∈ EntityDraft.buildAll groupsOfCountries, d.synthesized = false := by
    decide +kernel
  have hround : first.runRound.1.toOption.any (fun report =>
      first.runRound.2.catalogs.values.any fun c => c.entities.any fun j =>
        j.attributes.values.any fun k => decide (j.synthesized = true ∧
          k.referencedType = some (.named ⟨["Group"]⟩) ∧ report.diagnostics =
            [(Finding.plainReference ⟨["Country"]⟩).diagnostic (j.idOf k)])) = true := by
    decide +kernel
  obtain ⟨report, hreport, hcatalogs⟩ := exists_ok_of_any_toOption hround
  obtain ⟨c, hc, hentities⟩ := List.any_eq_true.1 hcatalogs
  obtain ⟨j, hj, hattributes⟩ := List.any_eq_true.1 hentities
  obtain ⟨k, hk, htest⟩ := List.any_eq_true.1 hattributes
  obtain ⟨hsynth, hreference, hdiagnostics⟩ := of_decide_eq_true htest
  exact ⟨fun e he => ⟨EntityDraft.isBuilt_of_mem_buildAll he, hplain e he⟩, by decide +kernel,
    report, _, c, j, k, Prod.ext hreport rfl, hc, hj, hsynth, hk, hreference, hdiagnostics⟩

end Resolver

end SchemaLinker
