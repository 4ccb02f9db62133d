import SchemaLinker.Proofs.Rounds

/-!
# `SchemaLinker.Proofs.Isolation`: models do not interfere

All models share one queue, one count of rounds, one list of junctions per
round and one list of diagnostics. Still a resolution of many models is, for
each of them, the resolution that its entities have by themselves.

A resolver seen from one model (`Resolver.Restricts`) has the catalog of
that model only and the part of the queue that belongs to it (`ofModel`).
Three facts carry this view through a round of the whole:

* `receiveAll_only`: an entity changes the catalog of its model and is
  refused or not by that catalog alone (`refusals_only`),
* `junctions_only`: junctions belong to the model that asks for them, and
  only junctions of one model can stand for each other,
* a model that is settled has nothing waiting and asks for nothing, so the
  rounds that others still need leave it as it is (`Restricts.next`).

`exists_settle_of_split` follows all models through all rounds at once. A
model that is not settled has run as many rounds as the whole, and as long
as the whole is not settled there is such a model. So the slowest model
needs as many rounds as all together. `resolve_models` puts it together,
with the diagnostics in the order in which the models first came.
-/

set_option autoImplicit false

namespace SchemaLinker.Resolver

/-- The entities of one model, in order. -/
def ofModel (m : String) (entities : List Entity) : List Entity :=
  entities.filter fun e => e.model == m

/-- An entity of the model stays. -/
theorem ofModel_cons_of_eq {m : String} {e : Entity} (he : e.model = m) (rest : List Entity) :
    ofModel m (e :: rest) = e :: ofModel m rest :=
  List.filter_cons_of_pos (by simpa using he)

/-- One of another model is left out. -/
theorem ofModel_cons_of_ne {m : String} {e : Entity} (he : e.model ≠ m) (rest : List Entity) :
    ofModel m (e :: rest) = ofModel m rest :=
  List.filter_cons_of_neg (by simpa using he)

section Intake

variable (config : ResolverConfig)

/-- The catalog of a model is the same among all catalogs and alone. -/
theorem catalogFor_only (catalogs : OrderedMap String Catalog) (m : String) :
    catalogFor config (catalogs.only m) m = catalogFor config catalogs m := by
  simp only [catalogFor]
  rw [OrderedMap.get?_only]

/-- An entity is received by the catalog of its model. -/
theorem receive_only (catalogs : OrderedMap String Catalog) {m : String} {e : Entity}
    (he : e.model = m) :
    receive config (catalogs.only m) e = (receive config catalogs e).only m := by
  subst he
  simp only [receive]
  rw [catalogFor_only, OrderedMap.insert_only]

/-- An entity of another model leaves the catalog of a model. -/
theorem only_receive_of_ne (catalogs : OrderedMap String Catalog) {m : String} {e : Entity}
    (he : e.model ≠ m) : (receive config catalogs e).only m = catalogs.only m := by
  apply OrderedMap.only_eq_of_get?_eq
  rw [get?_receive, if_neg he.symm]

/-- Of a whole queue, the catalog of a model receives what belongs to the
model. -/
theorem receiveAll_only (catalogs : OrderedMap String Catalog) (queue : List Entity)
    (m : String) :
    receiveAll config (catalogs.only m) (ofModel m queue) =
      (receiveAll config catalogs queue).only m := by
  induction queue generalizing catalogs with
  | nil => rfl
  | cons e rest ih =>
    have hrest := ih (receive config catalogs e)
    by_cases he : e.model = m
    · rw [← receive_only config catalogs he] at hrest
      rw [ofModel_cons_of_eq he]
      exact hrest
    · -- The head goes to another catalog and is not in the model's own queue.
      rw [only_receive_of_ne config catalogs he] at hrest
      rw [ofModel_cons_of_ne he]
      exact hrest

/-- What a model's own queue meets are refusals of the whole queue. -/
theorem refusals_only (catalogs : OrderedMap String Catalog) (queue : List Entity) (m : String) :
    (refusals config (catalogs.only m) (ofModel m queue)).Sublist
      (refusals config catalogs queue) := by
  induction queue generalizing catalogs with
  | nil => exact List.Sublist.refl []
  | cons e rest ih =>
    have hrest := ih (receive config catalogs e)
    rw [refusals]
    by_cases he : e.model = m
    · -- The entity meets the same catalog in both queues.
      rw [← receive_only config catalogs he] at hrest
      rw [ofModel_cons_of_eq he, refusals, he, catalogFor_only]
      cases (catalogFor config catalogs m).add e with
      | added after => exact hrest
      | ignored => exact hrest
      | rejected fault => exact hrest.cons_cons fault
    · -- The entity is in the whole queue only, which may have one refusal more.
      rw [only_receive_of_ne config catalogs he] at hrest
      rw [ofModel_cons_of_ne he]
      cases (catalogFor config catalogs e.model).add e with
      | added after => exact hrest
      | ignored => exact hrest
      | rejected fault => exact hrest.cons fault

end Intake

section Harvest

/-- Only junctions of its own model can stand for a junction. -/
theorem coversTable_ofModel {kept : List Entity} {m : String} {j : Entity} (hj : j.model = m) :
    coversTable (ofModel m kept) j = coversTable kept j := by
  rw [Bool.eq_iff_iff, coversTable_iff, coversTable_iff]
  constructor
  · rintro ⟨i, hi, hshares⟩
    exact ⟨i, (List.mem_filter.1 hi).1, hshares⟩
  · rintro ⟨i, hi, hshares⟩
    refine ⟨i, List.mem_filter.2 ⟨hi, ?_⟩, hshares⟩
    rw [beq_iff_eq, ← hj]
    exact hshares.1

/-- Among junctions of many models, those of one are kept as they are among
themselves. -/
theorem ofModel_foldl_keepNew (m : String) (l kept : List Entity) :
    ofModel m (l.foldl keepNew kept) = (ofModel m l).foldl keepNew (ofModel m kept) := by
  induction l generalizing kept with
  | nil => rfl
  | cons j rest ih =>
    rw [List.foldl_cons, ih]
    by_cases hj : j.model = m
    · -- The junction is dropped or kept in both, for the same ones can stand for it.
      have hkeep : ofModel m (keepNew kept j) = keepNew (ofModel m kept) j := by
        simp only [keepNew]
        rw [coversTable_ofModel hj]
        split
        · rfl
        · simp only [ofModel]
          rw [List.filter_append, List.filter_cons_of_pos (by simpa using hj)]
          rfl
      rw [ofModel_cons_of_eq hj, List.foldl_cons, hkeep]
    · have hkeep : ofModel m (keepNew kept j) = ofModel m kept := by
        simp only [keepNew]
        split
        · rfl
        · simp only [ofModel]
          rw [List.filter_append, List.filter_cons_of_neg (by simpa using hj), List.filter_nil,
            List.append_nil]
      rw [ofModel_cons_of_ne hj, hkeep]

/-- What a catalog asks for belongs to its model. -/
theorem Houses.model_of_mem_made {config : ResolverConfig} {m : String} {c : Catalog}
    (h : Houses config m c) {j : Entity} (hj : j ∈ made config c) : j.model = m := by
  obtain ⟨q, -, hmade⟩ := List.mem_filterMap.1 hj
  exact (h.exists_junctionOf (madeOn?_eq_some_iff.1 hmade)).1

/-- The catalog of a model alone leads to the junctions of that model. -/
theorem junctions_only {config : ResolverConfig} {catalogs : OrderedMap String Catalog}
    (hcatalogs : ∀ m c, catalogs.get? m = some c → Houses config m c) (m : String) :
    (harvest config (catalogs.only m).values).junctions =
      ofModel m (harvest config catalogs.values).junctions := by
  have hmade : ofModel m (catalogs.values.flatMap (made config)) =
      (catalogs.only m).values.flatMap (made config) := by
    refine OrderedMap.filter_flatMap_values fun k c hc j hj => ?_
    rw [beq_iff_eq, (hcatalogs k c hc).model_of_mem_made hj]
  rw [harvest_eq, harvest_eq, ofModel_foldl_keepNew, hmade]
  rfl

/-- The diagnostics of all catalogs are those of the single ones, in the
order of the models. -/
theorem diagnostics_eq_flatMap_only (config : ResolverConfig)
    (catalogs : OrderedMap String Catalog) :
    (harvest config catalogs.values).diagnostics =
      catalogs.keys.flatMap fun m => (harvest config (catalogs.only m).values).diagnostics := by
  simp only [harvest_eq]
  rw [OrderedMap.values_eq_flatMap_only, List.flatMap_assoc]

end Harvest

section Models

/-- The models of some catalogs and a queue, in the order in which they
first come. -/
def modelsOf (catalogs : OrderedMap String Catalog) (queue : List Entity) : List String :=
  (catalogs.keys ++ queue.map Entity.model).eraseDups

/-- A model that is there already adds nothing. -/
theorem eraseDups_append_cons_of_mem {l r : List String} {m : String} (h : m ∈ l) :
    (l ++ m :: r).eraseDups = (l ++ r).eraseDups := by
  have hskip : (m :: r).removeAll l = r.removeAll l := by
    simp only [List.removeAll]
    exact List.filter_cons_of_neg (by simpa using h)
  rw [List.eraseDups_append, List.eraseDups_append, hskip]

/-- Neither do many of them. -/
theorem eraseDups_append_of_subset {l r : List String} (h : ∀ m ∈ r, m ∈ l) :
    (l ++ r).eraseDups = l.eraseDups := by
  induction r with
  | nil => rw [List.append_nil]
  | cons m rest ih =>
    rw [eraseDups_append_cons_of_mem (h m List.mem_cons_self)]
    exact ih fun k hk => h k (List.mem_cons_of_mem _ hk)

/-- Distinct models stay as they are. -/
theorem eraseDups_of_nodup {l : List String} (h : l.Nodup) : l.eraseDups = l := by
  rw [← List.map_id l] at h
  exact firstOfEach_of_nodup h

/-- The models keep their order when the head of the queue is received. -/
theorem modelsOf_receive (config : ResolverConfig) (catalogs : OrderedMap String Catalog)
    (e : Entity) (rest : List Entity) :
    modelsOf (receive config catalogs e) rest = modelsOf catalogs (e :: rest) := by
  simp only [modelsOf, receive]
  rw [OrderedMap.keys_insert, List.map_cons]
  split
  · -- The model of the head has a catalog, so the queue did not bring it.
    rename_i hknown
    rw [eraseDups_append_cons_of_mem hknown]
  · rw [List.append_assoc]
    rfl

/-- Junctions bring no new models. -/
theorem modelsOf_harvest {config : ResolverConfig} {catalogs : OrderedMap String Catalog}
    (hcatalogs : ∀ m c, catalogs.get? m = some c → Houses config m c) :
    modelsOf catalogs (harvest config catalogs.values).junctions = modelsOf catalogs [] := by
  simp only [modelsOf]
  rw [List.map_nil, List.append_nil]
  refine eraseDups_append_of_subset fun m hm => ?_
  -- A junction goes to the catalog that asked for it.
  obtain ⟨j, hj, rfl⟩ := List.mem_map.1 hm
  obtain ⟨c, q, e, t, a, hc, -⟩ := exists_junctionOf_of_mem_junctions hcatalogs hj
  exact OrderedMap.mem_keys_iff.2 ⟨c, hc⟩

/-- A round keeps the models and their order. -/
theorem modelsOf_runRound {r : Resolver} (h : r.Coherent) :
    modelsOf r.runRound.2.catalogs r.runRound.2.waiting = modelsOf r.catalogs r.waiting := by
  -- That junctions bring no new model needs the catalogs under their models.
  have hboth := runRound_preserves (P := fun catalogs queue =>
    (∀ m c, catalogs.get? m = some c → Houses r.config m c) ∧
      modelsOf catalogs queue = modelsOf r.catalogs r.waiting) r ?_ ?_ ⟨h.houses, rfl⟩
  · exact hboth.2
  · rintro catalogs e rest ⟨hhouses, hmodels⟩
    exact ⟨forall_houses_receive r.config hhouses e,
      (modelsOf_receive r.config catalogs e rest).trans hmodels⟩
  · rintro catalogs ⟨hhouses, hmodels⟩
    exact ⟨hhouses, (modelsOf_harvest hhouses).trans hmodels⟩

end Models

/-- The resolver `s` is `r` seen from one model. It may have settled some
rounds ago. -/
structure Restricts (m : String) (r s : Resolver) : Prop where
  coherent : s.Coherent
  config : s.config = r.config
  catalogs : s.catalogs = r.catalogs.only m
  waiting : s.waiting = ofModel m r.waiting
  round : s.isSettled = false → s.round = r.round
  round_le : s.round ≤ r.round
  settled : r.isSettled = true → s.isSettled = true

/-- A resolver after a round, if it needs one. -/
def next (s : Resolver) : Resolver := if s.isSettled then s else s.runRound.2

/-- After a round of the whole, the view from a model that was settled is
the same. -/
theorem Restricts.next_of_settled {m : String} {r s after : Resolver} {report : RoundReport}
    (h : Restricts m r s) (hr : r.Coherent) (hrun : r.runRound = (.ok report, after))
    (hsettled : s.isSettled = true) : Restricts m after s := by
  obtain ⟨hconfig, hcatalogs, hwaiting, hround, -⟩ := after_of_runRound hrun
  obtain ⟨hstable, hnothing⟩ := isSettled_iff.1 hsettled
  have hsame : s.catalogs = after.catalogs.only m := by
    rw [hcatalogs, ← receiveAll_only, ← h.waiting, hnothing, h.catalogs]
    rfl
  refine ⟨h.coherent, h.config.trans hconfig.symm, hsame, ?_, fun hopen => ?_, ?_,
    fun _ => hsettled⟩
  · -- The model asks for nothing, so no junction of it waits.
    have hjunctions := junctions_only (hr.after hrun).houses m
    rw [hconfig, ← hsame, ← h.config, (h.coherent.settled hstable).2, h.config, ← hwaiting]
      at hjunctions
    rw [hnothing]
    exact hjunctions
  · rw [hsettled] at hopen
    cases hopen
  · have hle := h.round_le
    omega

/-- After a round of the whole, the view from a model that was not settled
has run a round, too. -/
theorem Restricts.runRound {m : String} {r s after : Resolver} {report : RoundReport}
    (h : Restricts m r s) (hr : r.Coherent) (hrun : r.runRound = (.ok report, after))
    (hopen : s.isSettled = false) :
    ∃ own s', s.runRound = (.ok own, s') ∧ Restricts m after s' ∧ s'.round = after.round := by
  obtain ⟨hconfig, hcatalogs, hwaiting, hround, hend⟩ := after_of_runRound hrun
  obtain ⟨hlimit, hrefusals⟩ := exists_runRound_eq_ok_iff.1 ⟨report, after, hrun⟩
  -- The model's part of the queue is accepted with the whole.
  have haccepted : refusals s.config s.catalogs s.waiting = [] := by
    have hsub := refusals_only r.config r.catalogs r.waiting m
    rw [hrefusals, ← h.config, ← h.catalogs, ← h.waiting] at hsub
    exact List.sublist_nil.1 hsub
  have hallowed : s.round < s.config.maxRounds := by
    rw [h.round hopen, h.config]
    exact hlimit
  obtain ⟨own, s', hown⟩ := exists_runRound_eq_ok_iff.2 ⟨hallowed, haccepted⟩
  obtain ⟨hsconfig, hscatalogs, hswaiting, hsround, hsend⟩ := after_of_runRound hown
  have hsame : s'.catalogs = after.catalogs.only m := by
    rw [hscatalogs, hcatalogs, ← receiveAll_only, h.config, h.catalogs, h.waiting]
  have hqueue : s'.waiting = ofModel m after.waiting := by
    rw [hswaiting, hsame, h.config, hwaiting, ← hconfig]
    exact junctions_only (hr.after hrun).houses m
  have hrounds : s'.round = after.round := by
    rw [hsround, hround, h.round hopen]
  refine ⟨own, s', hown, ⟨h.coherent.after hown, ?_, hsame, hqueue, fun _ => hrounds,
    Nat.le_of_eq hrounds, fun hdone => ?_⟩, hrounds⟩
  · rw [hsconfig, h.config, hconfig]
  · rw [hsend, hqueue, hend.1 hdone]
    rfl

/-- After a round of the whole, the view from a model is that of its own
next round, and this round can be counted among the rounds left. -/
theorem Restricts.next {m : String} {r s after : Resolver} {report : RoundReport}
    (h : Restricts m r s) (hr : r.Coherent) (hrun : r.runRound = (.ok report, after)) :
    Restricts m after s.next ∧
      (∀ n, settle (n + 1) s = settle n s.next) ∧
      (s.isSettled = false → s.next.round = after.round) := by
  cases hs : s.isSettled with
  | true =>
    have hnext : s.next = s := by simp [Resolver.next, hs]
    rw [hnext]
    refine ⟨h.next_of_settled hr hrun hs, fun n => ?_, fun hopen => by cases hopen⟩
    rw [settle_of_isSettled (n + 1) hs, settle_of_isSettled n hs]
  | false =>
    obtain ⟨own, s', hown, hafter, hround⟩ := h.runRound hr hrun hs
    have hnext : s.next = s' := by simp [Resolver.next, hs, hown]
    rw [hnext]
    exact ⟨hafter, fun n => settle_of_runRound n hs hown, fun _ => hround⟩

/-- The resolver `r` took some entities in, and for each model `part` is the
resolver that took in those of the model. -/
structure Split (entities : List Entity) (r : Resolver) (part : String → Resolver) : Prop where
  coherent : r.Coherent
  models : modelsOf r.catalogs r.waiting = (entities.map Entity.model).eraseDups
  restricts : ∀ m, Restricts m r (part m)
  /-- Only an entity that waits keeps the whole from being settled. -/
  waiting : entities ≠ [] → r.isSettled = false → r.waiting ≠ []
  /-- One of the models has run all rounds. -/
  slowest : entities ≠ [] → ∃ e ∈ entities, (part e.model).round = r.round

/-- Entities of one model are submitted to a resolver of their own. -/
theorem restricts_submitAll (config : ResolverConfig) (entities : List Entity) (m : String) :
    Restricts m (submitAll config entities) (submitAll config (ofModel m entities)) := by
  have hcoherent := coherent_submitAll config (ofModel m entities)
  rw [submitAll_eq] at hcoherent ⊢
  rw [submitAll_eq]
  exact
    { coherent := hcoherent
      config := rfl
      catalogs := rfl
      waiting := rfl
      round := fun _ => rfl
      round_le := Nat.le_refl 0
      settled := fun hsettled => nomatch hsettled }

/-- Before the first round nothing but the queue has been split. -/
theorem split_submitAll (config : ResolverConfig) (entities : List Entity) :
    Split entities (submitAll config entities) fun m =>
      submitAll config (ofModel m entities) where
  coherent := coherent_submitAll config entities
  models := by
    rw [submitAll_eq]
    rfl
  restricts := restricts_submitAll config entities
  waiting hne _ := by
    rw [submitAll_eq]
    exact hne
  slowest hne := by
    obtain ⟨e, he⟩ := List.exists_mem_of_ne_nil entities hne
    refine ⟨e, he, ?_⟩
    rw [submitAll_eq, submitAll_eq]

/-- While the whole is not settled, neither is one of the models. -/
theorem Split.exists_open {entities : List Entity} {r : Resolver} {part : String → Resolver}
    (h : Split entities r part) (hne : entities ≠ []) (hopen : r.isSettled = false) :
    ∃ e ∈ entities, (part e.model).isSettled = false := by
  obtain ⟨j, rest, hwaiting⟩ := List.exists_cons_of_ne_nil (h.waiting hne hopen)
  have hj : j ∈ r.waiting := hwaiting ▸ List.mem_cons_self
  -- What waits belongs to one of the models that were submitted.
  have hmodel : j.model ∈ (entities.map Entity.model).eraseDups := by
    rw [← h.models]
    simp only [modelsOf]
    exact List.mem_eraseDups.2 (List.mem_append_right _ (List.mem_map_of_mem hj))
  obtain ⟨e, he, hsame⟩ := List.mem_map.1 (List.mem_eraseDups.1 hmodel)
  refine ⟨e, he, Bool.eq_false_iff.2 fun hsettled => ?_⟩
  have hown : j ∈ (part e.model).waiting := by
    rw [(h.restricts e.model).waiting]
    exact List.mem_filter.2 ⟨hj, beq_iff_eq.2 hsame.symm⟩
  rw [(isSettled_iff.1 hsettled).2] at hown
  cases hown

/-- After a round of the whole, the models have run the rounds that they
need. -/
theorem Split.runRound {entities : List Entity} {r after : Resolver}
    {part : String → Resolver} {report : RoundReport} (h : Split entities r part)
    (hopen : r.isSettled = false) (hrun : r.runRound = (.ok report, after)) :
    Split entities after fun m => (part m).next := by
  have hafter : r.runRound.2 = after := by rw [hrun]
  obtain ⟨-, -, -, -, hend⟩ := after_of_runRound hrun
  have hnext := fun m => (h.restricts m).next h.coherent hrun
  refine ⟨h.coherent.after hrun, ?_, fun m => (hnext m).1, fun _ hstill hnothing => ?_,
    fun hne => ?_⟩
  · rw [← hafter, modelsOf_runRound h.coherent]
    exact h.models
  · rw [hend.2 hnothing] at hstill
    cases hstill
  · -- A model that was not settled has run this round with the whole.
    obtain ⟨e, he, heopen⟩ := h.exists_open hne hopen
    exact ⟨e, he, (hnext e.model).2.2 heopen⟩

/-- When the whole settles within some rounds, so does every model. -/
theorem exists_settle_of_split {n : Nat} {r s : Resolver} (h : settle n r = .ok s)
    {entities : List Entity} {part : String → Resolver} (hsplit : Split entities r part) :
    ∃ part', Split entities s part' ∧ ∀ m, settle n (part m) = .ok (part' m) := by
  refine settle_induction (P := fun n r => ∀ part, Split entities r part →
    ∃ part', Split entities s part' ∧ ∀ m, settle n (part m) = .ok (part' m)) ?_ ?_ h part hsplit
  · intro hsettled n part hsplit
    exact ⟨part, hsplit, fun m => settle_of_isSettled n ((hsplit.restricts m).settled hsettled)⟩
  · -- Every model goes on from its own next state.
    intro n r report after hopen hrun ih part hsplit
    obtain ⟨part', hend, hsettle⟩ := ih _ (hsplit.runRound hopen hrun)
    refine ⟨part', hend, fun m => ?_⟩
    rw [((hsplit.restricts m).next hsplit.coherent hrun).2.1 n]
    exact hsettle m

/-- The diagnostics of the whole are those of the models, in the order in
which the models first came. -/
theorem Split.diagnostics {entities : List Entity} {r : Resolver} {part : String → Resolver}
    (h : Split entities r part) (hstable : r.state = .stable)
    (hparts : ∀ m, (part m).state = .stable) :
    r.diagnostics =
      (entities.map Entity.model).eraseDups.flatMap fun m => (part m).diagnostics := by
  obtain ⟨hnothing, hharvest⟩ := h.coherent.settled hstable
  have hmodels : (entities.map Entity.model).eraseDups = r.catalogs.keys := by
    rw [← h.models, hnothing]
    simp only [modelsOf]
    rw [List.map_nil, List.append_nil]
    exact eraseDups_of_nodup r.catalogs.distinct
  have hpart : (fun m => (part m).diagnostics) =
      fun m => (harvest r.config (r.catalogs.only m).values).diagnostics := by
    funext m
    have hrestricts := h.restricts m
    obtain ⟨-, hown⟩ := hrestricts.coherent.settled (hparts m)
    rw [← hrestricts.config, ← hrestricts.catalogs, hown]
  rw [hmodels, hpart, ← diagnostics_eq_flatMap_only, hharvest]

/-- Let the entities of any models be resolved together. Then the entities
of every model alone are resolved, too. Each model has the same catalog in
both resolutions, the diagnostics of all are those of the single models, in
the order in which the models first came, and all together need as many
rounds as the model that needs the most. -/
theorem resolve_models {config : ResolverConfig} {entities : List Entity} {res : Resolution}
    (h : (submitAll config entities).resolve = .ok res) :
    ∃ part : String → Resolution,
      (∀ m, (submitAll config (ofModel m entities)).resolve = .ok (part m)) ∧
      (∀ m, (part m).catalogs.get? m = res.catalogs.get? m) ∧
      res.diagnostics =
        (entities.map Entity.model).eraseDups.flatMap (fun m => (part m).diagnostics) ∧
      (∀ m, (part m).rounds ≤ res.rounds) ∧
      (entities ≠ [] → ∃ e ∈ entities, (part e.model).rounds = res.rounds) := by
  obtain ⟨s, hs, rfl⟩ := resolve_submitAll_eq_ok_iff.1 h
  obtain ⟨part, hend, hparts⟩ := exists_settle_of_split hs (split_submitAll config entities)
  refine ⟨fun m => (part m).resolution,
    fun m => resolve_submitAll_eq_ok_iff.2 ⟨part m, hparts m, rfl⟩, fun m => ?_, ?_,
    fun m => (hend.restricts m).round_le, hend.slowest⟩
  · show (part m).catalogs.get? m = s.catalogs.get? m
    rw [(hend.restricts m).catalogs, OrderedMap.get?_only]
  · exact hend.diagnostics (settle_eq_ok hs).2 fun m => (settle_eq_ok (hparts m)).2

/-- A phone in stock comes between a person and a group of the staff, and
its owner is looked for in stock only. The stock alone is done after one
round, the staff and all together after two. -/
theorem resolve_models_staff_stock :
    let owner : Attribute :=
      { Attribute.column "owner" (.named ⟨["Person"]⟩) with cardinality := some .manyToOne }
    let phone : EntityDraft :=
      { EntityDraft.ofType ⟨["Phone"]⟩ with model := some "stock", attributes := [owner] }
    let staff := membership.map fun d => { d with model := some "staff" }
    let entities := EntityDraft.buildAll (staff.take 1 ++ phone :: staff.drop 1)
    ∃ res, (submitAll .standard entities).resolve = .ok res ∧
      res.rounds = 2 ∧
      res.diagnostics.map toString =
        ["warning: PersonGroup::PersonId: couldn't find referenced key attribute on `Person`",
          "warning: PersonGroup::GroupId: couldn't find referenced key attribute on `Group`",
          "warning: Phone::owner: couldn't find referenced element `Person`"] ∧
      ∃ part : String → Resolution,
        (∀ m, (submitAll .standard (ofModel m entities)).resolve = .ok (part m)) ∧
        (∀ m, (part m).catalogs.get? m = res.catalogs.get? m) ∧
        res.diagnostics = ["staff", "stock"].flatMap (fun m => (part m).diagnostics) ∧
        (∀ m, (part m).rounds ≤ res.rounds) ∧
        (∃ e ∈ entities, (part e.model).rounds = res.rounds) ∧
        (part "stock").rounds = 1 := by
  intro owner phone staff entities
  have hrun : ((submitAll .standard entities).resolve.toOption.any fun res =>
      res.rounds == 2 && decide (res.diagnostics.map toString =
        ["warning: PersonGroup::PersonId: couldn't find referenced key attribute on `Person`",
          "warning: PersonGroup::GroupId: couldn't find referenced key attribute on `Group`",
          "warning: Phone::owner: couldn't find referenced element `Person`"])) = true := by
    decide +kernel
  have hstock : ((submitAll .standard (ofModel "stock" entities)).resolve.toOption.any fun own =>
      own.rounds == 1) = true := by
    decide +kernel
  have hmodels : (entities.map Entity.model).eraseDups = ["staff", "stock"] := by decide +kernel
  have hne : entities ≠ [] := List.ne_nil_of_length_pos (by decide +kernel)
  obtain ⟨res, h, htest⟩ := exists_ok_of_any_toOption hrun
  rw [Bool.and_eq_true, beq_iff_eq, decide_eq_true_eq] at htest
  obtain ⟨part, hparts, hcatalogs, hdiagnostics, hle, hslowest⟩ := resolve_models h
  rw [hmodels] at hdiagnostics
  rw [hparts "stock"] at hstock
  exact ⟨res, h, htest.1, htest.2, part, hparts, hcatalogs, hdiagnostics, hle, hslowest hne,
    beq_iff_eq.1 hstock⟩

end SchemaLinker.Resolver
