import SchemaLinker.Proofs.Reference
import SchemaLinker.Resolution.Resolver

/-!
# `SchemaLinker.Proofs.Intake`: what comes into the catalogs, entity by entity

`Catalog.add_cases` says everything that `Catalog.add` may do. The
catalog afterwards, `Catalog.receive`, is the old one or the old one with
the flattened entity at its end.

`Resolver.takeIn` goes through the waiting entities up to the first that
is refused. Each one it meets changes one catalog: `Resolver.receive`. So a
fact about the catalogs and the queue holds after an intake if it
survives when the head of the queue is received (`takeIn_preserves`).
`Intake.behind` is the queue that an intake leaves.

Received from end to end, a queue leads to the catalogs
`Resolver.receiveAll` and meets the `Resolver.refusals`. An intake that
stops has met the first of them, and what it leaves behind leads to the
same catalogs and meets the others (`receiveAll_takeIn`, `refusals_takeIn`).
What was refused is one entity of the queue (`exists_rejected_of_takeIn`), and
an intake that accepts a queue goes on with what stands behind it
(`takeIn_append`). All of them go by the head of the queue, which is passed or
stops the intake (`takeIn_cons_cases`).

An entity that resolution made is never refused by the catalog of its
model (`takeIn_refusal_eq_none`).
-/

set_option autoImplicit false

namespace SchemaLinker

namespace Catalog

/-- An attempt to take an entity in has three outcomes. It adds the
flattened entity, which belongs to the model, passes `Entity.verify` and
has a new type. It ignores the entity, whose type is resident. Or it
refuses it, and then the entity was not made by resolution, does not
belong to the model or does not pass `Entity.verify`. -/
theorem add_cases (c : Catalog) (e : Entity) :
    (∃ hnew : c.entity? (c.embeddables.flatten e).ty = none,
      e.model = c.model ∧ e.verify = .ok () ∧
        c.add e = .added (c.append (c.embeddables.flatten e) hnew)) ∨
    (∃ resident, c.entity? e.ty = some resident ∧ e.model = c.model ∧ e.verify = .ok () ∧
      (resident.agrees (c.embeddables.flatten e) ∨ e.synthesized) ∧ c.add e = .ignored) ∨
    (∃ fault, (e.model = c.model → e.verify = .ok () → e.synthesized = false) ∧
      c.add e = .rejected fault) := by
  by_cases hm : e.model = c.model
  · cases hv : e.verify with
    | error fault =>
      refine Or.inr (Or.inr ⟨fault, ?_, add_of_verify_error hm hv⟩)
      intro _ h
      cases h
    | ok u =>
      -- Flattening keeps the type, so what is new or resident is the entity's own.
      by_cases hnew : c.entity? (c.embeddables.flatten e).ty = none
      · exact Or.inl ⟨hnew, hm, rfl, add_of_new hm hv hnew⟩
      · obtain ⟨resident, hr⟩ := Option.ne_none_iff_exists'.1 hnew
        have hadd := add_of_resident hm hv hr
        rw [Embeddables.flatten_ty] at hr
        split at hadd
        · rename_i hsame
          rw [Bool.or_eq_true, Embeddables.flatten_synthesized] at hsame
          exact Or.inr (Or.inl ⟨resident, hr, hm, rfl, hsame, hadd⟩)
        · rename_i hdiffers
          rw [Bool.or_eq_true, Embeddables.flatten_synthesized, not_or] at hdiffers
          exact Or.inr (Or.inr ⟨_, fun _ _ => Bool.eq_false_iff.2 hdiffers.2, hadd⟩)
  · exact Or.inr (Or.inr ⟨_, fun h => absurd h hm, add_of_foreign hm⟩)

/-- The catalog after an attempt to take an entity in. -/
def receive (c : Catalog) (e : Entity) : Catalog := (c.add e).catalog c

/-- The catalog after an attempt is the old one, or has the flattened
entity at its end. -/
theorem receive_cases (c : Catalog) (e : Entity) :
    c.receive e = c ∨
    ∃ hnew : c.entity? (c.embeddables.flatten e).ty = none,
      e.model = c.model ∧ e.verify = .ok () ∧
        c.receive e = c.append (c.embeddables.flatten e) hnew := by
  simp only [receive]
  rcases add_cases c e with ⟨hnew, hm, hv, h⟩ | ⟨resident, -, -, -, -, h⟩ | ⟨fault, -, h⟩
  · rw [h]
    exact Or.inr ⟨hnew, hm, hv, rfl⟩
  · rw [h]
    exact Or.inl rfl
  · rw [h]
    exact Or.inl rfl

/-- An arrival does not change the model of a catalog. -/
@[simp] theorem receive_model (c : Catalog) (e : Entity) : (c.receive e).model = c.model := by
  rcases receive_cases c e with h | ⟨hnew, -, -, h⟩ <;> rw [h]
  rfl

/-- It does not change the policy. -/
@[simp] theorem receive_policy (c : Catalog) (e : Entity) : (c.receive e).policy = c.policy := by
  rcases receive_cases c e with h | ⟨hnew, -, -, h⟩ <;> rw [h]
  rfl

/-- It does not change the embeddables. -/
@[simp] theorem receive_embeddables (c : Catalog) (e : Entity) :
    (c.receive e).embeddables = c.embeddables := by
  rcases receive_cases c e with h | ⟨hnew, -, -, h⟩ <;> rw [h]
  rfl

/-- A resident of the catalog after an attempt was there before, or is
the flattened entity. -/
theorem mem_receive {c : Catalog} {e f : Entity} (h : f ∈ (c.receive e).entities) :
    f ∈ c.entities ∨ (f = c.embeddables.flatten e ∧ e.model = c.model) := by
  rcases receive_cases c e with hsame | ⟨hnew, hm, -, happ⟩
  · rw [hsame] at h
    exact Or.inl h
  · rw [happ] at h
    rcases List.mem_append.1 h with hold | hlast
    · exact Or.inl hold
    · exact Or.inr ⟨List.mem_singleton.1 hlast, hm⟩

/-- A keyed catalog stays keyed when a keyed entity is received. -/
theorem AllKeyed.receive {c : Catalog} (hc : c.AllKeyed) {e : Entity} (he : e.Keyed) :
    (c.receive e).AllKeyed := by
  intro f hf
  rcases mem_receive hf with hold | ⟨rfl, -⟩
  · exact hc f hold
  · exact Embeddables.keyed_flatten _ he

/-- Residents stay. -/
theorem mem_receive_of_mem {c : Catalog} (e : Entity) {f : Entity} (h : f ∈ c.entities) :
    f ∈ (c.receive e).entities := by
  rcases receive_cases c e with hsame | ⟨hnew, -, -, happ⟩
  · rw [hsame]
    exact h
  · rw [happ]
    exact List.mem_append_left _ h

/-- Residents keep their places. -/
theorem isPrefix_receive (c : Catalog) (e : Entity) : c.entities <+: (c.receive e).entities := by
  rcases receive_cases c e with hsame | ⟨hnew, -, -, happ⟩
  · exact ⟨[], by rw [hsame, List.append_nil]⟩
  · exact ⟨[c.embeddables.flatten e], by rw [happ]; rfl⟩

/-- A table stays vacant when an entity of another table is received. -/
theorem entitiesOfTable_receive_eq_nil {c : Catalog} {e : Entity} {table : String}
    (h : c.entitiesOfTable table = [])
    (hother : e.model = c.model → ¬Text.sameFolded e.tableName table = true) :
    (c.receive e).entitiesOfTable table = [] := by
  refine List.eq_nil_iff_forall_not_mem.2 fun f hf => ?_
  obtain ⟨hmem, htable⟩ := mem_entitiesOfTable.1 hf
  rcases mem_receive hmem with hold | ⟨rfl, hmodel⟩
  · have hresident : f ∈ c.entitiesOfTable table := mem_entitiesOfTable.2 ⟨hold, htable⟩
    rw [h] at hresident
    cases hresident
  · rw [Embeddables.flatten_tableName] at htable
    exact hother hmodel htable

end Catalog

/-- The entities that an intake leaves in the queue. -/
def Intake.behind (intake : Intake) : List Entity :=
  match intake.refusal with
  | none => []
  | some (_, rest) => rest

/-- Where nothing is refused, nothing is left behind. -/
theorem Intake.behind_eq_nil {intake : Intake} (h : intake.refusal = none) :
    intake.behind = [] := by
  simp only [behind]
  rw [h]

namespace Resolver

/-- The catalogs after the attempt to take one entity in. -/
def receive (config : ResolverConfig) (catalogs : OrderedMap String Catalog) (e : Entity) :
    OrderedMap String Catalog :=
  catalogs.insert e.model ((catalogFor config catalogs e.model).receive e)

variable (config : ResolverConfig)

/-- One step of an intake, by what the catalog of the entity's model
answers. -/
theorem takeIn_cons (catalogs : OrderedMap String Catalog) (n : Nat) (e : Entity)
    (rest : List Entity) :
    takeIn config catalogs n (e :: rest) =
      match (catalogFor config catalogs e.model).add e with
      | .added _ => takeIn config (receive config catalogs e) (n + 1) rest
      | .ignored => takeIn config (receive config catalogs e) n rest
      | .rejected fault => ⟨receive config catalogs e, n, some (fault, rest)⟩ := by
  simp only [receive, Catalog.receive]
  rw [takeIn]
  cases h : (catalogFor config catalogs e.model).add e <;> rfl

/-- The catalogs after a whole queue was received in order. An entity that
its catalog refuses is passed over. -/
def receiveAll (catalogs : OrderedMap String Catalog) (queue : List Entity) :
    OrderedMap String Catalog :=
  queue.foldl (receive config) catalogs

/-- The faults with which entities are refused while a whole queue is
received in order. -/
def refusals : (catalogs : OrderedMap String Catalog) → List Entity → List Fault
  | _, [] => []
  | catalogs, e :: rest =>
    match (catalogFor config catalogs e.model).add e with
    | .added _ => refusals (receive config catalogs e) rest
    | .ignored => refusals (receive config catalogs e) rest
    | .rejected fault => fault :: refusals (receive config catalogs e) rest

/-- The head of a queue is passed, or it is refused and the intake stops. This
does not depend on what stands behind it. -/
theorem takeIn_cons_cases (catalogs : OrderedMap String Catalog) (n : Nat) (e : Entity) :
    (∃ m, ∀ rest,
      takeIn config catalogs n (e :: rest) = takeIn config (receive config catalogs e) m rest ∧
        refusals config catalogs (e :: rest) = refusals config (receive config catalogs e) rest) ∨
    ∃ fault, (catalogFor config catalogs e.model).add e = .rejected fault ∧ ∀ rest,
      takeIn config catalogs n (e :: rest) =
          ⟨receive config catalogs e, n, some (fault, rest)⟩ ∧
        refusals config catalogs (e :: rest) =
          fault :: refusals config (receive config catalogs e) rest := by
  cases hadd : (catalogFor config catalogs e.model).add e with
  | added after =>
    refine Or.inl ⟨n + 1, fun rest => ?_⟩
    rw [takeIn_cons, refusals, hadd]
    exact ⟨rfl, rfl⟩
  | ignored =>
    refine Or.inl ⟨n, fun rest => ?_⟩
    rw [takeIn_cons, refusals, hadd]
    exact ⟨rfl, rfl⟩
  | rejected fault =>
    refine Or.inr ⟨fault, rfl, fun rest => ?_⟩
    rw [takeIn_cons, refusals, hadd]
    exact ⟨rfl, rfl⟩

/-- A fact about the catalogs and the queue holds after an intake if it
survives when the head of the queue is received. -/
theorem takeIn_preserves {P : OrderedMap String Catalog → List Entity → Prop}
    (hstep : ∀ catalogs e rest, P catalogs (e :: rest) → P (receive config catalogs e) rest)
    (catalogs : OrderedMap String Catalog) (n : Nat) (queue : List Entity)
    (h : P catalogs queue) :
    P (takeIn config catalogs n queue).catalogs (takeIn config catalogs n queue).behind := by
  induction queue generalizing catalogs n with
  | nil => exact h
  | cons e rest ih =>
    have hnext := hstep catalogs e rest h
    rcases takeIn_cons_cases config catalogs n e with ⟨m, hpass⟩ | ⟨fault, -, hstop⟩
    · rw [(hpass rest).1]
      exact ih _ m hnext
    · rw [(hstop rest).1]
      exact hnext

/-- Where nothing is refused, the fact holds of an empty queue. -/
theorem takeIn_preserves_of_accepted {P : OrderedMap String Catalog → List Entity → Prop}
    (hstep : ∀ catalogs e rest, P catalogs (e :: rest) → P (receive config catalogs e) rest)
    {catalogs : OrderedMap String Catalog} {n : Nat} {queue : List Entity}
    (haccepted : (takeIn config catalogs n queue).refusal = none) (h : P catalogs queue) :
    P (takeIn config catalogs n queue).catalogs [] := by
  have hintake := takeIn_preserves config hstep catalogs n queue h
  rw [Intake.behind_eq_nil haccepted] at hintake
  exact hintake

/-- A longer queue meets the refusals of its parts. -/
theorem refusals_append (catalogs : OrderedMap String Catalog) (queue later : List Entity) :
    refusals config catalogs (queue ++ later) =
      refusals config catalogs queue ++
        refusals config (receiveAll config catalogs queue) later := by
  induction queue generalizing catalogs with
  | nil => rfl
  | cons e rest ih =>
    rw [List.cons_append, refusals, refusals]
    cases (catalogFor config catalogs e.model).add e with
    | added after => exact ih _
    | ignored => exact ih _
    | rejected fault => exact congrArg (fault :: ·) (ih _)

/-- An intake stops with the first refusal, and what it leaves behind meets the
others. -/
theorem refusals_takeIn (catalogs : OrderedMap String Catalog) (n : Nat) (queue : List Entity) :
    refusals config catalogs queue =
      match (takeIn config catalogs n queue).refusal with
      | none => []
      | some (fault, behind) =>
        fault :: refusals config (takeIn config catalogs n queue).catalogs behind := by
  induction queue generalizing catalogs n with
  | nil => rfl
  | cons e rest ih =>
    rcases takeIn_cons_cases config catalogs n e with ⟨m, hpass⟩ | ⟨fault, -, hstop⟩
    · rw [(hpass rest).1, (hpass rest).2]
      exact ih _ m
    · rw [(hstop rest).1, (hstop rest).2]

/-- Receiving what an intake leaves behind completes the queue. -/
theorem receiveAll_takeIn (catalogs : OrderedMap String Catalog) (n : Nat) (queue : List Entity) :
    receiveAll config (takeIn config catalogs n queue).catalogs
      (takeIn config catalogs n queue).behind = receiveAll config catalogs queue :=
  takeIn_preserves config
    (P := fun now rest => receiveAll config now rest = receiveAll config catalogs queue)
    (fun _ _ _ h => h) catalogs n queue rfl

/-- An intake accepts the queue when nothing in it is refused. -/
theorem refusal_takeIn_eq_none_iff {catalogs : OrderedMap String Catalog} {n : Nat}
    {queue : List Entity} :
    (takeIn config catalogs n queue).refusal = none ↔ refusals config catalogs queue = [] := by
  rw [refusals_takeIn config catalogs n queue]
  cases (takeIn config catalogs n queue).refusal with
  | none => exact iff_of_true rfl rfl
  | some refusal => exact iff_of_false nofun nofun

/-- An intake that accepts the queue has received it. -/
theorem catalogs_takeIn_of_accepted {catalogs : OrderedMap String Catalog} {n : Nat}
    {queue : List Entity} (h : (takeIn config catalogs n queue).refusal = none) :
    (takeIn config catalogs n queue).catalogs = receiveAll config catalogs queue := by
  rw [← receiveAll_takeIn config catalogs n queue, Intake.behind_eq_nil h]
  rfl

/-- An intake that accepts a queue goes on with what stands behind it. -/
theorem takeIn_append {catalogs : OrderedMap String Catalog} {n : Nat} {queue : List Entity}
    (haccepted : (takeIn config catalogs n queue).refusal = none) (later : List Entity) :
    takeIn config catalogs n (queue ++ later) =
      takeIn config (receiveAll config catalogs queue) (takeIn config catalogs n queue).inserted
        later := by
  induction queue generalizing catalogs n with
  | nil => rfl
  | cons e rest ih =>
    -- Both intakes pass the head in the same way, since it is not refused.
    rcases takeIn_cons_cases config catalogs n e with ⟨m, hpass⟩ | ⟨fault, -, hstop⟩
    · rw [(hpass rest).1] at haccepted ⊢
      rw [List.cons_append, (hpass (rest ++ later)).1]
      exact ih haccepted
    · rw [(hstop rest).1] at haccepted
      cases haccepted

/-- An intake that stops has received the queue up to an entity that its catalog
refuses. -/
theorem exists_rejected_of_takeIn {catalogs : OrderedMap String Catalog} {n : Nat}
    {queue behind : List Entity} {fault : Fault}
    (hrefusal : (takeIn config catalogs n queue).refusal = some (fault, behind)) :
    ∃ before e, queue = before ++ e :: behind ∧
      (catalogFor config (receiveAll config catalogs before) e.model).add e = .rejected fault ∧
      (takeIn config catalogs n queue).catalogs =
        receiveAll config catalogs (before ++ [e]) := by
  induction queue generalizing catalogs n with
  | nil => cases hrefusal
  | cons e rest ih =>
    rcases takeIn_cons_cases config catalogs n e with ⟨m, hpass⟩ | ⟨fault, hrejected, hstop⟩
    · rw [(hpass rest).1] at hrefusal ⊢
      obtain ⟨before, f, hsplit, hrejected, hcatalogs⟩ := ih hrefusal
      exact ⟨e :: before, f, congrArg (e :: ·) hsplit, hrejected, hcatalogs⟩
    · rw [(hstop rest).1] at hrefusal ⊢
      cases hrefusal
      exact ⟨[], e, rfl, hrejected, rfl⟩

/-- The catalogs of the other models stay as they are. -/
theorem get?_receive (catalogs : OrderedMap String Catalog) (e : Entity) (m : String) :
    (receive config catalogs e).get? m =
      if m = e.model then some ((catalogFor config catalogs m).receive e) else catalogs.get? m := by
  simp only [receive]
  rw [OrderedMap.get?_insert]
  split
  · rename_i hm
    rw [hm]
  · rfl

/-- A model that is known has its catalog. -/
theorem catalogFor_of_get? {catalogs : OrderedMap String Catalog} {m : String} {c : Catalog}
    (h : catalogs.get? m = some c) : catalogFor config catalogs m = c := by
  simp only [catalogFor]
  rw [h]
  rfl

/-- Any other has an empty one. -/
theorem catalogFor_of_get?_eq_none {catalogs : OrderedMap String Catalog} {m : String}
    (h : catalogs.get? m = none) :
    catalogFor config catalogs m = .empty m config.policy config.embeddables := by
  simp only [catalogFor]
  rw [h]
  rfl

/-- An arrival goes to the catalog of its model. -/
theorem catalogFor_receive (catalogs : OrderedMap String Catalog) (e : Entity) (m : String) :
    catalogFor config (receive config catalogs e) m =
      if m = e.model then (catalogFor config catalogs m).receive e
      else catalogFor config catalogs m := by
  simp only [catalogFor]
  rw [get?_receive]
  split <;> rfl

/-- A fact about single catalogs holds of all after one entity was
received if it held of all, holds of an empty catalog, and survives when
the catalog of its model receives the entity. -/
theorem forall_get?_receive {P : String → Catalog → Prop} {catalogs : OrderedMap String Catalog}
    (hempty : ∀ m, P m (.empty m config.policy config.embeddables))
    {e : Entity} (hreceive : ∀ c, P e.model c → P e.model (c.receive e))
    (h : ∀ m c, catalogs.get? m = some c → P m c) :
    ∀ m c, (receive config catalogs e).get? m = some c → P m c := by
  intro m c hc
  rw [get?_receive] at hc
  split at hc
  · rename_i hm
    subst hm
    cases hc
    apply hreceive
    -- The catalog that receives was kept before, or it is a new one.
    cases hold : catalogs.get? e.model with
    | none =>
      rw [catalogFor_of_get?_eq_none config hold]
      exact hempty _
    | some old =>
      rw [catalogFor_of_get? config hold]
      exact h _ _ hold
  · exact h m c hc

/-- A catalog as a resolver keeps it under a model: it has the resolver's
choices, and all its entities belong to the model. -/
structure Houses (m : String) (c : Catalog) : Prop where
  model : c.model = m
  policy : c.policy = config.policy
  embeddables : c.embeddables = config.embeddables
  members : ∀ e ∈ c.entities, e.model = m

/-- An empty catalog has no entity of another model. -/
theorem houses_empty (m : String) :
    Houses config m (.empty m config.policy config.embeddables) where
  model := rfl
  policy := rfl
  embeddables := rfl
  members e he := by cases he

/-- With an arrival a catalog stays one of its model. -/
theorem houses_receive {m : String} {c : Catalog} (h : Houses config m c) (e : Entity) :
    Houses config m (c.receive e) where
  model := by rw [Catalog.receive_model, h.model]
  policy := by rw [Catalog.receive_policy, h.policy]
  embeddables := by rw [Catalog.receive_embeddables, h.embeddables]
  members f hf := by
    rcases Catalog.mem_receive hf with hold | ⟨rfl, hm⟩
    · exact h.members f hold
    · rw [Embeddables.flatten_model, hm, h.model]

/-- Every catalog stays one that the resolver keeps under its model. -/
theorem forall_houses_receive {catalogs : OrderedMap String Catalog}
    (h : ∀ m c, catalogs.get? m = some c → Houses config m c) (e : Entity) :
    ∀ m c, (receive config catalogs e).get? m = some c → Houses config m c :=
  forall_get?_receive config (houses_empty config) (fun _ hc => houses_receive config hc e) h

/-- The catalog for a model is one that the resolver keeps there, also if
the model is new. -/
theorem houses_catalogFor {catalogs : OrderedMap String Catalog}
    (h : ∀ m c, catalogs.get? m = some c → Houses config m c) (m : String) :
    Houses config m (catalogFor config catalogs m) := by
  cases hc : catalogs.get? m with
  | none =>
    rw [catalogFor_of_get?_eq_none config hc]
    exact houses_empty config m
  | some c =>
    rw [catalogFor_of_get? config hc]
    exact h m c hc

/-- Entities that resolution made and that pass `Entity.verify` come in
without a refusal. -/
theorem takeIn_refusal_eq_none {catalogs : OrderedMap String Catalog}
    (hcatalogs : ∀ m c, catalogs.get? m = some c → Houses config m c) (n : Nat)
    {queue : List Entity} (hqueue : ∀ e ∈ queue, e.synthesized ∧ e.verify = .ok ()) :
    (takeIn config catalogs n queue).refusal = none := by
  induction queue generalizing catalogs n with
  | nil => rfl
  | cons e rest ih =>
    have hnext := forall_houses_receive config hcatalogs e
    have hrest : ∀ f ∈ rest, f.synthesized ∧ f.verify = .ok () := fun f hf =>
      hqueue f (List.mem_cons_of_mem _ hf)
    obtain ⟨hsynth, hverify⟩ := hqueue e List.mem_cons_self
    have hmodel := (houses_catalogFor config hcatalogs e.model).model
    rw [takeIn_cons]
    rcases Catalog.add_cases (catalogFor config catalogs e.model) e with
      ⟨hnew, -, -, h⟩ | ⟨resident, -, -, -, -, h⟩ | ⟨fault, hno, h⟩
    · rw [h]
      exact ih hnext _ hrest
    · rw [h]
      exact ih hnext _ hrest
    · -- A refusal of a verified entity of the model says that it was declared.
      rw [hno hmodel.symm hverify] at hsynth
      cases hsynth

end Resolver

end SchemaLinker
