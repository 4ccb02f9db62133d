import Mathlib.Data.List.Induction
import SchemaLinker.Proofs.Intake

/-!
# `SchemaLinker.Proofs.Assembly`: catalogs put together from a list of entities

`Catalog.assemble` adds the entities of a list, one after the other, to a
catalog that starts empty. Entities that the catalog refuses or knows
already leave no trace.

Of the entities of the catalog's model that pass `Entity.verify` the first of
each type comes in, flattened and in order (`entities_assemble`). So a
rearranged list of entities with distinct types gives a rearranged catalog
(`perm_entities_assemble`).

The policy plays no part in what comes in: catalogs that are assembled
from one list under two policies differ in nothing else
(`assemble_withPolicy`).
-/

set_option autoImplicit false

namespace SchemaLinker.Catalog

/-- The catalog after attempts to take in the entities of a list. -/
def receiveAll (c : Catalog) (entities : List Entity) : Catalog := entities.foldl receive c

/-- The catalog of a model to which the entities of a list were added. -/
def assemble (model : String) (policy : NamePolicy) (t : Embeddables) (entities : List Entity) :
    Catalog :=
  (Catalog.empty model policy t).receiveAll entities

/-- Whether an entity belongs to the catalog's model and passes
`Entity.verify`. -/
def admits (c : Catalog) (e : Entity) : Bool := e.model == c.model && e.verify.isOk

/-- A catalog admits the verified entities of its model. -/
theorem admits_iff {c : Catalog} {e : Entity} :
    c.admits e = true ↔ e.model = c.model ∧ e.verify = .ok () := by
  simp only [admits]
  rw [Bool.and_eq_true, beq_iff_eq]
  cases e.verify with
  | error fault => simp [Except.isOk, Except.toBool]
  | ok u => simp [Except.isOk, Except.toBool]

/-- Flattening keeps the types of entities. -/
theorem map_ty_map_flatten (t : Embeddables) (entities : List Entity) :
    (entities.map t.flatten).map Entity.ty = entities.map Entity.ty := by
  rw [List.map_map]
  exact List.map_congr_left fun e _ => Embeddables.flatten_ty t e

/-- An entity of a new type comes in if the catalog admits it. -/
theorem entities_receive_of_new {c : Catalog} {e : Entity} (hadmits : c.admits e = true)
    (hnew : c.entity? e.ty = none) :
    (c.receive e).entities = c.entities ++ [c.embeddables.flatten e] := by
  obtain ⟨hmodel, hverify⟩ := admits_iff.1 hadmits
  have hflat : c.entity? (c.embeddables.flatten e).ty = none := by
    rw [Embeddables.flatten_ty]
    exact hnew
  simp only [receive]
  rw [add_of_new hmodel hverify hflat]
  rfl

/-- Nothing changes if the type is resident. -/
theorem receive_of_resident {c : Catalog} {e : Entity} (h : c.entity? e.ty ≠ none) :
    c.receive e = c := by
  rcases receive_cases c e with hsame | ⟨hnew, -⟩
  · exact hsame
  · rw [Embeddables.flatten_ty] at hnew
    exact absurd hnew h

/-- Nothing changes if the catalog does not admit the entity. -/
theorem receive_of_not_admits {c : Catalog} {e : Entity} (h : c.admits e = false) :
    c.receive e = c := by
  rcases receive_cases c e with hsame | ⟨-, hmodel, hverify, -⟩
  · exact hsame
  · rw [admits_iff.2 ⟨hmodel, hverify⟩] at h
    cases h

/-- What is found under a type after an attempt: the entity that was there, and
else the new one if it has this type and is admitted. -/
theorem entity?_receive (c : Catalog) (e : Entity) (ty : Path) :
    (c.receive e).entity? ty =
      (c.entity? ty).or
        (if e.ty == ty && c.admits e then some (c.embeddables.flatten e) else none) := by
  by_cases hadmits : c.admits e = true
  · rw [hadmits, Bool.and_true]
    by_cases hnew : c.entity? e.ty = none
    · simp only [entity?]
      rw [entities_receive_of_new hadmits hnew, List.find?_append, List.find?_cons,
        Embeddables.flatten_ty, List.find?_nil]
      cases e.ty == ty <;> rfl
    · rw [receive_of_resident hnew]
      by_cases hty : e.ty = ty
      · -- The type is resident, so what the right side has for it does not matter.
        obtain ⟨resident, hresident⟩ := Option.ne_none_iff_exists'.1 hnew
        rw [hty] at hresident
        rw [hresident, Option.some_or]
      · rw [beq_eq_false_iff_ne.2 hty, if_neg Bool.false_ne_true, Option.or_none]
  · rw [Bool.not_eq_true] at hadmits
    rw [receive_of_not_admits hadmits, hadmits, Bool.and_false, if_neg Bool.false_ne_true,
      Option.or_none]

/-- One more entity is one more attempt. -/
theorem assemble_append_singleton (model : String) (policy : NamePolicy) (t : Embeddables)
    (entities : List Entity) (e : Entity) :
    assemble model policy t (entities ++ [e]) = (assemble model policy t entities).receive e := by
  simp only [assemble, receiveAll]
  rw [List.foldl_append]
  rfl

/-- Arrivals do not change the policy. -/
@[simp] theorem receiveAll_policy (c : Catalog) (entities : List Entity) :
    (c.receiveAll entities).policy = c.policy :=
  List.foldlRecOn entities receive (motive := fun d => d.policy = c.policy) rfl
    fun d hd e _ => (receive_policy d e).trans hd

/-- An assembled catalog has the model it was given. -/
@[simp] theorem assemble_model (model : String) (policy : NamePolicy) (t : Embeddables)
    (entities : List Entity) : (assemble model policy t entities).model = model :=
  List.foldlRecOn entities receive (motive := fun c => c.model = model) rfl
    fun c hc e _ => (receive_model c e).trans hc

/-- It has the embeddables it was given. -/
@[simp] theorem assemble_embeddables (model : String) (policy : NamePolicy) (t : Embeddables)
    (entities : List Entity) : (assemble model policy t entities).embeddables = t :=
  List.foldlRecOn entities receive (motive := fun c => c.embeddables = t) rfl
    fun c hc e _ => (receive_embeddables c e).trans hc

/-- What is admitted depends on the model alone. -/
theorem admits_assemble (model : String) (policy : NamePolicy) (t : Embeddables)
    (entities : List Entity) :
    (assemble model policy t entities).admits = (empty model policy t).admits := by
  funext e
  simp only [admits, assemble_model]
  rfl

/-- The residents are the entities that are admitted, flattened and in order,
the first of each type. -/
theorem entities_assemble (model : String) (policy : NamePolicy) (t : Embeddables)
    (entities : List Entity) :
    (assemble model policy t entities).entities =
      (firstOfEach Entity.ty (entities.filter (empty model policy t).admits)).map t.flatten := by
  induction entities using List.reverseRecOn with
  | nil => rfl
  | append_singleton entities e ih =>
    rw [assemble_append_singleton, List.filter_append]
    by_cases hadmits : (empty model policy t).admits e = true
    · rw [List.filter_cons_of_pos hadmits, List.filter_nil, firstOfEach_append_singleton]
      -- A type is resident when an entity of it was admitted before.
      have hresident : (assemble model policy t entities).entity? e.ty = none ↔
          e.ty ∉ (assemble model policy t entities).entities.map Entity.ty := entity?_eq_none_iff
      rw [ih, map_ty_map_flatten, mem_map_firstOfEach_iff] at hresident
      rw [← admits_assemble model policy t entities] at hadmits
      by_cases hmem : e.ty ∈ (entities.filter (empty model policy t).admits).map Entity.ty
      · rw [if_pos hmem, List.append_nil, receive_of_resident fun h => hresident.1 h hmem, ih]
      · rw [if_neg hmem, List.map_append, entities_receive_of_new hadmits (hresident.2 hmem), ih,
          assemble_embeddables]
        rfl
    · rw [List.filter_cons_of_neg hadmits, List.filter_nil, List.append_nil, ← ih]
      rw [← admits_assemble model policy t entities, Bool.not_eq_true] at hadmits
      rw [receive_of_not_admits hadmits]

/-- A rearranged list of entities with distinct types gives a rearranged
catalog. -/
theorem perm_entities_assemble {l m : List Entity} (h : l.Perm m)
    (hdistinct : (l.map Entity.ty).Nodup) (model : String) (policy : NamePolicy)
    (t : Embeddables) :
    (assemble model policy t l).entities.Perm (assemble model policy t m).entities := by
  have hfilter : ∀ k : List Entity, (k.map Entity.ty).Nodup →
      ((k.filter (empty model policy t).admits).map Entity.ty).Nodup := fun k hk =>
    hk.sublist (List.filter_sublist.map Entity.ty)
  have hdistinct' : (m.map Entity.ty).Nodup := (h.map Entity.ty).nodup_iff.1 hdistinct
  rw [entities_assemble, entities_assemble, firstOfEach_of_nodup (hfilter l hdistinct),
    firstOfEach_of_nodup (hfilter m hdistinct')]
  exact (h.filter _).map _

/-- A catalog of built entities keeps attributes under their names. -/
theorem allKeyed_assemble {entities : List Entity} (h : ∀ e ∈ entities, e.IsBuilt)
    (model : String) (policy : NamePolicy) (t : Embeddables) :
    (assemble model policy t entities).AllKeyed :=
  List.foldlRecOn entities Catalog.receive (motive := AllKeyed) (fun e he => by cases he)
    fun _ hc e he => hc.receive (h e he).keyed

/-- Every resident belongs to the catalog's model. -/
def AllOfModel (c : Catalog) : Prop := ∀ e ∈ c.entities, e.model = c.model

/-- An entity of another model is turned away. -/
theorem AllOfModel.receive {c : Catalog} (hc : c.AllOfModel) (e : Entity) :
    (c.receive e).AllOfModel := by
  intro f hf
  rw [receive_model]
  rcases mem_receive hf with hf | ⟨rfl, hmodel⟩
  · exact hc f hf
  · rw [Embeddables.flatten_model]
    exact hmodel

/-- So all that an assembled catalog has is of its model. -/
theorem allOfModel_assemble (entities : List Entity) (model : String) (policy : NamePolicy)
    (t : Embeddables) : (assemble model policy t entities).AllOfModel :=
  List.foldlRecOn entities Catalog.receive (motive := AllOfModel) (fun e he => by cases he)
    fun _ hc e _ => hc.receive e

/-- The catalog under another policy. -/
def withPolicy (c : Catalog) (policy : NamePolicy) : Catalog := { c with policy := policy }

/-- What comes in does not depend on the policy. -/
theorem receive_withPolicy (c : Catalog) (policy : NamePolicy) (e : Entity) :
    (c.withPolicy policy).receive e = (c.receive e).withPolicy policy := by
  simp only [receive]
  by_cases hm : e.model = c.model
  · cases hv : e.verify with
    | error fault =>
      rw [add_of_verify_error hm hv, add_of_verify_error (c := c.withPolicy policy) hm hv]
      rfl
    | ok u =>
      cases hr : c.entity? (c.embeddables.flatten e).ty with
      | none =>
        rw [add_of_new hm hv hr, add_of_new (c := c.withPolicy policy) hm hv hr]
        rfl
      | some resident =>
        -- Ignored or refused, both catalogs stay as they are.
        rw [add_of_resident hm hv hr, add_of_resident (c := c.withPolicy policy) hm hv hr]
        show (if resident.agrees (c.embeddables.flatten e) ||
          (c.embeddables.flatten e).synthesized then Admission.ignored else _).catalog _ = _
        split <;> rfl
  · rw [add_of_foreign hm, add_of_foreign (c := c.withPolicy policy) hm]
    rfl

/-- One list under two policies gives catalogs that differ in the policy
only. -/
theorem assemble_withPolicy (model : String) (policy other : NamePolicy) (t : Embeddables)
    (entities : List Entity) :
    (assemble model policy t entities).withPolicy other = assemble model other t entities := by
  have hfold : ∀ c : Catalog,
      (c.receiveAll entities).withPolicy other = (c.withPolicy other).receiveAll entities := by
    induction entities with
    | nil => exact fun _ => rfl
    | cons e rest ih =>
      intro c
      show ((c.receive e).receiveAll rest).withPolicy other =
        ((c.withPolicy other).receive e).receiveAll rest
      rw [ih, receive_withPolicy]
  exact hfold _

end SchemaLinker.Catalog
