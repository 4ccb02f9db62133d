import Mathlib.Data.List.Perm.Subperm
import SchemaLinker.Proofs.Assembly

/-!
# `SchemaLinker.Proofs.Admission`: what a catalog answers to every attempt

A catalog starts empty, and entities are tried one after the other: declared,
made up, of any model. `add_assemble` says what the catalog holds after any
attempts and what it answers to the next one. It admits an entity of its model
that passes `Entity.verify`. The first of each type comes in
(`entities_assemble`). Another one is compared with the resident of its type,
and whatever does not come in leaves the catalog as it was.

The comparison is a count and a search (`OrderedMap.agrees`). `Entity.Same`
states what it means: the same attribute under every name, with the same
operations in its cascade, and all else equal. As the counts are equal, it is
enough to search one way (`List.subperm_of_subset`).
-/

set_option autoImplicit false

namespace SchemaLinker

/-! ### Sameness -/

/-- Two dictionaries agree exactly when they have related values under every
key, or none. -/
theorem OrderedMap.agrees_iff {κ α : Type} [DecidableEq κ] {related : α → α → Bool}
    {m n : OrderedMap κ α} :
    m.agrees related n = true ↔
      ∀ k, Option.Rel (fun v w => related v w = true) (m.get? k) (n.get? k) := by
  have hsize : ∀ d : OrderedMap κ α, d.size = d.keys.length := fun d =>
    (List.length_map Prod.fst).symm
  simp only [agrees, Bool.and_eq_true, beq_iff_eq, List.all_eq_true]
  rw [hsize, hsize]
  constructor
  · rintro ⟨hlength, hall⟩ k
    have hfound : ∀ j v, m.get? j = some v → ∃ w, n.get? j = some w ∧ related v w = true := by
      intro j v hv
      simpa [Option.any_eq_true] using hall (j, v) (get?_eq_some_iff.1 hv)
    -- All keys of the one are keys of the other, and there are as many.
    have hkeys : m.keys ⊆ n.keys := by
      intro j hj
      obtain ⟨v, hv⟩ := mem_keys_iff.1 hj
      obtain ⟨w, hw, -⟩ := hfound j v hv
      exact mem_keys_iff.2 ⟨w, hw⟩
    have hperm : m.keys.Perm n.keys :=
      (List.subperm_of_subset m.distinct hkeys).perm_of_length_le (Nat.le_of_eq hlength.symm)
    cases hv : m.get? k with
    | some v =>
      obtain ⟨w, hw, hrelated⟩ := hfound k v hv
      rw [hw]
      exact .some hrelated
    | none =>
      rw [get?_eq_none_iff, hperm.mem_iff] at hv
      rw [get?_eq_none_iff.2 hv]
      exact .none
  · intro hrel
    have hsame : ∀ k, k ∈ m.keys ↔ k ∈ n.keys := by
      intro k
      have hk := hrel k
      rw [mem_keys_iff, mem_keys_iff]
      generalize m.get? k = v at hk ⊢
      generalize n.get? k = w at hk ⊢
      cases hk <;> simp
    refine ⟨((List.perm_ext_iff_of_nodup m.distinct n.distinct).2 hsame).length_eq, ?_⟩
    rintro ⟨k, v⟩ he
    have hk := hrel k
    rw [get?_eq_some_iff.2 he] at hk
    cases hn : n.get? k with
    | none =>
      rw [hn] at hk
      cases hk
    | some w =>
      rw [hn] at hk
      cases hk
      simpa

/-- The same operations, in whatever order. -/
def CascadeSet.Same (s t : CascadeSet) : Prop := ∀ x, x ∈ s.actions ↔ x ∈ t.actions

/-- Cascades agree when they have the same operations. -/
theorem CascadeSet.agrees_iff {s t : CascadeSet} : s.agrees t = true ↔ s.Same t := by
  simp only [agrees, Bool.and_eq_true, beq_iff_eq, List.all_eq_true, List.contains_iff_mem]
  constructor
  · rintro ⟨hlength, hall⟩ x
    exact ((List.subperm_of_subset s.distinct hall).perm_of_length_le
      (Nat.le_of_eq hlength.symm)).mem_iff
  · intro hsame
    exact ⟨((List.perm_ext_iff_of_nodup s.distinct t.distinct).2 hsame).length_eq,
      fun x hx => (hsame x).1 hx⟩

/-- The same attribute, the order of its cascade set aside. -/
def Attribute.Same (a b : Attribute) : Prop :=
  a.cascade.Same b.cascade ∧ { a with cascade := b.cascade } = b

/-- Attributes agree when they differ in the order of operations at most. -/
theorem Attribute.agrees_iff {a b : Attribute} : a.agrees b = true ↔ a.Same b := by
  simp only [agrees, Bool.and_eq_true, decide_eq_true_eq, CascadeSet.agrees_iff]
  exact Iff.rfl

/-- The same entity: the same attribute under every name, or none, and all
else equal. -/
def Entity.Same (e f : Entity) : Prop :=
  (∀ name, Option.Rel Attribute.Same (e.attributes.get? name) (f.attributes.get? name)) ∧
    { e with attributes := f.attributes } = f

/-- Entities agree when their attributes do, name by name, and all else is equal. -/
theorem Entity.agrees_iff {e f : Entity} : e.agrees f = true ↔ e.Same f := by
  simp only [agrees, Bool.and_eq_true, decide_eq_true_eq, OrderedMap.agrees_iff,
    Attribute.agrees_iff]
  exact Iff.rfl

/-! ### Answers -/

/-- An entity that cannot stand is refused for its schema. -/
theorem Entity.kind_of_verify {e : Entity} {fault : Fault} (h : e.verify = .error fault) :
    ∃ problem, fault.kind = .invalidSchema problem := by
  simp only [verify] at h
  split at h
  · cases h
    exact ⟨_, rfl⟩
  · split at h <;> cases h
    exact ⟨_, rfl⟩

namespace Catalog

/-- What is not admitted is refused for its schema. -/
theorem exists_add_of_not_admits {c : Catalog} {e : Entity} (h : c.admits e = false) :
    ∃ fault problem, fault.kind = .invalidSchema problem ∧ c.add e = .rejected fault := by
  by_cases hmodel : e.model = c.model
  · cases hverify : e.verify with
    | error fault =>
      obtain ⟨problem, hkind⟩ := Entity.kind_of_verify hverify
      exact ⟨fault, problem, hkind, add_of_verify_error hmodel hverify⟩
    | ok u =>
      rw [admits_iff.2 ⟨hmodel, hverify⟩] at h
      cases h
  · exact ⟨_, _, rfl, add_of_foreign hmodel⟩

/-- Another entity of a resident type is ignored if it was made by resolution
or is the same, and else it is refused as a duplicate. -/
theorem add_of_resident_type {c : Catalog} {e resident : Entity} (h : c.admits e = true)
    (hresident : c.entity? e.ty = some resident) :
    (e.synthesized = true ∨ resident.Same (c.embeddables.flatten e) → c.add e = .ignored) ∧
      (¬(e.synthesized = true ∨ resident.Same (c.embeddables.flatten e)) →
        c.add e = .rejected (FaultKind.duplicateEntity (toString e.ty)).fault) := by
  obtain ⟨hmodel, hverify⟩ := admits_iff.1 h
  rw [← Embeddables.flatten_ty c.embeddables e] at hresident
  have hadd := add_of_resident hmodel hverify hresident
  rw [Embeddables.flatten_ty, Embeddables.flatten_synthesized] at hadd
  rw [← Entity.agrees_iff, Or.comm, ← Bool.or_eq_true]
  refine ⟨fun hsame => ?_, fun hdiffers => ?_⟩
  · rw [hadd, if_pos hsame]
  · rw [hadd, if_neg hdiffers]

/-- A type is resident exactly when an entity of it was admitted before. -/
theorem entity?_assemble_eq_none_iff {model : String} {policy : NamePolicy} {t : Embeddables}
    {before : List Entity} {ty : Path} :
    (assemble model policy t before).entity? ty = none ↔
      ∀ d ∈ before, (assemble model policy t before).admits d = true → d.ty ≠ ty := by
  rw [entity?_eq_none_iff, entities_assemble, map_ty_map_flatten, mem_map_firstOfEach_iff,
    admits_assemble]
  simp only [List.mem_map, List.mem_filter, not_exists, not_and, and_imp, ne_eq]

/-- Try to add any entities to an empty catalog, with any embeddables. Then it
holds the flattened entities that it admits, the first of each type, in the
order in which they came. Of one more entity `e`:

- if the catalog admits it and has admitted none of its type, it comes in;
- if the catalog admits it and has admitted one of its type, it is ignored when
  it was made by resolution or, flattened, is the same as the resident one, and
  else it is refused as a duplicate;
- if the catalog does not admit it, it is refused for its schema;
- if it does not come in, the catalog stays as it was. -/
theorem add_assemble (model : String) (policy : NamePolicy) (t : Embeddables)
    (before : List Entity) (e : Entity) :
    let c := assemble model policy t before
    let after := assemble model policy t (before ++ [e])
    c.entities = (firstOfEach Entity.ty (before.filter c.admits)).map t.flatten ∧
      (c.admits e = true → (∀ d ∈ before, c.admits d = true → d.ty ≠ e.ty) →
        c.add e = .added after ∧ after.entities = c.entities ++ [t.flatten e]) ∧
      (c.admits e = true → (∃ d ∈ before, c.admits d = true ∧ d.ty = e.ty) →
        ∃ resident ∈ c.entities, resident.ty = e.ty ∧
          (e.synthesized = true ∨ resident.Same (t.flatten e) → c.add e = .ignored) ∧
          (¬(e.synthesized = true ∨ resident.Same (t.flatten e)) →
            c.add e = .rejected (FaultKind.duplicateEntity (toString e.ty)).fault)) ∧
      (c.admits e = false →
        ∃ fault problem, fault.kind = .invalidSchema problem ∧ c.add e = .rejected fault) ∧
      ((∀ grown, c.add e ≠ .added grown) → after = c) := by
  intro c after
  have hafter : after = (c.add e).catalog c := assemble_append_singleton model policy t before e
  have htable : c.embeddables = t := assemble_embeddables model policy t before
  refine ⟨?_, ?_, ?_, exists_add_of_not_admits, ?_⟩
  · simp only [c]
    rw [entities_assemble, admits_assemble]
  · -- The type is new, so the catalog grows by the flattened entity.
    intro hadmits hnew
    have hvacant : c.entity? e.ty = none := entity?_assemble_eq_none_iff.2 hnew
    have hin : after.entities = c.entities ++ [c.embeddables.flatten e] := by
      rw [hafter]
      exact entities_receive_of_new hadmits hvacant
    rw [htable] at hin
    refine ⟨?_, hin⟩
    obtain ⟨hmodel, hverify⟩ := admits_iff.1 hadmits
    rw [← Embeddables.flatten_ty c.embeddables e] at hvacant
    rw [hafter, add_of_new hmodel hverify hvacant]
    rfl
  · -- The entity that brought the type in first is resident, flattened.
    rintro hadmits ⟨d, hd, hbefore, hty⟩
    have hthere : c.entity? e.ty ≠ none := fun hnone =>
      entity?_assemble_eq_none_iff.1 hnone d hd hbefore hty
    obtain ⟨resident, hresident⟩ := Option.ne_none_iff_exists'.1 hthere
    have hanswer := add_of_resident_type hadmits hresident
    rw [htable] at hanswer
    obtain ⟨hmem, hsame⟩ := entity?_eq_some_iff.1 hresident
    exact ⟨resident, hmem, hsame, hanswer⟩
  · -- What is not added leaves the catalog as it was.
    intro hnot
    rw [hafter]
    cases hadd : c.add e with
    | added grown => exact absurd hadd (hnot grown)
    | ignored => rfl
    | rejected fault => rfl

end Catalog

end SchemaLinker
