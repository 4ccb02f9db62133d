import Mathlib.Data.Finset.Max
import SchemaLinker.Proofs.AttributeNames

/-!
# `SchemaLinker.Proofs.Expansion`: which entities flattening leaves alone

Flattening replaces the attributes that stand for embeddables. What comes
in for such an attribute has a longer name, at every depth. So the embedded
attribute with the shortest name is gone afterwards, and `flatten_eq_self_iff`
says that an entity stays the same exactly when nothing in it is embedded.
-/

set_option autoImplicit false

namespace SchemaLinker.Embeddables

variable {t : Embeddables}

/-- An entity in which nothing is embedded is left as it is. -/
theorem flatten_of_forall_eq_none {e : Entity}
    (h : ∀ a ∈ e.attributes.values, t.embeddedBy? a = none) : t.flatten e = e := by
  have hnone : ¬(e.attributes.values.any fun a => (t.embeddedBy? a).isSome) = true := by
    rw [List.any_eq_true]
    rintro ⟨a, ha, hsome⟩
    rw [h a ha] at hsome
    cases hsome
  simp only [flatten]
  rw [if_neg hnone]

/-- An entity in which something is embedded gets other attributes. -/
theorem flatten_of_isSome {e : Entity} {a : Attribute} (ha : a ∈ e.attributes.values)
    (hsome : (t.embeddedBy? a).isSome = true) :
    t.flatten e = { e with attributes := t.flattenAttributes e.attributes.values } := by
  simp only [flatten]
  rw [if_pos (List.any_eq_true.2 ⟨a, ha, hsome⟩)]

/-- Either nothing is embedded and the entity is left as it is, or something is
and it gets other attributes. -/
theorem flatten_cases (t : Embeddables) (e : Entity) :
    ((∀ a ∈ e.attributes.values, t.embeddedBy? a = none) ∧ t.flatten e = e) ∨
      (∃ a ∈ e.attributes.values, (t.embeddedBy? a).isSome = true) ∧
        t.flatten e = { e with attributes := t.flattenAttributes e.attributes.values } := by
  by_cases hnone : ∀ a ∈ e.attributes.values, t.embeddedBy? a = none
  · exact Or.inl ⟨hnone, flatten_of_forall_eq_none hnone⟩
  · obtain ⟨a, ha, hsome⟩ : ∃ a ∈ e.attributes.values, (t.embeddedBy? a).isSome = true := by
      simpa [Option.isSome_iff_ne_none] using hnone
    exact Or.inr ⟨⟨a, ha, hsome⟩, flatten_of_isSome ha hsome⟩

/-- Without embeddables nothing is embedded. -/
@[simp] theorem flatten_empty (e : Entity) : flatten .empty e = e := by
  refine flatten_of_forall_eq_none fun a _ => ?_
  cases h : embeddedBy? .empty a with
  | none => rfl
  | some f => cases mem_values_of_embeddedBy? h

/-- What an attribute stands for depends on its type, unless it is an
association. -/
theorem embeddedBy?_eq_none_of_ty_eq {a b : Attribute} (hty : a.ty = b.ty)
    (hb : b.isAssociation = false) (h : t.embeddedBy? b = none) : t.embeddedBy? a = none := by
  simp only [embeddedBy?] at h ⊢
  rw [hb] at h
  rw [hty]
  split
  · rfl
  · exact h

/-- A nested attribute has a longer name than the one around it. -/
theorem length_name_nestedIn (inner outer : Attribute) :
    outer.name.length < (inner.nestedIn outer).name.length := by
  have hseparator : ("_" : String).length = 1 := rfl
  show _ < (outer.name ++ "_" ++ inner.name).length
  rw [String.length_append, String.length_append, hseparator]
  omega

/-- An attribute of another name does not take a free one. -/
theorem get?_insertIfNew_of_ne {m : OrderedMap String Attribute} {a : Attribute} {name : String}
    (h : m.get? name = none) (hne : a.name ≠ name) : (m.insertIfNew a.name a).get? name = none := by
  obtain ⟨-, hsame⟩ | ⟨-, hinsert⟩ := OrderedMap.insertIfNew_cases m a.name a
  · rwa [hsame]
  · rw [hinsert, OrderedMap.get?_insert, if_neg hne.symm]
    exact h

/-- What stands for nothing is taken over as it is. -/
theorem absorb_of_not_embedded {depth : Nat} {opened : List Path}
    {out : OrderedMap String Attribute} {a : Attribute} (h : t.embeddedBy? a = none) :
    t.absorb depth opened out a = out.insertIfNew a.name a := by
  cases depth with
  | zero => rfl
  | succ depth =>
    rw [absorb, h]
    rfl

/-- An attribute with a longer name brings in no attribute of this name. -/
theorem get?_absorb_of_longer {name : String} (depth : Nat) (opened : List Path)
    {out : OrderedMap String Attribute} {a : Attribute} (hout : out.get? name = none)
    (ha : name.length < a.name.length) : (t.absorb depth opened out a).get? name = none :=
  absorb_preserves (P := fun m => m.get? name = none)
    (Q := fun b => name.length < b.name.length)
    (fun _ _ hm hb => get?_insertIfNew_of_ne hm fun heq => Nat.lt_irrefl _ (heq ▸ hb))
    (fun _ _ inner _ outer houter => Nat.lt_trans houter (length_name_nestedIn inner outer))
    depth opened out a hout ha

/-- Nor does an embedded attribute with a name as long: what it stands for
has longer names. -/
theorem get?_absorb_of_embedded {name : String} {out : OrderedMap String Attribute}
    {a : Attribute} {e : Embeddable} (he : t.embeddedBy? a = some e)
    (hout : out.get? name = none) (ha : name.length ≤ a.name.length) :
    (t.absorb t.size [] out a).get? name = none := by
  -- There is an embeddable, so the expansion may descend.
  have hsize : t.size ≠ 0 := by
    have hmem := mem_values_of_embeddedBy? he
    intro hzero
    have hentries : t.entries = [] := List.eq_nil_of_length_eq_zero hzero
    simp only [OrderedMap.values] at hmem
    rw [hentries] at hmem
    cases hmem
  obtain ⟨depth, hdepth⟩ := Nat.exists_eq_succ_of_ne_zero hsize
  rw [hdepth, Nat.succ_eq_add_one, absorb, he]
  exact List.foldlRecOn _ _
    (motive := fun m : OrderedMap String Attribute => m.get? name = none) hout
    fun _ hm inner _ =>
      get?_absorb_of_longer _ _ hm (Nat.lt_of_le_of_lt ha (length_name_nestedIn inner a))

/-- A keyed entity stays the same exactly when nothing in it is
embedded. -/
theorem flatten_eq_self_iff {e : Entity} (he : e.Keyed) :
    t.flatten e = e ↔ ∀ a ∈ e.attributes.values, t.embeddedBy? a = none := by
  refine ⟨fun hsame => Classical.byContradiction fun hnot => ?_, flatten_of_forall_eq_none⟩
  let embedded := e.attributes.values.filter fun a => (t.embeddedBy? a).isSome
  have hembedded : embedded.toFinset.Nonempty := by
    rw [List.toFinset_nonempty_iff, Ne, List.filter_eq_nil_iff]
    simpa using hnot
  -- The embedded attribute with the shortest name does not come back.
  obtain ⟨a, ha, hshortest⟩ := Finset.exists_min_image _ (fun a => a.name.length) hembedded
  simp only [embedded, List.mem_toFinset, List.mem_filter] at ha hshortest
  obtain ⟨hmem, hsome⟩ := ha
  have hgone : (t.flattenAttributes e.attributes.values).get? a.name = none := by
    refine List.foldlRecOn _ _
      (motive := fun m : OrderedMap String Attribute => m.get? a.name = none) rfl
      fun out hout b hb => ?_
    cases hb' : t.embeddedBy? b with
    | some f =>
      refine get?_absorb_of_embedded hb' hout (hshortest b ⟨hb, ?_⟩)
      rw [hb']
      rfl
    | none =>
      have hne : b.name ≠ a.name := by
        intro hname
        rw [← Entity.eq_of_name_eq he hb hmem hname, hb'] at hsome
        cases hsome
      rw [absorb_of_not_embedded hb']
      exact get?_insertIfNew_of_ne hout hne
  have hflat : (t.flatten e).attributes = t.flattenAttributes e.attributes.values := by
    rw [flatten_of_isSome hmem hsome]
  have hthere : e.attribute? a.name = some a := (Entity.attribute?_eq_some_iff he).2 ⟨hmem, rfl⟩
  rw [← hflat, hsame] at hgone
  simp only [Entity.attribute?] at hthere
  rw [hthere] at hgone
  cases hgone

end SchemaLinker.Embeddables
