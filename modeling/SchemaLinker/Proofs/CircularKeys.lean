import SchemaLinker.Proofs.Inverse
import SchemaLinker.Proofs.LinkDiagnostics

/-!
# `SchemaLinker.Proofs.CircularKeys`: foreign keys that lead back

A foreign key is in a circle when its target is another entity and has a
foreign key that leads back (`Catalog.KeyTo`). The rule looks at one foreign
key at a time. It stops at a missing column, and it looks for the first key
that leads back only (`Finding.ofForeignKey_of_target?`). So from each of its
ends a circle is reported, unless the column of that end is missing, and then
this is what is reported (`circleTold`).

The gate for shared names is no exception. An attribute that it stops has no
target, so it is in no circle (`undecided_eq_false_of_target?`).

Conversely the report about a circle tells of one
(`exists_keyTo_of_mem_diagnostics`). No other finding begins with its words.
`circles_told_assemble` states both for the catalog of a list of built
entities.
-/

set_option autoImplicit false

namespace SchemaLinker

namespace Catalog

/-! ### The rule -/

/-- The attribute `a` of the resident `e` is a foreign key that leads to
`t`. -/
structure KeyTo (c : Catalog) (e : Entity) (a : Attribute) (t : Entity) : Prop where
  visited : (e, a) ∈ c.visits
  foreignKey : a.foreignKey = true
  target : c.target? a = some t

variable {c : Catalog} {e t : Entity} {a b : Attribute}

/-- A key that leads somewhere is among the foreign keys of its entity. -/
theorem keyTo_iff :
    c.KeyTo e a t ↔ e ∈ c.entities ∧ a ∈ e.foreignKeys ∧ c.target? a = some t := by
  simp only [Entity.foreignKeys]
  rw [List.mem_filter]
  constructor
  · intro h
    obtain ⟨he, ha⟩ := mem_visits.1 h.visited
    exact ⟨he, ⟨ha, h.foreignKey⟩, h.target⟩
  · rintro ⟨he, ⟨ha, hkey⟩, htarget⟩
    exact ⟨mem_visits.2 ⟨he, ha⟩, hkey, htarget⟩

/-- Its entity is a resident. -/
theorem KeyTo.mem (h : c.KeyTo e a t) : e ∈ c.entities := (keyTo_iff.1 h).1

/-- The key that is found leads back. -/
theorem keyTo_of_keyBack? (ht : t ∈ c.entities) (he : e ∈ c.entities)
    (h : c.keyBack? t e = some b) : c.KeyTo t b e := by
  simp only [keyBack?] at h
  have hback := List.find?_some h
  exact keyTo_iff.2 ⟨ht, List.mem_of_find?_eq_some h, (target?_any_ty_iff he).1 hback⟩

/-- Where a key leads back, one is found. -/
theorem KeyTo.exists_keyBack? (h : c.KeyTo t b e) : ∃ back, c.keyBack? t e = some back := by
  obtain ⟨-, hb, htarget⟩ := keyTo_iff.1 h
  refine Option.isSome_iff_exists.1 (List.find?_isSome.2 ⟨b, hb, ?_⟩)
  exact (target?_any_ty_iff (mem_of_target? htarget)).2 htarget

/-! ### The reports -/

/-- What the review reports about a foreign key in a circle: the circle, with a
key that leads back, where the column that it stores is there, and that the
column is missing where it is not. It never reports both. -/
structure CircleTold (c : Catalog) (oneSided : Bool) (v : Entity × Attribute) (t : Entity) :
    Prop where
  circular : targetColumn? v.2 t ≠ none →
    ∃ back, c.KeyTo t back v.1 ∧
      c.Reports oneSided v (.circularForeignKey v.1.ty t.ty (t.idOf back))
  column : targetColumn? v.2 t = none →
    c.Reports oneSided v (.missingColumn v.2.referencedColumn t.ty)
  circularOnly : ∀ source target via,
    c.Reports oneSided v (.circularForeignKey source target via) → targetColumn? v.2 t ≠ none
  columnOnly : ∀ column target,
    c.Reports oneSided v (.missingColumn column target) → targetColumn? v.2 t = none

variable {oneSided : Bool}

/-- What the rule finds about a foreign key with a target is reported. -/
theorem KeyTo.reports (h : c.KeyTo e a t) {f : Finding}
    (hf : Finding.ofForeignKey c e a = some f) : c.Reports oneSided (e, a) f := by
  have hsaid : f ∈ c.said [] (e, a) :=
    mem_said_nil.2 (Or.inr ⟨undecided_eq_false_of_target? h.target,
      Or.inr (foreignKeyFinding_eq_some_iff.2 ⟨h.foreignKey, hf⟩)⟩)
  exact mem_diagnostics_of_said oneSided h.visited hsaid (Finding.isOfPair_of_ofForeignKey hf)

/-- The report about a circle tells of one: the attribute is a foreign key that
stores a column of another entity, which has a foreign key that leads back. -/
theorem exists_keyTo_of_mem_diagnostics {id via : AttributeId} {source target : Path}
    (h : (Finding.circularForeignKey source target via).diagnostic id ∈
      (c.review oneSided).diagnostics) :
    ∃ e a t, e.idOf a = id ∧ c.KeyTo e a t ∧ t ≠ e ∧ targetColumn? a t ≠ none ∧
      ∃ back, c.KeyTo t back e := by
  obtain ⟨⟨e, a⟩, hv, hid, g, hg, hmessage, -⟩ := exists_grounds_of_mem_diagnostics h
  have hkind := Finding.kind_eq_of_message_eq hmessage
  cases hg with
  | circular t back hkey ht hcolumn hne hback =>
    refine ⟨e, a, t, hid, ⟨hv, hkey, ht⟩, fun hsame => hne (congrArg Entity.ty hsame), hcolumn,
      back, ?_⟩
    exact keyTo_of_keyBack? (mem_of_target? ht) (mem_visits.1 hv).1 hback
  | pair _ _ _ _ _ _ hpair =>
    rw [Finding.isOfPair_eq, hkind] at hpair
    cases hpair
  | _ => cases hkind

/-- A foreign key in a circle is told of, whatever other keys there are. -/
theorem circleTold (hc : c.AllKeyed) (hne : e ≠ t) (ha : c.KeyTo e a t) (hb : c.KeyTo t b e) :
    c.CircleTold oneSided (e, a) t := by
  have hty : t.ty ≠ e.ty := fun hty => hne (eq_of_mem_of_ty_eq ha.mem hb.mem hty.symm)
  refine ⟨fun hcolumn => ?_, fun hcolumn => ?_, fun source target via h => ?_,
    fun column target h => ?_⟩
  · obtain ⟨back, hback⟩ := hb.exists_keyBack?
    have hcolumn : targetColumn? a t ≠ none := hcolumn
    refine ⟨back, keyTo_of_keyBack? hb.mem ha.mem hback, ha.reports ?_⟩
    rw [Finding.ofForeignKey_of_target? ha.target, if_neg hcolumn, if_neg hty, hback]
    rfl
  · refine ha.reports ?_
    rw [Finding.ofForeignKey_of_target? ha.target]
    exact if_pos hcolumn
  · -- The report is about this attribute, so the circle that it tells of is this one.
    obtain ⟨e', a', t', hid, hkey, -, hcolumn, -⟩ := exists_keyTo_of_mem_diagnostics h
    cases eq_of_idOf_eq hc hkey.visited ha.visited hid
    cases hkey.target.symm.trans ha.target
    exact hcolumn
  · exact (targetColumn?_eq_none_iff_reports hc ha.visited ha.foreignKey ha.target).2 ⟨_, _, h⟩

/-- Built entities are added to a catalog. If two of its entities have foreign
keys that lead to each other, a review reports about each of the two keys
either the circle or, exactly where the column that it stores is missing, that
column. It reports a circle about no other attributes than foreign keys to
another entity with a foreign key that leads back. -/
theorem circles_told_assemble {entities : List Entity} (hbuilt : ∀ e ∈ entities, e.IsBuilt)
    (model : String) (policy : NamePolicy) (embeddables : Embeddables) (oneSided : Bool) :
    let c := assemble model policy embeddables entities
    (∀ e a t b, e ≠ t → c.KeyTo e a t → c.KeyTo t b e →
      c.CircleTold oneSided (e, a) t ∧ c.CircleTold oneSided (t, b) e) ∧
    ∀ id source target via,
      (Finding.circularForeignKey source target via).diagnostic id ∈
        (c.review oneSided).diagnostics →
      ∃ e a t, e.idOf a = id ∧ c.KeyTo e a t ∧ t ≠ e ∧ ∃ b, c.KeyTo t b e := by
  intro c
  have hkeyed : c.AllKeyed := allKeyed_assemble hbuilt model policy embeddables
  refine ⟨fun e a t b hne ha hb => ?_, fun id source target via h => ?_⟩
  · exact ⟨circleTold hkeyed hne ha hb, circleTold hkeyed (Ne.symm hne) hb ha⟩
  · obtain ⟨e, a, t, hid, ha, hne, -, hback⟩ := exists_keyTo_of_mem_diagnostics h
    exact ⟨e, a, t, hid, ha, hne, hback⟩

/-- Employees of departments, whose manager is an employee. The department
stores a column of its manager that employees do not have. -/
def managedDepartments : List EntityDraft :=
  let id : Attribute := { Attribute.column "id" (.scalar .int64) with key := true }
  let keyTo (name target : String) : Attribute :=
    { Attribute.column name (.scalar .int64) with
      foreignKey := true
      referencedType := some (.named ⟨[target]⟩) }
  [{ EntityDraft.ofType ⟨["Employee"]⟩ with attributes := [id, keyTo "department" "Department"] },
    { EntityDraft.ofType ⟨["Department"]⟩ with
      attributes := [id, { keyTo "manager" "Employee" with referencedColumn := some "code" }] }]

/-- The circle is reported about the employee, and about the department that
the column is missing. -/
theorem circles_told_managedDepartments :
    let c := assemble "default" .strict .empty (EntityDraft.buildAll managedDepartments)
    ((c.review true).diagnostics.map toString =
      ["warning: Employee::department: circular foreign key reference between `Employee` and " ++
          "`Department` (via `Department::manager`)",
        "warning: Department::manager: couldn't find referenced column `code` on `Employee`"]) ∧
    ∃ e a t b, e ≠ t ∧ c.KeyTo e a t ∧ c.KeyTo t b e ∧
      targetColumn? a t ≠ none ∧ targetColumn? b e = none ∧
      c.CircleTold true (e, a) t ∧ c.CircleTold true (t, b) e := by
  intro c
  have hcircle : (c.visits.any fun u => c.visits.any fun v =>
      decide (u.1 ≠ v.1 ∧ u.2.foreignKey = true ∧ v.2.foreignKey = true ∧
        c.target? u.2 = some v.1 ∧ c.target? v.2 = some u.1 ∧
        targetColumn? u.2 v.1 ≠ none ∧ targetColumn? v.2 u.1 = none)) = true := by
    decide +kernel
  obtain ⟨u, hu, hcircle⟩ := List.any_eq_true.1 hcircle
  obtain ⟨v, hv, hcircle⟩ := List.any_eq_true.1 hcircle
  obtain ⟨hne, hukey, hvkey, hut, hvt, hcolumn, hmissing⟩ := of_decide_eq_true hcircle
  have ha : c.KeyTo u.1 u.2 v.1 := ⟨hu, hukey, hut⟩
  have hb : c.KeyTo v.1 v.2 u.1 := ⟨hv, hvkey, hvt⟩
  exact ⟨by decide +kernel, u.1, u.2, v.1, v.2, hne, ha, hb, hcolumn, hmissing,
    (circles_told_assemble (fun _ => EntityDraft.isBuilt_of_mem_buildAll) "default" .strict .empty
      true).1 u.1 u.2 v.1 v.2 hne ha hb⟩

end Catalog

end SchemaLinker
