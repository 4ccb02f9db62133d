import Mathlib.Data.List.Perm.Basic
import Mathlib.Data.List.Nodup
import SchemaLinker.Proofs.Assembly

/-!
# `SchemaLinker.Proofs.Inverse`: which attributes are the other sides of an association

The search for other sides starts from the associations of the target that
refer back (`Catalog.RefersBack`) and narrows them down twice. A narrowing
keeps what passes its test, and everything if nothing does
(`mem_narrow_iff`). So it never leaves nothing, and if one element alone
passes it leaves that one (`narrow_eq_singleton`).

Hence an explicit declaration decides: where one association alone is mapped
by another, the two are each other's only other side, whatever else there is
(`inverses_of_mapsAlone`).

An association of an entity with itself is its own candidate, and it is left
out only after the narrowing. So the narrowing may choose it in favour of
real candidates. `inverses_eq_nil_iff` says that this is the only way to
lose an other side: the association is named after its entity, and no other
candidate is, nor is one mapped by it.
-/

set_option autoImplicit false

namespace SchemaLinker.Catalog

/-! ### Narrowing -/

section Narrow

variable {α : Type} {p : α → Bool} {l : List α}

/-- A narrowing keeps what passes, and everything if nothing does. -/
theorem mem_narrow_iff {x : α} :
    x ∈ narrow p l ↔ x ∈ l ∧ (p x = true ∨ ∀ y ∈ l, p y = false) := by
  simp only [narrow]
  split
  · rename_i hchoice
    obtain ⟨z, hz, hpz⟩ := List.any_eq_true.1 hchoice.2
    rw [List.mem_filter]
    refine and_congr_right fun _ => ⟨Or.inl, fun h => h.resolve_right fun hnone => ?_⟩
    rw [hnone z hz] at hpz
    cases hpz
  · rename_i hchoice
    refine ⟨fun hx => ⟨hx, ?_⟩, And.left⟩
    cases hpx : p x with
    | true => exact Or.inl rfl
    | false =>
      -- There is nothing else, or nothing else passes.
      refine Or.inr fun y hy => Bool.eq_false_iff.2 fun hpy => hchoice ⟨?_, ?_⟩
      · rcases l with _ | ⟨z, _ | ⟨w, rest⟩⟩
        · cases hx
        · rw [List.mem_singleton] at hx hy
          rw [hy, ← hx, hpx] at hpy
          cases hpy
        · simp
      · exact List.any_eq_true.2 ⟨y, hy, hpy⟩

/-- There is nothing to narrow in one element. -/
@[simp] theorem narrow_singleton (x : α) : narrow p [x] = [x] := by
  simp [narrow]

/-- If one element alone passes, the narrowing leaves that one. -/
theorem narrow_eq_singleton (hl : l.Nodup) {x : α} (hx : x ∈ l) (hpx : p x = true)
    (honly : ∀ y ∈ l, p y = true → y = x) : narrow p l = [x] := by
  have hnodup : (narrow p l).Nodup := hl.sublist (narrow_sublist p l)
  refine List.perm_singleton.1 ((List.perm_ext_iff_of_nodup hnodup (List.nodup_singleton x)).2
    fun y => ?_)
  rw [mem_narrow_iff, List.mem_singleton]
  constructor
  · rintro ⟨hy, hpy | hnone⟩
    · exact honly y hy hpy
    · rw [hnone x hx] at hpx
      cases hpx
  · rintro rfl
    exact ⟨hx, Or.inl hpx⟩

end Narrow

/-! ### Candidates -/

/-- The association `b` of `t` refers back to `e`, and it is mapped by the
attribute `a` or leaves this open. -/
structure RefersBack (c : Catalog) (e : Entity) (a : Attribute) (t : Entity) (b : Attribute) :
    Prop where
  member : b ∈ t.attributes.values
  association : b.isAssociation = true
  target : c.target? b = some e
  mapped : b.mappedBy = none ∨ b.mappedBy = some a.name

/-- Of the associations of `t` that refer to `e`, `b` alone is mapped by the
attribute `a`. -/
structure MapsAlone (c : Catalog) (e : Entity) (a : Attribute) (t : Entity) (b : Attribute) :
    Prop where
  visited : (t, b) ∈ c.visits
  association : b.isAssociation = true
  target : c.target? b = some e
  mapped : b.mappedBy = some a.name
  alone : ∀ x ∈ t.attributes.values, x.isAssociation = true → c.target? x = some e →
    x.mappedBy = some a.name → x = b

variable {c : Catalog} {e t : Entity} {a b : Attribute}

/-- What refers to an entity of a type refers to the resident of that
type. -/
theorem target?_any_ty_iff (he : e ∈ c.entities) :
    ((c.target? b).any fun s => s.ty == e.ty) = true ↔ c.target? b = some e := by
  constructor
  · intro h
    obtain ⟨s, hs, hty⟩ := (Option.any_eq_true _ _).1 h
    rw [hs, eq_of_mem_of_ty_eq (mem_of_target? hs) he (beq_iff_eq.1 hty)]
  · intro h
    simp [h]

/-- The attributes that refer back are those that `RefersBack` describes. -/
theorem mem_backReferences_iff (he : e ∈ c.entities) :
    b ∈ c.backReferences e a t ↔ c.RefersBack e a t b := by
  have hmapped : (b.mappedBy.all (· == a.name)) = true ↔
      b.mappedBy = none ∨ b.mappedBy = some a.name := by
    cases b.mappedBy <;> simp
  simp only [backReferences, Entity.associations]
  rw [List.mem_filter, List.mem_filter, Bool.and_eq_true, hmapped, target?_any_ty_iff he]
  constructor
  · rintro ⟨⟨hattribute, hassociation⟩, hmapped, htarget⟩
    exact ⟨hattribute, hassociation, htarget, hmapped⟩
  · rintro ⟨hattribute, hassociation, htarget, hmapped⟩
    exact ⟨⟨hattribute, hassociation⟩, hmapped, htarget⟩

/-- None of them is listed twice. -/
theorem nodup_backReferences (ht : t.Keyed) : (c.backReferences e a t).Nodup := by
  have hvalues : t.attributes.values.Nodup := (Entity.nodup_names ht).of_map _
  exact (hvalues.filter _).filter _

/-- What an association that does not say so itself maps to are the
candidates that are mapped by it, if there are any, and of these those that
are named after its entity, if there are any. -/
theorem mem_mappedAttributes_iff (he : e ∈ c.entities) (hopen : a.mappedBy = none) :
    b ∈ c.mappedAttributes e a t ↔
      c.RefersBack e a t b ∧
      (b.mappedBy = some a.name ∨ ∀ x, c.RefersBack e a t x → x.mappedBy ≠ some a.name) ∧
      (namedAfter e b = true ∨
        ∀ x, c.RefersBack e a t x →
          (x.mappedBy = some a.name ∨ ∀ y, c.RefersBack e a t y → y.mappedBy ≠ some a.name) →
          namedAfter e x = false) := by
  simp only [mappedAttributes]
  rw [hopen]
  simp only [mem_narrow_iff, mem_backReferences_iff he, beq_iff_eq, beq_eq_false_iff_ne, and_imp,
    and_assoc]

/-- Where there is a candidate, an association maps to something. -/
theorem mappedAttributes_ne_nil (he : e ∈ c.entities) (hopen : a.mappedBy = none)
    (hb : c.RefersBack e a t b) : c.mappedAttributes e a t ≠ [] := by
  simp only [mappedAttributes]
  rw [hopen]
  exact narrow_ne_nil (narrow_ne_nil (List.ne_nil_of_mem ((mem_backReferences_iff he).2 hb)))

/-- The other sides are what an association maps to, but for itself. -/
theorem mem_inverses_iff (hc : c.AllKeyed) (ha : (e, a) ∈ c.visits) (ht : t ∈ c.entities) :
    b ∈ c.inverses e a t ↔ b ∈ c.mappedAttributes e a t ∧ (t, b) ≠ (e, a) := by
  simp only [inverses]
  rw [List.mem_filter]
  refine and_congr_right fun hmapped => ?_
  have hb : (t, b) ∈ c.visits := mem_visits.2 ⟨ht, mem_of_mem_mappedAttributes hmapped⟩
  have hsame : (t.ty = e.ty ∧ b.name = a.name) ↔ (t, b) = (e, a) := by
    constructor
    · rintro ⟨hty, hname⟩
      exact eq_of_idOf_eq hc hb ha (congrArg₂ AttributeId.mk hty hname)
    · intro h
      obtain ⟨rfl, rfl⟩ := Prod.mk.inj h
      exact ⟨rfl, rfl⟩
  rw [Ne, ← hsame, Bool.not_eq_true', Bool.and_eq_false_iff, beq_eq_false_iff_ne,
    beq_eq_false_iff_ne]
  exact Decidable.not_and_iff_or_not.symm

/-- Where an association does not map to itself, all that it maps to are its
other sides. -/
theorem inverses_eq_mappedAttributes (hc : c.AllKeyed) (ha : (e, a) ∈ c.visits)
    (ht : t ∈ c.entities) (hother : ∀ x ∈ c.mappedAttributes e a t, (t, x) ≠ (e, a)) :
    c.inverses e a t = c.mappedAttributes e a t :=
  List.filter_eq_self.2 fun x hx =>
    (List.mem_filter.1 ((mem_inverses_iff hc ha ht).2 ⟨hx, hother x hx⟩)).2

/-! ### An explicit declaration -/

/-- Where `b` alone is mapped by `a`, it is all that `a` maps to. -/
theorem mappedAttributes_of_mapsAlone (hc : c.AllKeyed) (he : e ∈ c.entities)
    (hopen : a.mappedBy = none) (h : c.MapsAlone e a t b) : c.mappedAttributes e a t = [b] := by
  obtain ⟨ht, hattribute⟩ := mem_visits.1 h.visited
  have hone : narrow (fun b => b.mappedBy == some a.name) (c.backReferences e a t) = [b] := by
    refine narrow_eq_singleton (nodup_backReferences (hc t ht)) ?_ (beq_iff_eq.2 h.mapped) ?_
    · exact (mem_backReferences_iff he).2
        ⟨hattribute, h.association, h.target, Or.inr h.mapped⟩
    · intro x hx hmapped
      have hback := (mem_backReferences_iff he).1 hx
      exact h.alone x hback.member hback.association hback.target (beq_iff_eq.1 hmapped)
  simp only [mappedAttributes]
  rw [hopen]
  simp only [hone, narrow_singleton]

/-- An association that says by which attribute it is mapped maps to that
one. -/
theorem mappedAttributes_of_mappedBy (he : e.Keyed) (ha : a ∈ e.attributes.values)
    (h : b.mappedBy = some a.name) : c.mappedAttributes t b e = [a] := by
  simp only [mappedAttributes]
  rw [h]
  simp only [(Entity.attribute?_eq_some_iff he).2 ⟨ha, rfl⟩, Option.toList_some]

/-- Then the two are each other's only other side. -/
theorem inverses_of_mapsAlone (hc : c.AllKeyed) (ha : (e, a) ∈ c.visits)
    (hopen : a.mappedBy = none) (h : c.MapsAlone e a t b) :
    c.inverses e a t = [b] ∧ c.inverses t b e = [a] := by
  obtain ⟨he, hattribute⟩ := mem_visits.1 ha
  have hne : b ≠ a := by
    rintro rfl
    rw [h.mapped] at hopen
    cases hopen
  have hforth := mappedAttributes_of_mapsAlone hc he hopen h
  have hback : c.mappedAttributes t b e = [a] :=
    mappedAttributes_of_mappedBy (hc e he) hattribute h.mapped
  constructor
  · rw [inverses_eq_mappedAttributes hc ha (mem_visits.1 h.visited).1, hforth]
    intro x hx
    rw [hforth, List.mem_singleton] at hx
    exact fun hsame => hne (hx ▸ (Prod.mk.inj hsame).2)
  · rw [inverses_eq_mappedAttributes hc h.visited he, hback]
    intro x hx
    rw [hback, List.mem_singleton] at hx
    exact fun hsame => hne (hx ▸ (Prod.mk.inj hsame).2).symm

/-! ### Losing an other side -/

/-- An association without a declaration has another candidate than itself.
It has no other side exactly when it belongs to its own target and the
narrowing chooses it: it is named after the entity, and no other candidate
is, nor is one mapped by it. -/
theorem inverses_eq_nil_iff (hc : c.AllKeyed) (ha : (e, a) ∈ c.visits)
    (hassociation : a.isAssociation = true) (hopen : a.mappedBy = none)
    (ht : c.target? a = some t) (hb : c.RefersBack e a t b) (hother : (t, b) ≠ (e, a)) :
    c.inverses e a t = [] ↔
      t = e ∧ namedAfter e a = true ∧
        ∀ x, c.RefersBack e a e x → x ≠ a → x.mappedBy = none ∧ namedAfter e x = false := by
  have he : e ∈ c.entities := (mem_visits.1 ha).1
  have hmem : ∀ x, x ∈ c.inverses e a t ↔ x ∈ c.mappedAttributes e a t ∧ (t, x) ≠ (e, a) :=
    fun x => mem_inverses_iff hc ha (mem_of_target? ht)
  constructor
  · intro hnil
    have honly : ∀ x ∈ c.mappedAttributes e a t, (t, x) = (e, a) := by
      intro x hx
      refine Classical.byContradiction fun hne => ?_
      have hinverse := (hmem x).2 ⟨hx, hne⟩
      rw [hnil] at hinverse
      cases hinverse
    -- Something is left by the narrowing, so it is the association itself.
    obtain ⟨x, hx⟩ := List.exists_mem_of_ne_nil _ (mappedAttributes_ne_nil he hopen hb)
    obtain ⟨rfl, rfl⟩ := Prod.mk.inj (honly x hx)
    obtain ⟨-, hmapped, hnamed⟩ := (mem_mappedAttributes_iff he hopen).1 hx
    have hnone : ∀ y, c.RefersBack t x t y → y.mappedBy ≠ some x.name := by
      refine hmapped.resolve_left fun h => ?_
      rw [hopen] at h
      cases h
    have hself : namedAfter t x = true := by
      refine hnamed.resolve_right fun hno => hother ?_
      -- If nothing is named after the entity, the other candidate is left, too.
      refine honly b ((mem_mappedAttributes_iff he hopen).2 ⟨hb, Or.inr hnone, Or.inr hno⟩)
    refine ⟨rfl, hself, fun y hy hne => ⟨hy.mapped.resolve_right (hnone y hy), ?_⟩⟩
    refine Bool.eq_false_iff.2 fun hnamed => hne ?_
    exact (Prod.mk.inj (honly y
      ((mem_mappedAttributes_iff he hopen).2 ⟨hy, Or.inr hnone, Or.inl hnamed⟩))).2
  · rintro ⟨rfl, hself, hall⟩
    refine List.eq_nil_iff_forall_not_mem.2 fun x hx => ?_
    obtain ⟨hx, hne⟩ := (hmem x).1 hx
    obtain ⟨hback, hmapped, hnamed⟩ := (mem_mappedAttributes_iff he hopen).1 hx
    obtain ⟨hundeclared, hplain⟩ := hall x hback fun h => hne (by rw [h])
    have hnone : ∀ y, c.RefersBack t a t y → y.mappedBy ≠ some a.name := by
      refine hmapped.resolve_left fun h => ?_
      rw [hundeclared] at h
      cases h
    -- The association is a candidate itself, and it is named after the entity.
    have hcandidate : c.RefersBack t a t a :=
      ⟨(mem_visits.1 ha).2, hassociation, ht, Or.inl hopen⟩
    have hanyNamed := hnamed.resolve_left fun h => by
      rw [hplain] at h
      cases h
    rw [hanyNamed a hcandidate (Or.inr hnone)] at hself
    cases hself

/-! ### Built entities -/

/-- Among built entities an association `a` of `e` does not say by what it is
mapped, and of the associations of `t` that refer to `e`, `b` alone is mapped
by `a`. Then each of the two maps to the other and to nothing else, and the
other is its only other side. -/
theorem mappedAttributes_assemble {entities : List Entity} (hbuilt : ∀ e ∈ entities, e.IsBuilt)
    {model : String} {policy : NamePolicy} {table : Embeddables} {e t : Entity} {a b : Attribute}
    (ha : (e, a) ∈ (assemble model policy table entities).visits) (hopen : a.mappedBy = none)
    (hb : (assemble model policy table entities).MapsAlone e a t b) :
    (assemble model policy table entities).mappedAttributes e a t = [b] ∧
      (assemble model policy table entities).mappedAttributes t b e = [a] ∧
      (assemble model policy table entities).inverses e a t = [b] ∧
      (assemble model policy table entities).inverses t b e = [a] := by
  have hc := allKeyed_assemble hbuilt model policy table
  obtain ⟨he, hattribute⟩ := mem_visits.1 ha
  exact ⟨mappedAttributes_of_mapsAlone hc he hopen hb,
    mappedAttributes_of_mappedBy (hc e he) hattribute hb.mapped,
    inverses_of_mapsAlone hc ha hopen hb⟩

/-- An association of employees with each other. -/
def amongEmployees (name : String) (cardinality : Cardinality) (mappedBy : Option String) :
    Attribute :=
  let one := DataType.named ⟨["Employee"]⟩
  { Attribute.column name (if cardinality.isToMany then .list one else one) with
    cardinality := some cardinality
    mappedBy := mappedBy }

/-- The manager of an employee, who has many employees. -/
def manager : Attribute := amongEmployees "manager" .manyToOne none

/-- The employees of a manager, by the name of their table. -/
def managed : Attribute := amongEmployees "employees" .oneToMany none

/-- The employees of a manager, by the attribute on their side. -/
def reports : Attribute := amongEmployees "reports" .oneToMany (some "manager")

/-- The employees of a manager, by a name of their own. -/
def subordinates : Attribute := amongEmployees "subordinates" .oneToMany none

/-- Employees with these attributes, as they are written down. -/
def employeeDraft (attributes : List Attribute) : EntityDraft :=
  { EntityDraft.ofType ⟨["Employee"]⟩ with
    tableName := some "employees"
    attributes := attributes }

/-- Employees with these attributes. -/
def employee (attributes : List Attribute) : Entity :=
  (employeeDraft attributes).entity
    (OrderedMap.ofList (attributes.map fun (a : Attribute) => (a.name, a)))

/-- Employees alone. -/
def employeeCatalog (attributes : List Attribute) : Catalog :=
  assemble defaultModel .firstMatch .empty [employee attributes]

/-- An employee with these attributes is a built entity. -/
theorem isBuilt_employee {attributes : List Attribute}
    (h : (employeeDraft attributes).build = .ok (employee attributes)) :
    ∀ e ∈ [employee attributes], e.IsBuilt := by
  intro e he
  rw [List.mem_singleton.1 he]
  exact ⟨_, h⟩

/-- The manager and the reports of an employee are each other's only other
side, also where the table's name speaks for a third association. -/
theorem mappedAttributes_manager :
    (employeeCatalog [manager, managed, reports]).mappedAttributes
        (employee [manager, managed, reports]) manager (employee [manager, managed, reports]) =
        [reports] ∧
      (employeeCatalog [manager, managed, reports]).mappedAttributes
        (employee [manager, managed, reports]) reports (employee [manager, managed, reports]) =
        [manager] := by
  have hbuilt : (employeeDraft [manager, managed, reports]).build =
      .ok (employee [manager, managed, reports]) := rfl
  have hvisited : (employee [manager, managed, reports], manager) ∈
      (employeeCatalog [manager, managed, reports]).visits := by decide +kernel
  have halone : (employeeCatalog [manager, managed, reports]).MapsAlone
      (employee [manager, managed, reports]) manager (employee [manager, managed, reports])
      reports :=
    { visited := by decide +kernel
      association := rfl
      target := by decide +kernel
      mapped := rfl
      alone := by decide +kernel }
  obtain ⟨hforth, hback, -, -⟩ :=
    mappedAttributes_assemble (isBuilt_employee hbuilt) hvisited rfl halone
  exact ⟨hforth, hback⟩

/-- An association `a` of a built entity, without a declaration of its own,
has another candidate than itself. It has no other side exactly when it leads
to its own entity, is named after it, and no other candidate is, nor is one
mapped by it. -/
theorem inverses_assemble_eq_nil_iff {entities : List Entity} (hbuilt : ∀ e ∈ entities, e.IsBuilt)
    {model : String} {policy : NamePolicy} {table : Embeddables} {e t : Entity} {a b : Attribute}
    (ha : (e, a) ∈ (assemble model policy table entities).visits)
    (hassociation : a.isAssociation = true) (hopen : a.mappedBy = none)
    (ht : (assemble model policy table entities).target? a = some t)
    (hb : (assemble model policy table entities).RefersBack e a t b)
    (hother : (t, b) ≠ (e, a)) :
    (assemble model policy table entities).inverses e a t = [] ↔
      t = e ∧ namedAfter e a = true ∧
        ∀ x, (assemble model policy table entities).RefersBack e a e x → x ≠ a →
          x.mappedBy = none ∧ namedAfter e x = false :=
  inverses_eq_nil_iff (allKeyed_assemble hbuilt model policy table) ha hassociation hopen ht hb
    hother

/-- Where the manager has subordinates, the two are no less a pair for
leaving open by what they are mapped. -/
theorem inverses_subordinates_ne_nil :
    (employeeCatalog [manager, subordinates]).inverses (employee [manager, subordinates])
      subordinates (employee [manager, subordinates]) ≠ [] := by
  intro hnil
  have hbuilt : (employeeDraft [manager, subordinates]).build =
      .ok (employee [manager, subordinates]) := rfl
  have hvisited : (employee [manager, subordinates], subordinates) ∈
      (employeeCatalog [manager, subordinates]).visits := by decide +kernel
  have hback : (employeeCatalog [manager, subordinates]).RefersBack
      (employee [manager, subordinates]) subordinates (employee [manager, subordinates])
      manager :=
    ⟨by decide +kernel, rfl, by decide +kernel, Or.inl rfl⟩
  have hlost := (inverses_assemble_eq_nil_iff (isBuilt_employee hbuilt) hvisited rfl rfl
    (by decide +kernel) hback (by decide +kernel)).1 hnil
  exact absurd hlost.2.1 (by decide +kernel)

/-- Where the employees of a manager go by the name of their table, the
manager refers back to them, and they have no other side. The review says
that the manager is missing. -/
theorem inverses_managed_eq_nil :
    (∀ e ∈ [employee [manager, managed]], e.IsBuilt) ∧
      (employee [manager, managed], managed) ∈ (employeeCatalog [manager, managed]).visits ∧
      managed.isAssociation = true ∧ managed.mappedBy = none ∧
      (employeeCatalog [manager, managed]).target? managed = some (employee [manager, managed]) ∧
      (employeeCatalog [manager, managed]).RefersBack (employee [manager, managed]) managed
        (employee [manager, managed]) manager ∧
      manager ≠ managed ∧
      (employeeCatalog [manager, managed]).inverses (employee [manager, managed]) managed
        (employee [manager, managed]) = [] ∧
      ((employeeCatalog [manager, managed]).review true).findings =
        [(⟨⟨["Employee"]⟩, "employees"⟩, .missingManyToOne ⟨["Employee"]⟩)] :=
  ⟨isBuilt_employee rfl, by decide +kernel, rfl, rfl, by decide +kernel,
    ⟨by decide +kernel, rfl, by decide +kernel, Or.inl rfl⟩, by decide +kernel, by decide +kernel,
    by decide +kernel⟩

end SchemaLinker.Catalog
