import SchemaLinker.Embeddables
import SchemaLinker.Proofs.OrderedMap

/-!
# `SchemaLinker.Proofs.AttributeNames`: attributes stand under their own names

An entity that was put together by hand may hold an attribute under a
name that is not the attribute's. An entity that was built may not, and
flattening keeps it so: `keyed_of_build`, `keyed_flatten`. In such an
entity looking a name up and searching the attributes are the same
(`attribute?_eq_some_iff`), and a name tells its attribute
(`eq_of_name_eq`).

`absorb_preserves` and `flatten_preserves` carry any fact about a map of
attributes through an expansion: it has to survive one more attribute,
and what an embeddable adds has to be fit for adding. `forall_mem_flatten`
is the case of a fact about each attribute by itself.
-/

set_option autoImplicit false

namespace SchemaLinker

/-- Every attribute of the map stands under its own name. -/
def KeyedAttributes (m : OrderedMap String Attribute) : Prop :=
  ∀ name a, m.get? name = some a → a.name = name

/-- Every attribute of the entity stands under its own name. -/
def Entity.Keyed (e : Entity) : Prop := KeyedAttributes e.attributes

/-- The entity was built from a draft. -/
def Entity.IsBuilt (e : Entity) : Prop := ∃ d : EntityDraft, d.build = .ok e

/-- The entities that drafts describe. A draft that cannot be built is left
out. -/
def EntityDraft.buildAll (drafts : List EntityDraft) : List Entity :=
  drafts.filterMap fun d => d.build.toOption

/-- What is built from some drafts is built. -/
theorem EntityDraft.isBuilt_of_mem_buildAll {drafts : List EntityDraft} {e : Entity}
    (h : e ∈ buildAll drafts) : e.IsBuilt := by
  obtain ⟨d, -, hd⟩ := List.mem_filterMap.1 h
  refine ⟨d, ?_⟩
  cases hb : d.build with
  | error fault =>
    rw [hb] at hd
    cases hd
  | ok built =>
    rw [hb] at hd
    cases hd
    rfl

/-- Without attributes none stands under another name. -/
theorem keyedAttributes_empty : KeyedAttributes .empty := by
  intro name a h
  rw [OrderedMap.get?_empty] at h
  cases h

/-- One more attribute under its name keeps a map keyed. -/
theorem keyedAttributes_insert {m : OrderedMap String Attribute} (h : KeyedAttributes m)
    (a : Attribute) : KeyedAttributes (m.insert a.name a) := by
  intro name b hb
  rw [OrderedMap.get?_insert] at hb
  split at hb
  · rename_i hname
    cases hb
    exact hname.symm
  · exact h name b hb

/-- An attribute that is added if it is new stands under its name. -/
theorem keyedAttributes_insertIfNew {m : OrderedMap String Attribute} (h : KeyedAttributes m)
    (a : Attribute) : KeyedAttributes (m.insertIfNew a.name a) := by
  obtain ⟨-, hsame⟩ | ⟨-, hinsert⟩ := OrderedMap.insertIfNew_cases m a.name a
  · rwa [hsame]
  · rw [hinsert]
    exact keyedAttributes_insert h a

namespace EntityDraft

/-- Collecting attributes puts each under its name. -/
theorem keyed_of_collect (l : List Attribute) (seen m : OrderedMap String Attribute)
    (hseen : KeyedAttributes seen) (h : collect seen l = .ok m) : KeyedAttributes m := by
  induction l generalizing seen with
  | nil =>
    cases h
    exact hseen
  | cons a rest ih =>
    rw [collect] at h
    split at h
    · cases h
    · exact ih _ (keyedAttributes_insert hseen a) h

/-- Collecting keeps the attributes and their order. -/
theorem values_of_collect (l : List Attribute) (seen m : OrderedMap String Attribute)
    (h : collect seen l = .ok m) : m.values = seen.values ++ l := by
  induction l generalizing seen with
  | nil =>
    cases h
    exact (List.append_nil _).symm
  | cons a rest ih =>
    rw [collect] at h
    split at h
    · cases h
    · rename_i hnew
      -- A name that was not seen is a new key, so its attribute goes to the end.
      have hnone : seen.get? a.name = none := by
        simpa [OrderedMap.contains] using hnew
      rw [ih _ h, OrderedMap.values_insert_of_get?_eq_none hnone, List.append_assoc]
      rfl

/-- Attributes of distinct new names are collected, in front of whatever comes
behind them. -/
theorem exists_collect_append (l after : List Attribute) (seen : OrderedMap String Attribute)
    (hdistinct : (l.map Attribute.name).Nodup) (hnew : ∀ a ∈ l, seen.contains a.name = false) :
    ∃ m, collect seen (l ++ after) = collect m after ∧
      ∀ name, m.contains name = true ↔ seen.contains name = true ∨ name ∈ l.map Attribute.name := by
  induction l generalizing seen with
  | nil => exact ⟨seen, rfl, fun name => by simp⟩
  | cons a rest ih =>
    rw [List.map_cons, List.nodup_cons] at hdistinct
    have hinsert : ∀ name, (seen.insert a.name a).contains name = true ↔
        name = a.name ∨ seen.contains name = true := by
      intro name
      simp only [OrderedMap.contains]
      rw [OrderedMap.get?_insert]
      split
      · rename_i hname
        simp [hname]
      · rename_i hname
        simp [hname]
    -- The names behind are other names, so they are still new.
    have hrest : ∀ b ∈ rest, (seen.insert a.name a).contains b.name = false := by
      intro b hb
      refine Bool.eq_false_iff.2 fun hseen => ?_
      rcases (hinsert b.name).1 hseen with hname | hold
      · exact hdistinct.1 (List.mem_map.2 ⟨b, hb, hname⟩)
      · rw [hnew b (List.mem_cons_of_mem _ hb)] at hold
        cases hold
    obtain ⟨m, hm, hcontains⟩ := ih _ hdistinct.2 hrest
    refine ⟨m, ?_, fun name => ?_⟩
    · rw [List.cons_append, collect, hnew a List.mem_cons_self]
      exact hm
    · rw [hcontains, hinsert, List.map_cons, List.mem_cons, or_assoc, or_left_comm]

/-- A draft whose attributes have distinct names and can stand is built. -/
theorem exists_build {d : EntityDraft} (hty : d.ty.isEmpty = false)
    (hdistinct : (d.attributes.map Attribute.name).Nodup)
    (hcheck : ∀ a ∈ d.attributes, a.check = none) : ∃ e, d.build = .ok e := by
  obtain ⟨m, hm, -⟩ := exists_collect_append d.attributes [] .empty hdistinct fun _ _ => rfl
  rw [List.append_nil] at hm
  have hvalues : (d.entity m).attributes.values = d.attributes := values_of_collect _ _ _ hm
  have hverify : (d.entity m).verify = .ok () :=
    Entity.verify_eq_ok_iff.2 ⟨hty, fun a ha => hcheck a (hvalues ▸ ha)⟩
  refine ⟨d.entity m, ?_⟩
  simp only [build]
  rw [hm]
  show (d.entity m).verify >>= _ = _
  rw [hverify]
  rfl

/-- The first name that comes again is reported. -/
theorem build_of_repeated {d : EntityDraft} {before after : List Attribute} {a : Attribute}
    (hattributes : d.attributes = before ++ a :: after)
    (hdistinct : (before.map Attribute.name).Nodup) (hagain : a.name ∈ before.map Attribute.name) :
    d.build = .error (FaultKind.invalidSchema (.repeatedAttribute d.ty a.name)).fault := by
  obtain ⟨m, hm, hcontains⟩ :=
    exists_collect_append before (a :: after) .empty hdistinct fun _ _ => rfl
  simp only [build]
  rw [hattributes, hm, collect, (hcontains a.name).2 (Or.inr hagain)]
  rfl

/-- What is built is the draft's entity with the collected attributes. -/
theorem exists_collect_of_build {d : EntityDraft} {e : Entity} (h : d.build = .ok e) :
    ∃ m, collect .empty d.attributes = .ok m ∧ e = d.entity m := by
  simp only [build] at h
  split at h
  · cases h
  · rename_i m hm
    refine ⟨m, hm, ?_⟩
    cases hv : (d.entity m).verify with
    | error f =>
      rw [hv] at h
      cases h
    | ok u =>
      rw [hv] at h
      cases h
      rfl

end EntityDraft

/-- A built entity has the attributes of its draft, in order. -/
theorem values_of_build {d : EntityDraft} {e : Entity} (h : d.build = .ok e) :
    e.attributes.values = d.attributes := by
  obtain ⟨m, hm, rfl⟩ := EntityDraft.exists_collect_of_build h
  exact EntityDraft.values_of_collect _ _ _ hm

/-- What a draft builds has its attributes under their names. -/
theorem keyed_of_build {d : EntityDraft} {e : Entity} (h : d.build = .ok e) : e.Keyed := by
  obtain ⟨m, hm, rfl⟩ := EntityDraft.exists_collect_of_build h
  exact EntityDraft.keyed_of_collect _ _ _ keyedAttributes_empty hm

/-- So has every built entity. -/
theorem Entity.IsBuilt.keyed {e : Entity} (h : e.IsBuilt) : e.Keyed := by
  obtain ⟨d, hd⟩ := h
  exact keyed_of_build hd

namespace Entity

/-- In a keyed entity a look-up finds the attribute of that name. -/
theorem attribute?_eq_some_iff {e : Entity} (he : e.Keyed) {name : String} {a : Attribute} :
    e.attribute? name = some a ↔ a ∈ e.attributes.values ∧ a.name = name := by
  constructor
  · intro h
    exact ⟨OrderedMap.mem_values_iff.2 ⟨name, h⟩, he name a h⟩
  · rintro ⟨hmem, rfl⟩
    obtain ⟨name, h⟩ := OrderedMap.mem_values_iff.1 hmem
    rw [he name a h]
    exact h

/-- In a keyed entity a name has one attribute. -/
theorem eq_of_name_eq {e : Entity} (he : e.Keyed) {a b : Attribute} (ha : a ∈ e.attributes.values)
    (hb : b ∈ e.attributes.values) (h : a.name = b.name) : a = b := by
  have ha' := (attribute?_eq_some_iff he).2 ⟨ha, rfl⟩
  have hb' := (attribute?_eq_some_iff he).2 ⟨hb, rfl⟩
  rw [h, hb'] at ha'
  cases ha'
  rfl

/-- The attributes of a keyed entity have distinct names. -/
theorem nodup_names {e : Entity} (he : e.Keyed) :
    (e.attributes.values.map Attribute.name).Nodup := by
  -- The names are the keys, and a dictionary has no key twice.
  have hnames : e.attributes.values.map Attribute.name = e.attributes.keys := by
    simp only [OrderedMap.values, OrderedMap.keys]
    rw [List.map_map]
    exact List.map_congr_left fun p hp => he p.1 p.2 (OrderedMap.get?_eq_some_iff.2 hp)
  rw [hnames]
  exact e.attributes.distinct

end Entity

namespace Embeddables

/-- The embeddable that an attribute embeds is one of the table. -/
theorem mem_values_of_embeddedBy? {t : Embeddables} {a : Attribute} {e : Embeddable}
    (h : t.embeddedBy? a = some e) : e ∈ t.values := by
  simp only [embeddedBy?] at h
  split at h
  · cases h
  · obtain ⟨p, -, hp⟩ := Option.bind_eq_some_iff.1 h
    rcases Option.or_eq_some_iff.1 hp with hget | ⟨-, hfind⟩
    · exact OrderedMap.mem_values_iff.2 ⟨p, hget⟩
    · exact List.mem_of_find?_eq_some hfind

section Preservation

variable {P : OrderedMap String Attribute → Prop} {Q : Attribute → Prop} {t : Embeddables}
  (hstep : ∀ m a, P m → Q a → P (m.insertIfNew a.name a))
  (hinner : ∀ e ∈ t.values, ∀ inner ∈ e.attributes.values, ∀ outer, Q outer →
    Q (inner.nestedIn outer))

include hstep hinner

/-- A fact `P` about the attributes so far survives an expansion, when it
survives one more attribute with `Q` and what is nested in one with `Q` has
`Q`, too. -/
theorem absorb_preserves (depth : Nat) (opened : List Path) (out : OrderedMap String Attribute)
    (a : Attribute) (hout : P out) (ha : Q a) : P (t.absorb depth opened out a) := by
  induction depth generalizing opened out a with
  | zero => exact hstep out a hout ha
  | succ depth ih =>
    rw [absorb]
    split
    · exact hstep out a hout ha
    · rename_i e he
      have hmem : e ∈ t.values := mem_values_of_embeddedBy? (Option.filter_eq_some_iff.1 he).1
      -- The inner attributes are absorbed one after the other.
      exact List.foldlRecOn _ _ hout fun out hout inner hin =>
        ih _ _ _ hout (hinner e hmem inner hin a ha)

/-- The same for the attributes of an entity: `P` holds of them after
flattening if it held before and holds of no attributes. -/
theorem flatten_preserves (hempty : P .empty) (e : Entity) (hQ : ∀ a ∈ e.attributes.values, Q a)
    (hP : P e.attributes) : P (t.flatten e).attributes := by
  simp only [flatten]
  split
  · exact List.foldlRecOn _ _ hempty fun out hout a ha =>
      absorb_preserves hstep hinner _ _ _ _ hout (hQ a ha)
  · exact hP

omit hstep in
/-- What holds of all attributes of an entity holds of them after flattening, if
it holds of what an embeddable adds. -/
theorem forall_mem_flatten (e : Entity) (he : ∀ a ∈ e.attributes.values, Q a) :
    ∀ a ∈ (t.flatten e).attributes.values, Q a := by
  refine flatten_preserves (P := fun m => ∀ a ∈ m.values, Q a) ?_ hinner ?_ e he he
  · intro m a hm ha b hb
    rcases OrderedMap.mem_values_insertIfNew hb with hold | rfl
    · exact hm b hold
    · exact ha
  · intro a ha
    cases ha

end Preservation

/-- Flattening leaves attributes under their names. -/
theorem keyed_flatten (t : Embeddables) {e : Entity} (he : e.Keyed) : (t.flatten e).Keyed :=
  flatten_preserves (P := KeyedAttributes) (Q := fun _ => True)
    (fun _ a hm _ => keyedAttributes_insertIfNew hm a) (fun _ _ _ _ _ _ => trivial)
    keyedAttributes_empty e (fun _ _ => trivial) he

/-- Flattening an entity without associations brings none in, unless an
embeddable has one. -/
theorem not_isAssociation_flatten {t : Embeddables}
    (ht : ∀ e ∈ t.values, ∀ a ∈ e.attributes.values, a.isAssociation = false) {e : Entity}
    (he : ∀ a ∈ e.attributes.values, a.isAssociation = false) :
    ∀ a ∈ (t.flatten e).attributes.values, a.isAssociation = false :=
  forall_mem_flatten (Q := fun a => a.isAssociation = false)
    (fun f hf inner hin _ _ => ht f hf inner hin) e he

/-- Flattening keeps the table. -/
@[simp] theorem flatten_tableName (t : Embeddables) (e : Entity) :
    (t.flatten e).tableName = e.tableName := by
  simp only [flatten]
  split <;> rfl

/-- It keeps the model. -/
@[simp] theorem flatten_model (t : Embeddables) (e : Entity) : (t.flatten e).model = e.model := by
  simp only [flatten]
  split <;> rfl

/-- It keeps whether the entity was synthesized. -/
@[simp] theorem flatten_synthesized (t : Embeddables) (e : Entity) :
    (t.flatten e).synthesized = e.synthesized := by
  simp only [flatten]
  split <;> rfl

end Embeddables

end SchemaLinker
