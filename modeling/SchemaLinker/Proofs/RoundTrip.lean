import SchemaLinker.Proofs.Reading
import SchemaLinker.Proofs.Rearrangement

/-!
# `SchemaLinker.Proofs.RoundTrip`: what is exchanged arrives

Every type of the data model has a format: how its values are written and
how they are read. `RoundTrip` says of a format that what is written reads
as it was, also from a value whose members were rearranged on the way, and
that whatever reads can be written and read again. `dataModel_roundTrip` says
so of all formats.

Attributes are kept under their names in an object. Their order is lost
when its members are rearranged, and the attributes themselves are not
(`Attribute.mapOfValue?_of_rearranged`). So entities and embeddables come
back with the same attribute under every name. All other types come back
as they were (`survives` for each).

What is read from a value that was written elsewhere, with members of other
names or without some of its own, is the subject of `Proofs.Reading`. So what
was written arrives from such a value, too (`RoundTrip.eq_some_of_agreeOn`).
-/

set_option autoImplicit false

namespace SchemaLinker

open Encoding (Value)
open Encoding.Value (AgreeOn AsksFor Holds Rearranged Survives survives_bool survives_string)

/-- A format gives back what it was given. -/
structure RoundTrip {α : Type} (same : α → α → Prop) (write : α → Value)
    (read : Value → Option α) : Prop where
  exact : ∀ a, read (write a) = some a
  /-- Also when members are rearranged at any depth. -/
  rearranged : ∀ a w, (write a).Rearranged w → ∃ b, read w = some b ∧ same a b
  /-- What was read, from whatever value, is written as a value that reads. -/
  again : ∀ v a, read v = some a → read (write a) = some a

/-- The same value under every key. -/
def OrderedMap.Alike {κ α : Type} [DecidableEq κ] (m n : OrderedMap κ α) : Prop :=
  ∀ k, m.get? k = n.get? k

/-- The same entity up to the order of its attributes. -/
def Entity.Alike (e f : Entity) : Prop :=
  e.attributes.Alike f.attributes ∧ { e with attributes := f.attributes } = f

/-- The same embeddable up to the order of its attributes. -/
def Embeddable.Alike (e f : Embeddable) : Prop :=
  e.attributes.Alike f.attributes ∧ { e with attributes := f.attributes } = f

/-- A format that survives rearrangement gives back what it was given. -/
theorem RoundTrip.of_survives {α : Type} {write : α → Value} {read : Value → Option α}
    (h : Survives write read) : RoundTrip Eq write read where
  exact a := h a _ (Rearranged.refl _)
  rearranged a w hw := ⟨a, h a w hw, rfl⟩
  again _ a _ := h a _ (Rearranged.refl _)

/-! ### Words -/

/-- Words that tell the choices apart. -/
theorem survives_choice {α : Type} {word : α → String} {choices : List α}
    (h : ∀ a, choices.find? (fun b => word b == word a) = some a) :
    Survives (fun a => .string (word a)) (choiceOfWord? word choices) := by
  intro a w hw
  rw [hw.eq_string]
  exact h a

/-- A cardinality is the only one of its word. -/
theorem Cardinality.survives : Survives toValue ofValue? :=
  survives_choice fun a => by cases a <;> rfl

/-- So is an action on referencing rows. -/
theorem ReferentialAction.survives : Survives toValue ofValue? :=
  survives_choice fun a => by cases a <;> rfl

/-- So is an operation that cascades. -/
theorem CascadeAction.survives : Survives toValue ofValue? :=
  survives_choice fun a => by cases a <;> rfl

/-- So is the origin of a junction declaration. -/
theorem JunctionOrigin.survives : Survives toValue ofValue? :=
  survives_choice fun a => by cases a <;> rfl

/-- So is a severity. -/
theorem Severity.survives : Survives toValue ofValue? :=
  survives_choice fun a => by cases a <;> rfl

/-- So is a scalar type, whose word stands without an object around it. -/
theorem Scalar.survives : Survives (fun s => .string (word s)) (choiceOfWord? word all) :=
  survives_choice fun s => by cases s <;> rfl

/-! ### Paths, types and names across entities -/

/-- A path comes back with its segments in order. -/
theorem Path.survives : Survives toValue ofValue? := by
  intro p w h
  have hw := h.holds (by simp)
  have hsegments : w.required "segments" (Value.list? Value.string?) = some p.segments :=
    hw.required survives_string.list rfl
  simp only [ofValue?]
  rw [hsegments]
  rfl

/-- A type comes back: a scalar as its word, the others as objects of one member,
which have one order only. -/
theorem DataType.survives : Survives toValue ofValue? := by
  intro t
  induction t with
  | scalar s =>
    intro w hw
    have hs := Scalar.survives s w hw
    rw [hw.eq_string] at hs ⊢
    simp only [ofValue?]
    rw [hs]
    rfl
  | named p =>
    intro w hw
    obtain ⟨v, rfl, hv⟩ := hw.eq_object_singleton
    simp [ofValue?, Path.survives p v hv]
  | list item ih =>
    intro w hw
    obtain ⟨v, rfl, hv⟩ := hw.eq_object_singleton
    simp [ofValue?, ih v hv]
  | set item ih =>
    intro w hw
    obtain ⟨v, rfl, hv⟩ := hw.eq_object_singleton
    simp [ofValue?, ih v hv]

/-- No type is written as `null`, so a declared type is told from none. -/
theorem DataType.toValue_ne_null (t : DataType) : t.toValue ≠ .null := by
  cases t <;> nofun

/-- The name of an attribute across entities comes back. -/
theorem AttributeId.survives : Survives toValue ofValue? := by
  intro x w h
  have hw := h.holds (by simp)
  have hentity : w.required "entity" Path.ofValue? = some x.entity :=
    hw.required Path.survives rfl
  have hname : w.required "attribute" Value.string? = some x.name :=
    hw.required survives_string rfl
  simp only [ofValue?]
  rw [hentity, hname]
  rfl

/-! ### Attributes -/

/-- Operations that stand once each stay in their order. -/
theorem CascadeSet.ofList_actions (s : CascadeSet) : ofList s.actions = s := by
  have hdistinct : (s.actions.map id).Nodup := (List.map_id s.actions).symm ▸ s.distinct
  exact ext ((actions_ofList s.actions).trans (firstOfEach_of_nodup hdistinct))

/-- A cascade comes back with its operations in order. -/
theorem CascadeSet.survives : Survives toValue ofValue? := by
  intro s w hw
  simp only [ofValue?]
  rw [CascadeAction.survives.list s.actions w hw, Option.map_some, ofList_actions]

/-- A column of a junction comes back, with the type it references or without. -/
theorem JunctionColumn.survives : Survives toValue ofValue? := by
  intro c w h
  have hw := h.holds (by simp)
  have hname : w.required "name" Value.string? = some c.name :=
    hw.required survives_string rfl
  have hreferenced : w.optional "referenced" Path.ofValue? = some c.referenced :=
    hw.optional Path.survives nofun rfl
  have hdelete : w.required "on_delete" ReferentialAction.ofValue? = some c.onDelete :=
    hw.required ReferentialAction.survives rfl
  have hupdate : w.required "on_update" ReferentialAction.ofValue? = some c.onUpdate :=
    hw.required ReferentialAction.survives rfl
  simp only [ofValue?]
  rw [hname, hreferenced, hdelete, hupdate]
  rfl

/-- A junction declaration comes back with its columns in order. -/
theorem JunctionDeclaration.survives : Survives toValue ofValue? := by
  intro d w h
  have hw := h.holds (by simp)
  have hname : w.required "name" Value.string? = some d.name :=
    hw.required survives_string rfl
  have hcolumns : w.required "references" (Value.list? JunctionColumn.ofValue?) =
      some d.columns :=
    hw.required JunctionColumn.survives.list rfl
  have horigin : w.required "kind" JunctionOrigin.ofValue? = some d.origin :=
    hw.required JunctionOrigin.survives rfl
  simp only [ofValue?]
  rw [hname, hcolumns, horigin]
  rfl

/-- An attribute comes back with all its fields. -/
theorem Attribute.survives : Survives toValue ofValue? := by
  intro a w h
  -- The names of the members are distinct, so each is found in any order.
  have hw := h.holds (by simp)
  have hname : w.required "name" Value.string? = some a.name :=
    hw.required survives_string rfl
  have hty : w.required "ty" DataType.ofValue? = some a.ty :=
    hw.required DataType.survives rfl
  have hcardinality : w.optional "cardinality" Cardinality.ofValue? = some a.cardinality :=
    hw.optional Cardinality.survives nofun rfl
  have hforeign : w.required "foreign_key" Value.bool? = some a.foreignKey :=
    hw.required survives_bool rfl
  have hunique : w.required "unique" Value.bool? = some a.unique :=
    hw.required survives_bool rfl
  have hnullable : w.required "nullable" Value.bool? = some a.nullable :=
    hw.required survives_bool rfl
  have hkey : w.required "key" Value.bool? = some a.key :=
    hw.required survives_bool rfl
  have hgenerated : w.required "generated" Value.bool? = some a.generated :=
    hw.required survives_bool rfl
  have hmapped : w.optional "mapped_by" Value.string? = some a.mappedBy :=
    hw.optional survives_string nofun rfl
  have hcolumn : w.optional "referenced_column" Value.string? = some a.referencedColumn :=
    hw.optional survives_string nofun rfl
  have htype : w.optional "referenced_type" DataType.ofValue? = some a.referencedType :=
    hw.optional DataType.survives DataType.toValue_ne_null rfl
  have htable : w.optional "referenced_table" Value.string? = some a.referencedTable :=
    hw.optional survives_string nofun rfl
  have hdelete : w.optional "delete_action" ReferentialAction.ofValue? = some a.deleteAction :=
    hw.optional ReferentialAction.survives nofun rfl
  have hupdate : w.optional "update_action" ReferentialAction.ofValue? = some a.updateAction :=
    hw.optional ReferentialAction.survives nofun rfl
  have hcascade : w.required "cascade" CascadeSet.ofValue? = some a.cascade :=
    hw.required CascadeSet.survives rfl
  have hjunction : w.optional "associative_entity" JunctionDeclaration.ofValue? =
      some a.junction :=
    hw.optional JunctionDeclaration.survives nofun rfl
  simp only [ofValue?]
  rw [hname, hty, hcardinality, hforeign, hunique, hnullable, hkey, hgenerated, hmapped, hcolumn,
    htype, htable, hdelete, hupdate, hcascade, hjunction]
  rfl

/-- Attributes under their names are read under their names, and from what was
written itself in their order. -/
theorem Attribute.mapOfValue?_of_rearranged (m : OrderedMap String Attribute) :
    mapOfValue? (mapToValue m) = some m ∧
      ∀ w, (mapToValue m).Rearranged w → ∃ n, mapOfValue? w = some n ∧ m.Alike n := by
  constructor
  · have hread := Encoding.Value.mapM_of_rearrangedMembers Attribute.survives
      (Encoding.Value.RearrangedMembers.refl (m.entries.map fun e => (e.1, e.2.toValue)))
    simp only [mapOfValue?, mapToValue, Value.members?]
    rw [hread, Option.map_some]
    exact congrArg some (OrderedMap.ext (OrderedMap.entries_ofList m.distinct))
  · intro w hw
    obtain ⟨entries, hread, hperm⟩ := Attribute.survives.members hw
    refine ⟨.ofList entries, by rw [mapOfValue?, hread, Option.map_some], fun name => ?_⟩
    have hdistinct : (entries.map Prod.fst).Nodup := (hperm.map _).nodup_iff.1 m.distinct
    refine Option.ext fun a => ?_
    rw [OrderedMap.get?_eq_some_iff, OrderedMap.get?_eq_some_iff,
      OrderedMap.entries_ofList hdistinct, hperm.mem_iff]

/-! ### Entities and embeddables -/

/-- A format of values with attributes gives back what it was given if the
attributes are a member and all else survives. -/
theorem RoundTrip.of_attributes {α : Type} {same : α → α → Prop} {write : α → Value}
    {read : Value → Option α} (attributes : α → OrderedMap String Attribute)
    (withAttributes : α → OrderedMap String Attribute → α)
    (hsame : ∀ a m, (attributes a).Alike m → same a (withAttributes a m))
    (hown : ∀ a, withAttributes a (attributes a) = a)
    (hmember : ∀ a w, (write a).Rearranged w → ∃ v, w.member? "attributes" = some v ∧
      (Attribute.mapToValue (attributes a)).Rearranged v)
    (hwritten : ∀ a, (write a).member? "attributes" =
      some (Attribute.mapToValue (attributes a)))
    (hread : ∀ a w m, (write a).Rearranged w →
      w.required "attributes" Attribute.mapOfValue? = some m →
      read w = some (withAttributes a m)) :
    RoundTrip same write read := by
  have hexact : ∀ a, read (write a) = some a := by
    intro a
    rw [hread a _ (attributes a) (Rearranged.refl _), hown]
    rw [Value.required, hwritten, Option.bind_some,
      (Attribute.mapOfValue?_of_rearranged (attributes a)).1]
  refine ⟨hexact, fun a w hw => ?_, fun _ a _ => hexact a⟩
  obtain ⟨v, hv, hrearranged⟩ := hmember a w hw
  obtain ⟨m, hm, halike⟩ := (Attribute.mapOfValue?_of_rearranged (attributes a)).2 v hrearranged
  refine ⟨withAttributes a m, hread a w m hw ?_, hsame a m halike⟩
  rw [Value.required, hv, Option.bind_some, hm]

/-- An entity comes back with the same attribute under every name. -/
theorem Entity.roundTrip : RoundTrip Alike toValue ofValue? := by
  refine .of_attributes attributes (fun e m => { e with attributes := m })
    (fun _ _ halike => ⟨halike, rfl⟩) (fun _ => rfl)
    (fun _ _ h => h.holds (by simp) "attributes" _ rfl) (fun _ => rfl) ?_
  intro e w m h hattributes
  have hw := h.holds (by simp)
  have hty : w.required "ty" Path.ofValue? = some e.ty := hw.required Path.survives rfl
  have htable : w.required "table_name" Value.string? = some e.tableName :=
    hw.required survives_string rfl
  have hmodel : w.required "model" Value.string? = some e.model :=
    hw.required survives_string rfl
  have hreadOnly : w.required "read_only" Value.bool? = some e.readOnly :=
    hw.required survives_bool rfl
  have hcacheable : w.required "cacheable" Value.bool? = some e.cacheable :=
    hw.required survives_bool rfl
  have hstateless : w.required "stateless" Value.bool? = some e.stateless :=
    hw.required survives_bool rfl
  have hsynthesized : w.required "synthesized" Value.bool? = some e.synthesized :=
    hw.required survives_bool rfl
  simp only [ofValue?]
  rw [hty, htable, hmodel, hattributes, hreadOnly, hcacheable, hstateless, hsynthesized]
  rfl

/-- So does an embeddable. -/
theorem Embeddable.roundTrip : RoundTrip Alike toValue ofValue? := by
  refine .of_attributes attributes (fun e m => { e with attributes := m })
    (fun _ _ halike => ⟨halike, rfl⟩) (fun _ => rfl)
    (fun _ _ h => h.holds (by simp) "attributes" _ rfl) (fun _ => rfl) ?_
  intro e w m h hattributes
  have hty : w.required "ty" Path.ofValue? = some e.ty :=
    (h.holds (by simp)).required Path.survives rfl
  simp only [ofValue?]
  rw [hty, hattributes]
  rfl

/-! ### What resolution finds -/

/-- A junction request comes back. -/
theorem JunctionRequest.survives : Survives toValue ofValue? := by
  intro q w h
  have hw := h.holds (by simp)
  have hsource : w.required "from" Path.ofValue? = some q.source :=
    hw.required Path.survives rfl
  have htarget : w.required "to" Path.ofValue? = some q.target :=
    hw.required Path.survives rfl
  have hname : w.required "attribute" Value.string? = some q.name :=
    hw.required survives_string rfl
  simp only [ofValue?]
  rw [hsource, htarget, hname]
  rfl

/-- A link comes back with its inverses in order. -/
theorem Link.survives : Survives toValue ofValue? := by
  intro l w h
  have hw := h.holds (by simp)
  have hsource : w.required "attribute" AttributeId.ofValue? = some l.source :=
    hw.required AttributeId.survives rfl
  have hcardinality : w.optional "cardinality" Cardinality.ofValue? = some l.cardinality :=
    hw.optional Cardinality.survives nofun rfl
  have htarget : w.optional "target" Path.ofValue? = some l.target :=
    hw.optional Path.survives nofun rfl
  have hcolumn : w.optional "target_attribute" Value.string? = some l.targetColumn :=
    hw.optional survives_string nofun rfl
  have hinverse : w.required "inverse" (Value.list? AttributeId.ofValue?) = some l.inverse :=
    hw.required AttributeId.survives.list rfl
  have hjunction : w.optional "junction" Path.ofValue? = some l.junction :=
    hw.optional Path.survives nofun rfl
  simp only [ofValue?]
  rw [hsource, hcardinality, htarget, hcolumn, hinverse, hjunction]
  rfl

/-- A diagnostic comes back with its message. -/
theorem Diagnostic.survives : Survives toValue ofValue? := by
  intro d w h
  have hw := h.holds (by simp)
  have hseverity : w.required "severity" Severity.ofValue? = some d.severity :=
    hw.required Severity.survives rfl
  have hsubject : w.required "attribute" AttributeId.ofValue? = some d.subject :=
    hw.required AttributeId.survives rfl
  have hmessage : w.required "message" Value.string? = some d.message :=
    hw.required survives_string rfl
  simp only [ofValue?]
  rw [hseverity, hsubject, hmessage]
  rfl

/-- Diagnostics come back in order. -/
theorem Diagnostics.survives : Survives toValue ofValue? := by
  intro ds w h
  exact (h.holds (by simp)).required Diagnostic.survives.list rfl

/-! ### The data model -/

/-- Every format of the data model gives back what it was given. -/
structure DataModelRoundTrip : Prop where
  paths : RoundTrip Eq Path.toValue Path.ofValue?
  dataTypes : RoundTrip Eq DataType.toValue DataType.ofValue?
  cardinalities : RoundTrip Eq Cardinality.toValue Cardinality.ofValue?
  referentialActions : RoundTrip Eq ReferentialAction.toValue ReferentialAction.ofValue?
  cascadeActions : RoundTrip Eq CascadeAction.toValue CascadeAction.ofValue?
  junctionOrigins : RoundTrip Eq JunctionOrigin.toValue JunctionOrigin.ofValue?
  junctionColumns : RoundTrip Eq JunctionColumn.toValue JunctionColumn.ofValue?
  junctionDeclarations : RoundTrip Eq JunctionDeclaration.toValue JunctionDeclaration.ofValue?
  attributes : RoundTrip Eq Attribute.toValue Attribute.ofValue?
  attributeIds : RoundTrip Eq AttributeId.toValue AttributeId.ofValue?
  entities : RoundTrip Entity.Alike Entity.toValue Entity.ofValue?
  embeddables : RoundTrip Embeddable.Alike Embeddable.toValue Embeddable.ofValue?
  junctionRequests : RoundTrip Eq JunctionRequest.toValue JunctionRequest.ofValue?
  links : RoundTrip Eq Link.toValue Link.ofValue?
  severities : RoundTrip Eq Severity.toValue Severity.ofValue?
  diagnostics : RoundTrip Eq Diagnostic.toValue Diagnostic.ofValue?
  diagnosticLists : RoundTrip Eq Diagnostics.toValue Diagnostics.ofValue?

/-- What is exchanged arrives, whatever type of the data model it is of. -/
theorem dataModel_roundTrip : DataModelRoundTrip where
  paths := .of_survives Path.survives
  dataTypes := .of_survives DataType.survives
  cardinalities := .of_survives Cardinality.survives
  referentialActions := .of_survives ReferentialAction.survives
  cascadeActions := .of_survives CascadeAction.survives
  junctionOrigins := .of_survives JunctionOrigin.survives
  junctionColumns := .of_survives JunctionColumn.survives
  junctionDeclarations := .of_survives JunctionDeclaration.survives
  attributes := .of_survives Attribute.survives
  attributeIds := .of_survives AttributeId.survives
  entities := Entity.roundTrip
  embeddables := Embeddable.roundTrip
  junctionRequests := .of_survives JunctionRequest.survives
  links := .of_survives Link.survives
  severities := .of_survives Severity.survives
  diagnostics := .of_survives Diagnostic.survives
  diagnosticLists := .of_survives Diagnostics.survives

/-- It also arrives if members of other names came in on the way, or if members
that are `null` were left out. -/
theorem RoundTrip.eq_some_of_agreeOn {α : Type} {same : α → α → Prop} {write : α → Value}
    {read : Value → Option α} (h : RoundTrip same write read) {must may : List String}
    (hread : AsksFor must may read) {a : α} {w : Value} (hw : AgreeOn must may (write a) w) :
    read w = some a := by
  rw [← hread.congr hw]
  exact h.exact a

end SchemaLinker
