import Mathlib.Data.List.Induction
import SchemaLinker.Encoding.Outcome
import SchemaLinker.Proofs.OrderedMap

/-!
# `SchemaLinker.Proofs.Reading`: what a reader looks at

A structure of the data model travels as an object with a member per field,
and other programs write such objects too. This module says what its reader
makes of any object.

* `AsksFor`: a reader depends on the members of the names it asks for, and
  on nothing else. Names that must be there and names that may be absent
  are told apart.
* `AsksFor.filter`, `AsksFor.cons_null`, `AsksFor.perm`: members of other
  names do no harm, `null` is as good as an absent member where one may be
  absent, and the order of the members does not count.
* `dataModel_asksFor`: the names of every structure of the data model.
* `CascadeSet.ofValue?_eq_some_iff`: operations of a cascade may be
  repeated, and each counts where it stands first.
-/

set_option autoImplicit false

namespace SchemaLinker.Encoding.Value

/-! ### Members that are asked for -/

section Members

variable {α β : Type} {must may : List String} {name : String} {v w : Value}

/-- An absent member reads as `null` does. -/
theorem optional_eq (v : Value) (name : String) (read : Value → Option α) :
    v.optional name read = nullable? read ((v.member? name).getD null) := by
  rw [optional]
  cases v.member? name <;> rfl

/-- Nothing else reads as none. -/
theorem optional_eq_some_none_iff {read : Value → Option α} :
    v.optional name read = some none ↔ (v.member? name).getD null = null := by
  rw [optional_eq]
  refine ⟨fun h => ?_, fun h => by rw [h]; rfl⟩
  by_contra hne
  rw [nullable?_of_ne_null hne, Option.map_eq_some_iff] at h
  obtain ⟨_, -, hnone⟩ := h
  cases hnone

/-- The members of these names are the same, where a member that may be absent
is the same as `null` if it is. -/
structure AgreeOn (must may : List String) (v w : Value) : Prop where
  required : ∀ name ∈ must, v.member? name = w.member? name
  optional : ∀ name ∈ may, (v.member? name).getD null = (w.member? name).getD null

/-- Values that have the same members agree on any of them. -/
theorem AgreeOn.of_member?_eq (h : ∀ name ∈ must ++ may, v.member? name = w.member? name) :
    AgreeOn must may v w where
  required name hname := h name (List.mem_append_left _ hname)
  optional name hname := by rw [h name (List.mem_append_right _ hname)]

/-- A reader of objects that asks for these members and for no others. -/
structure AsksFor (must may : List String) (read : Value → Option α) : Prop where
  /-- What is read depends on these members only. -/
  congr {v w : Value} : AgreeOn must may v w → read v = read w
  /-- Without a member that must be there nothing is read. -/
  eq_none {v : Value} {name : String} : name ∈ must → v.member? name = none → read v = none

/-- Once all members are read, no more is asked for. -/
theorem AsksFor.done (a : Option α) : AsksFor [] [] fun _ => a where
  congr _ := rfl
  eq_none h := absurd h List.not_mem_nil

/-- A reader that begins with a member that must be there. -/
theorem AsksFor.required {read : Value → Option α} {rest : α → Value → Option β}
    (h : ∀ a, AsksFor must may (rest a)) :
    AsksFor (name :: must) may fun v => v.required name read >>= fun a => rest a v where
  congr := by
    intro v w hvw
    have hfirst : v.required name read = w.required name read := by
      rw [Value.required, Value.required, hvw.required name List.mem_cons_self]
    have hrest : AgreeOn must may v w :=
      ⟨fun other hother => hvw.required other (List.mem_cons_of_mem _ hother), hvw.optional⟩
    simp only [hfirst, (h _).congr hrest]
  eq_none := by
    intro v other hother habsent
    rcases List.mem_cons.1 hother with rfl | hother
    · rw [Value.required, habsent]
      rfl
    · cases v.required name read with
      | none => rfl
      | some a => exact (h a).eq_none hother habsent

/-- A reader that begins with a member that may be absent. -/
theorem AsksFor.optional {read : Value → Option α} {rest : Option α → Value → Option β}
    (h : ∀ a, AsksFor must may (rest a)) :
    AsksFor must (name :: may) fun v => v.optional name read >>= fun a => rest a v where
  congr := by
    intro v w hvw
    have hfirst : v.optional name read = w.optional name read := by
      rw [optional_eq, optional_eq, hvw.optional name List.mem_cons_self]
    have hrest : AgreeOn must may v w :=
      ⟨hvw.required, fun other hother => hvw.optional other (List.mem_cons_of_mem _ hother)⟩
    simp only [hfirst, (h _).congr hrest]
  eq_none := by
    intro v other hother habsent
    cases v.optional name read with
    | none => rfl
    | some a => exact (h a).eq_none hother habsent

/-- A reader of one member. -/
theorem AsksFor.single (read : Value → Option α) :
    AsksFor [name] [] fun v => v.required name read where
  congr hvw := by rw [Value.required, Value.required, hvw.required name List.mem_cons_self]
  eq_none hother habsent := by
    rw [List.mem_singleton.1 hother] at habsent
    rw [Value.required, habsent, Option.bind_none]

/-- What is made of the value read does not matter. -/
theorem AsksFor.map {read : Value → Option α} (h : AsksFor must may read) (f : α → β) :
    AsksFor must may fun v => (read v).map f where
  congr hvw := by rw [h.congr hvw]
  eq_none hname habsent := by rw [h.eq_none hname habsent, Option.map_none]

end Members

/-! ### Objects that read alike -/

section Objects

variable {α : Type} {must may : List String} {read : Value → Option α}

/-- A filter that keeps all members of a name keeps what a look-up finds. -/
theorem lookup_filter {members : List (String × Value)} {p : String → Bool} {name : String}
    (h : p name = true) : (members.filter fun m => p m.1).lookup name = members.lookup name := by
  induction members with
  | nil => rfl
  | cons m rest ih =>
    by_cases hm : name = m.1
    · rw [List.filter_cons_of_pos (hm ▸ h), List.lookup_cons, List.lookup_cons, hm]
      simp
    · have hskip : (name == m.1) = false := beq_eq_false_iff_ne.2 hm
      rw [List.lookup_cons, hskip, ← ih, List.filter_cons]
      split
      · rw [List.lookup_cons, hskip]
      · rfl

/-- Members of other names do no harm. -/
theorem AsksFor.filter (h : AsksFor must may read) (members : List (String × Value)) :
    read (object (members.filter fun m => decide (m.1 ∈ must ++ may))) = read (object members) :=
  h.congr <| .of_member?_eq fun _ hname =>
    lookup_filter (p := fun other => decide (other ∈ must ++ may)) (decide_eq_true hname)

/-- A member that may be absent may as well be `null`. -/
theorem AsksFor.cons_null (h : AsksFor must may read) {members : List (String × Value)}
    {name : String} (hmay : name ∉ must) (habsent : members.lookup name = none) :
    read (object ((name, null) :: members)) = read (object members) := by
  have hother : ∀ other, other ≠ name →
      (object ((name, null) :: members)).member? other = (object members).member? other := by
    intro other hne
    simp only [member?, List.lookup_cons, beq_eq_false_iff_ne.2 hne]
  refine h.congr ⟨fun other hmust => hother other fun heq => hmay (heq ▸ hmust), fun other _ => ?_⟩
  by_cases heq : other = name
  · rw [heq]
    simp only [member?, List.lookup_cons_self, habsent, Option.getD_some, Option.getD_none]
  · rw [hother other heq]

/-- Members of distinct names may stand in any order. -/
theorem AsksFor.perm (h : AsksFor must may read) {l m : List (String × Value)} (hperm : l.Perm m)
    (hdistinct : (l.map Prod.fst).Nodup) : read (object l) = read (object m) := by
  refine h.congr (.of_member?_eq fun name _ => Option.ext fun x => ?_)
  have hdistinct' : (m.map Prod.fst).Nodup := (hperm.map _).nodup_iff.1 hdistinct
  show l.lookup name = some x ↔ m.lookup name = some x
  rw [OrderedMap.lookup_eq_some_iff_mem l hdistinct, OrderedMap.lookup_eq_some_iff_mem m hdistinct',
    hperm.mem_iff]

end Objects

end SchemaLinker.Encoding.Value

namespace SchemaLinker

open Encoding.Value (AsksFor)

/-! ### The structures of the data model -/

/-- The members that the structures of the data model are read from, those that
must be there and those that may be absent. -/
structure DataModelMembers : Prop where
  paths : AsksFor ["segments"] [] Path.ofValue?
  junctionColumns :
    AsksFor ["name", "on_delete", "on_update"] ["referenced"] JunctionColumn.ofValue?
  junctionDeclarations : AsksFor ["name", "references", "kind"] [] JunctionDeclaration.ofValue?
  attributes :
    AsksFor ["name", "ty", "foreign_key", "unique", "nullable", "key", "generated", "cascade"]
      ["cardinality", "mapped_by", "referenced_column", "referenced_type", "referenced_table",
        "delete_action", "update_action", "associative_entity"] Attribute.ofValue?
  attributeIds : AsksFor ["entity", "attribute"] [] AttributeId.ofValue?
  entities :
    AsksFor
      ["ty", "table_name", "model", "attributes", "read_only", "cacheable", "stateless",
        "synthesized"] [] Entity.ofValue?
  embeddables : AsksFor ["ty", "attributes"] [] Embeddable.ofValue?
  junctionRequests : AsksFor ["from", "to", "attribute"] [] JunctionRequest.ofValue?
  links :
    AsksFor ["attribute", "inverse"] ["cardinality", "target", "target_attribute", "junction"]
      Link.ofValue?
  diagnostics : AsksFor ["severity", "attribute", "message"] [] Diagnostic.ofValue?
  diagnosticLists : AsksFor ["items"] [] Diagnostics.ofValue?

/-- Every structure is read from its own members, one after the other. -/
theorem dataModel_asksFor : DataModelMembers where
  paths := (AsksFor.single _).map _
  junctionColumns :=
    .required fun _ => .optional fun _ => .required fun _ => .required fun _ => .done _
  junctionDeclarations := .required fun _ => .required fun _ => .required fun _ => .done _
  attributes :=
    .required fun _ => .required fun _ => .optional fun _ => .required fun _ =>
    .required fun _ => .required fun _ => .required fun _ => .required fun _ =>
    .optional fun _ => .optional fun _ => .optional fun _ => .optional fun _ =>
    .optional fun _ => .optional fun _ => .required fun _ => .optional fun _ => .done _
  attributeIds := .required fun _ => .required fun _ => .done _
  entities :=
    .required fun _ => .required fun _ => .required fun _ => .required fun _ =>
    .required fun _ => .required fun _ => .required fun _ => .required fun _ => .done _
  embeddables := .required fun _ => .required fun _ => .done _
  junctionRequests := .required fun _ => .required fun _ => .required fun _ => .done _
  links :=
    .required fun _ => .optional fun _ => .optional fun _ => .optional fun _ =>
    .required fun _ => .optional fun _ => .done _
  diagnostics := .required fun _ => .required fun _ => .required fun _ => .done _
  diagnosticLists := .single _

/-- A member that nobody asks for and an absent optional one do not keep a value
from being read. -/
example :
    JunctionColumn.ofValue? (.object
      [("note", .bool true), ("on_update", .string "Cascade"), ("on_delete", .string "Restrict"),
        ("name", .string "person_id")]) = some ⟨"person_id", none, .restrict, .cascade⟩ := rfl

/-! ### Cascades -/

namespace CascadeSet

/-- A list of operations keeps each where it stands first. -/
theorem actions_ofList (l : List CascadeAction) : (ofList l).actions = firstOfEach id l := by
  induction l using List.reverseRecOn with
  | nil => rfl
  | append_singleton l a ih =>
    have hkeys : id a ∈ (firstOfEach id l).map id ↔ id a ∈ l.map id := mem_map_firstOfEach_iff
    have hseen : a ∈ (ofList l).actions ↔ id a ∈ l.map id := by
      rw [ih, ← hkeys, List.map_id, id]
    have hstep : ofList (l ++ [a]) = (ofList l).insert a := List.foldl_append ..
    rw [hstep, firstOfEach_append_singleton, ← ih, insert]
    by_cases ha : a ∈ (ofList l).actions
    · rw [dif_pos ha, if_pos (hseen.1 ha), List.append_nil]
    · rw [dif_neg ha, if_neg (mt hseen.2 ha)]

/-- A cascade is read from a list of operations, of which the repeated ones
count once. -/
theorem ofValue?_eq_some_iff {v : Encoding.Value} {s : CascadeSet} :
    ofValue? v = some s ↔
      ∃ l, v.list? CascadeAction.ofValue? = some l ∧ s.actions = firstOfEach id l := by
  rw [ofValue?, Option.map_eq_some_iff]
  refine exists_congr fun l => and_congr_right fun _ => ⟨?_, fun h => ?_⟩
  · rintro rfl
    exact actions_ofList l
  · exact ext ((actions_ofList l).trans h.symm)

end CascadeSet

end SchemaLinker
