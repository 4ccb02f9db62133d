import SchemaLinker.Proofs.JunctionLink
import SchemaLinker.Proofs.LinkTable
import SchemaLinker.Proofs.Messages
import SchemaLinker.Proofs.NamePolicy

/-!
# `SchemaLinker.Proofs.LinkDiagnostics`: links and diagnostics tell one story

The links of a catalog and its review look at the same attributes, each in its
own way. `Link.Grounded` says that a link leads nowhere outside the catalog.
`Link.ToldBy` says that what is missing in a link, or not unique, is what the
review reports about the attribute.

The review leaves an attribute alone whose name the strict policy does not
decide. Such an attribute has no target (`target?_eq_none_of_undecided`), so
its link is empty, too. Of the reports only those about pairs may be left out,
because the other side had them (`mem_diagnostics_of_said`), and none of these
plays a part here. A report is known by its words only, and these tell its kind
(`Finding.kind_eq_of_message_eq`). `Catalog.Grounds` says what in the catalog a
finding of each kind rests on.

`told_links_assemble` states both for the catalog of a list of built entities.
-/

set_option autoImplicit false

namespace SchemaLinker

namespace Catalog

/-! ### What a report rests on -/

/-- What the findings of a visit rest on, kind by kind. -/
inductive Grounds (c : Catalog) (v : Entity × Attribute) : Finding → Prop
  /-- Several entities share the name, in this order. -/
  | shared (first : Entity) (others : List Entity)
    (hshared : c.ambiguousTargets v.2 = first :: others) :
    Grounds c v (.ambiguousName first.ty (others.map Entity.ty) c.policy)
  /-- A plain column has the type of an entity. -/
  | plain (t : Entity) (hplain : v.2.cardinality = none)
    (ht : c.entityOfType? v.2.ty = some t) : Grounds c v (.plainReference t.ty)
  /-- An association has no target. -/
  | unresolved (hassociation : v.2.isAssociation = true) (ht : c.target? v.2 = none) :
    Grounds c v (.unresolvedTarget (Finding.targetDescription v.2))
  /-- Nothing maps back to a one-to-one association that is no foreign key. -/
  | unkeyed (t : Entity) (hk : v.2.cardinality = some .oneToOne) (ht : c.target? v.2 = some t)
    (hi : c.inverses v.1 v.2 t = []) (hkey : v.2.foreignKey = false) :
    Grounds c v .unkeyedOneToOne
  /-- Nothing maps back to a one-to-many association. -/
  | missingManyToOne (t : Entity) (hk : v.2.cardinality = some .oneToMany)
    (ht : c.target? v.2 = some t) (hi : c.inverses v.1 v.2 t = []) :
    Grounds c v (.missingManyToOne t.ty)
  /-- The only attribute that maps back does not fit. -/
  | pair (t : Entity) (b : Attribute) (ht : c.target? v.2 = some t)
    (hi : c.inverses v.1 v.2 t = [b]) (hclash : v.2.Clashes b) (f : Finding)
    (hpair : f.isOfPair = true) : Grounds c v f
  /-- Several attributes map back. -/
  | inverses (t : Entity) (b b' : Attribute) (others : List Attribute)
    (hassociation : v.2.isAssociation = true) (ht : c.target? v.2 = some t)
    (hi : c.inverses v.1 v.2 t = b :: b' :: others) :
    Grounds c v (.ambiguousInverse t.ty b.name ((b' :: others).map Attribute.name))
  /-- A foreign key on an association has no target. -/
  | dangling (hkey : v.2.foreignKey = true) (hassociation : v.2.isAssociation = true)
    (ht : c.target? v.2 = none) : Grounds c v (.danglingForeignKey v.2.name)
  /-- A foreign key stores an attribute that its target does not have. -/
  | column (t : Entity) (hkey : v.2.foreignKey = true) (ht : c.target? v.2 = some t)
    (hcolumn : targetColumn? v.2 t = none) :
    Grounds c v (.missingColumn v.2.referencedColumn t.ty)
  /-- The target of a foreign key is another entity with a key that leads back. -/
  | circular (t : Entity) (back : Attribute) (hkey : v.2.foreignKey = true)
    (ht : c.target? v.2 = some t) (hcolumn : targetColumn? v.2 t ≠ none) (hne : t.ty ≠ v.1.ty)
    (hback : c.keyBack? t v.1 = some back) :
    Grounds c v (.circularForeignKey v.1.ty t.ty (t.idOf back))

variable {c : Catalog} {oneSided : Bool} {v : Entity × Attribute}

/-- The rule for shared names finds what several entities share. -/
theorem grounds_of_ofSharedName {f : Finding} (h : Finding.ofSharedName c v.2 = some f) :
    c.Grounds v f := by
  simp only [Finding.ofSharedName] at h
  split at h
  · cases h
  · rename_i first others hshared
    cases h
    exact .shared first others hshared

/-- The rules for columns and associations have these grounds. -/
theorem grounds_of_relationshipFinding {f : Finding} (h : c.relationshipFinding v = some f) :
    c.Grounds v f := by
  obtain ⟨hplain, hreference⟩ | ⟨k, hk, ⟨ht, rfl⟩ | ⟨t, ht, ⟨hi, hone⟩ | ⟨b, hi, hpair⟩ |
    ⟨b, b', others, hi, rfl⟩⟩⟩ := relationshipFinding_cases h
  · obtain ⟨t, ht, rfl⟩ := Option.map_eq_some_iff.1 hreference
    exact .plain t hplain ht
  · exact .unresolved (Attribute.isAssociation_of_cardinality hk) ht
  · obtain ⟨rfl, hkey, rfl⟩ | ⟨rfl, rfl⟩ := Finding.ofOneSide_cases hone
    · exact .unkeyed t hk ht hi hkey
    · exact .missingManyToOne t hk ht hi
  · have hclash : v.2.Clashes b :=
      (Finding.isSome_ofPair_iff _ _ hk).1 (Option.isSome_iff_exists.2 ⟨f, hpair⟩)
    exact .pair t b ht hi hclash f (Finding.isOfPair_of_ofPair hpair)
  · exact .inverses t b b' others (Attribute.isAssociation_of_cardinality hk) ht hi

/-- The rule for foreign keys has these. -/
theorem grounds_of_foreignKeyFinding {f : Finding} (h : c.foreignKeyFinding v = some f) :
    c.Grounds v f := by
  obtain ⟨hkey, hfound⟩ := foreignKeyFinding_eq_some_iff.1 h
  obtain ⟨hassociation, ht, rfl⟩ | ⟨t, ht, ⟨hcolumn, rfl⟩ | ⟨hcolumn, hne, back, hback, rfl⟩⟩ :=
    Finding.ofForeignKey_cases hfound
  · exact .dangling hkey hassociation ht
  · exact .column t hkey ht hcolumn
  · exact .circular t back hkey ht hcolumn hne hback

/-- All that a visit says has its grounds. -/
theorem grounds_of_said {f : Finding} (h : f ∈ c.said [] v) : c.Grounds v f := by
  rcases mem_said_nil.1 h with hshared | ⟨-, hrelationship | hkey⟩
  · exact grounds_of_ofSharedName hshared
  · exact grounds_of_relationshipFinding hrelationship
  · exact grounds_of_foreignKeyFinding hkey

/-- A diagnostic of the review is about a visited attribute, and it has the
words and the severity of a finding with grounds there. -/
theorem exists_grounds_of_mem_diagnostics {f : Finding} {id : AttributeId}
    (h : f.diagnostic id ∈ (c.review oneSided).diagnostics) :
    ∃ u ∈ c.visits, u.1.idOf u.2 = id ∧
      ∃ g, c.Grounds u g ∧ g.message = f.message ∧ g.severity = f.severity := by
  obtain ⟨u, hu, g, hg, heq⟩ := mem_diagnostics_review h
  obtain ⟨hseverity, hsubject, hmessage⟩ := Diagnostic.mk.inj heq
  exact ⟨u, hu, hsubject.symm, g, grounds_of_said hg, hmessage.symm, hseverity.symm⟩

/-- The review of the catalog reports the finding about the visited
attribute. -/
def Reports (c : Catalog) (oneSided : Bool) (v : Entity × Attribute) (f : Finding) : Prop :=
  f.diagnostic (v.1.idOf v.2) ∈ (c.review oneSided).diagnostics

/-- What is reported about an attribute has the words and the severity of a
finding with grounds. -/
theorem exists_grounds_of_reports (hc : c.AllKeyed) (hv : v ∈ c.visits) {f : Finding}
    (h : c.Reports oneSided v f) :
    ∃ g, c.Grounds v g ∧ g.message = f.message ∧ g.severity = f.severity := by
  obtain ⟨u, hu, hid, hg⟩ := exists_grounds_of_mem_diagnostics h
  rwa [eq_of_idOf_eq hc hu hv hid] at hg

/-! ### Links beside reports -/

/-- An attribute whose name the policy leaves open has no target. -/
theorem target?_eq_none_of_undecided {a : Attribute} (h : c.undecided a = true) :
    c.target? a = none := by
  obtain ⟨hstrict, hshared⟩ := undecided_iff.1 h
  rw [target?_of_ambiguousTargets_ne_nil hshared, hstrict]

/-- So an attribute with a target is none that the policy stops. -/
theorem undecided_eq_false_of_target? {a : Attribute} {t : Entity} (h : c.target? a = some t) :
    c.undecided a = false := by
  refine Bool.eq_false_iff.2 fun hundecided => ?_
  rw [target?_eq_none_of_undecided hundecided] at h
  cases h

/-- An association has no target exactly when the review reports that there is
none, or that the strict policy leaves its name open. -/
theorem target?_eq_none_iff_reports (hc : c.AllKeyed) (hv : v ∈ c.visits)
    (hassociation : v.2.isAssociation = true) :
    c.target? v.2 = none ↔ (∃ d, c.Reports oneSided v (.unresolvedTarget d)) ∨
      ∃ first others, c.Reports oneSided v (.ambiguousName first others .strict) := by
  constructor
  · intro ht
    cases hundecided : c.undecided v.2 with
    | false =>
      have hfound : c.relationshipFinding v =
          some (.unresolvedTarget (Finding.targetDescription v.2)) := by
        obtain ⟨k, hk⟩ := Option.isSome_iff_exists.1 hassociation
        simp only [relationshipFinding, hk, ht]
      exact Or.inl ⟨_, mem_diagnostics_of_said oneSided hv
        (mem_said_nil.2 (Or.inr ⟨hundecided, Or.inl hfound⟩)) rfl⟩
    | true =>
      obtain ⟨hstrict, hshared⟩ := undecided_iff.1 hundecided
      obtain ⟨first, others, hcandidates⟩ := List.exists_cons_of_ne_nil hshared
      have hfound : Finding.ofSharedName c v.2 =
          some (.ambiguousName first.ty (others.map Entity.ty) .strict) := by
        simp only [Finding.ofSharedName, hcandidates, hstrict]
      exact Or.inr ⟨_, _, mem_diagnostics_of_said oneSided hv (mem_said_nil.2 (Or.inl hfound)) rfl⟩
  · rintro (⟨d, h⟩ | ⟨first, others, h⟩)
    · obtain ⟨g, hg, hmessage, -⟩ := exists_grounds_of_reports hc hv h
      have hkind := Finding.kind_eq_of_message_eq hmessage
      cases hg with
      | unresolved hassociation ht => exact ht
      | pair _ _ _ _ _ _ hpair =>
        rw [Finding.isOfPair_eq, hkind] at hpair
        cases hpair
      | _ => cases hkind
    · obtain ⟨g, hg, hmessage, hseverity⟩ := exists_grounds_of_reports hc hv h
      have hkind := Finding.kind_eq_of_message_eq hmessage
      cases hg with
      | shared first others hshared =>
        have hnonempty : c.ambiguousTargets v.2 ≠ [] := by
          rw [hshared]
          exact List.cons_ne_nil _ _
        refine target?_eq_none_of_undecided (undecided_iff.2 ⟨?_, hnonempty⟩)
        -- Under the other policy the report is a warning.
        cases hpolicy : c.policy with
        | strict => rfl
        | firstMatch =>
          rw [hpolicy] at hseverity
          cases hseverity
      | pair _ _ _ _ _ _ hpair =>
        rw [Finding.isOfPair_eq, hkind] at hpair
        cases hpair
      | _ => cases hkind

/-- A report that several attributes map back has the words of the one about
the other sides. -/
theorem exists_inverses_of_reports (hc : c.AllKeyed) (hv : v ∈ c.visits) {target : Path}
    {first : String} {others : List String}
    (h : c.Reports oneSided v (.ambiguousInverse target first others)) :
    v.2.isAssociation = true ∧ ∃ t b b' rest, c.target? v.2 = some t ∧
      c.inverses v.1 v.2 t = b :: b' :: rest ∧
      (Finding.ambiguousInverse target first others).message =
        (Finding.ambiguousInverse t.ty b.name ((b' :: rest).map Attribute.name)).message := by
  obtain ⟨g, hg, hmessage, -⟩ := exists_grounds_of_reports hc hv h
  have hkind := Finding.kind_eq_of_message_eq hmessage
  cases hg with
  | inverses t b b' rest hassociation ht hi =>
    exact ⟨hassociation, t, b, b', rest, ht, hi, hmessage.symm⟩
  | pair _ _ _ _ _ _ hpair =>
    rw [Finding.isOfPair_eq, hkind] at hpair
    cases hpair
  | _ => cases hkind

/-- Several other sides are reported. -/
theorem reports_inverses (hv : v ∈ c.visits) (hassociation : v.2.isAssociation = true)
    {t : Entity} (ht : c.target? v.2 = some t) {b b' : Attribute} {rest : List Attribute}
    (hi : c.inverses v.1 v.2 t = b :: b' :: rest) :
    c.Reports oneSided v
      (.ambiguousInverse t.ty b.name ((b' :: rest).map Attribute.name)) := by
  have hfound : c.relationshipFinding v =
      some (.ambiguousInverse t.ty b.name ((b' :: rest).map Attribute.name)) := by
    obtain ⟨k, hk⟩ := Option.isSome_iff_exists.1 hassociation
    simp only [relationshipFinding, hk, ht, hi]
  exact mem_diagnostics_of_said oneSided hv
    (mem_said_nil.2 (Or.inr ⟨undecided_eq_false_of_target? ht, Or.inl hfound⟩)) rfl

/-- A foreign key with a target stores nothing exactly when the review reports
that the column is missing. -/
theorem targetColumn?_eq_none_iff_reports (hc : c.AllKeyed) (hv : v ∈ c.visits)
    (hkey : v.2.foreignKey = true) {t : Entity} (ht : c.target? v.2 = some t) :
    targetColumn? v.2 t = none ↔
      ∃ column target, c.Reports oneSided v (.missingColumn column target) := by
  constructor
  · intro hcolumn
    have hfound : Finding.ofForeignKey c v.1 v.2 =
        some (.missingColumn v.2.referencedColumn t.ty) := by
      simp only [Finding.ofForeignKey, ht, hcolumn, Option.isNone_none, if_true]
    exact ⟨_, _, mem_diagnostics_of_said oneSided hv (mem_said_nil.2 (Or.inr
      ⟨undecided_eq_false_of_target? ht, Or.inr (foreignKeyFinding_eq_some_iff.2
        ⟨hkey, hfound⟩)⟩)) rfl⟩
  · rintro ⟨column, target, h⟩
    obtain ⟨g, hg, hmessage, -⟩ := exists_grounds_of_reports hc hv h
    have hkind := Finding.kind_eq_of_message_eq hmessage
    cases hg with
    | column t' _ ht' hcolumn =>
      rw [ht] at ht'
      cases ht'
      exact hcolumn
    | pair _ _ _ _ _ _ hpair =>
      rw [Finding.isOfPair_eq, hkind] at hpair
      cases hpair
    | _ => cases hkind

end Catalog

/-! ### Links -/

/-- What a link names is in the catalog: its target and its junction are
residents, and its column and the other sides are attributes of the target, of
which none is the attribute itself. -/
structure Link.Grounded (l : Link) (c : Catalog) : Prop where
  target : ∀ ty, l.target = some ty → ∃ t, c.entity? ty = some t
  targetColumn : ∀ name, l.targetColumn = some name →
    ∃ ty t b, l.target = some ty ∧ c.entity? ty = some t ∧ t.attribute? name = some b
  inverse : ∀ id ∈ l.inverse, id ≠ l.source ∧ l.target = some id.entity ∧
    ∃ t b, c.entity? id.entity = some t ∧ t.attribute? id.name = some b
  junction : ∀ ty, l.junction = some ty → ∃ j, c.entity? ty = some j

/-- The review reports about the attribute what is missing in its link, or not
unique. -/
structure Link.ToldBy (l : Link) (c : Catalog) (oneSided : Bool) (v : Entity × Attribute) :
    Prop where
  /-- An association without a target leads nowhere, or has an open name. -/
  target : v.2.isAssociation = true →
    (l.target = none ↔ (∃ d, c.Reports oneSided v (.unresolvedTarget d)) ∨
      ∃ first others, c.Reports oneSided v (.ambiguousName first others .strict))
  several : 2 ≤ l.inverse.length ↔
    ∃ target first others, c.Reports oneSided v (.ambiguousInverse target first others)
  /-- The report names the other sides in order, and the first as the one that
  is used. -/
  first : ∀ target first others, c.Reports oneSided v (.ambiguousInverse target first others) →
    ∃ id rest, l.inverse = id :: rest ∧
      (Finding.ambiguousInverse target first others).message =
        (Finding.ambiguousInverse id.entity id.name (rest.map AttributeId.name)).message
  /-- A foreign key with a target may store nothing. -/
  targetColumn : v.2.foreignKey = true → l.target ≠ none →
    (l.targetColumn = none ↔
      ∃ column target, c.Reports oneSided v (.missingColumn column target))

namespace Catalog

variable {c : Catalog}

/-- What a foreign key stores is an attribute of its target. -/
theorem mem_of_targetColumn? {a b : Attribute} {t : Entity} (h : targetColumn? a t = some b) :
    b ∈ t.attributes.values := by
  have hkeys : ∀ key ∈ t.keyAttributes, key ∈ t.attributes.values :=
    fun key hkey => (List.mem_filter.1 hkey).1
  simp only [targetColumn?] at h
  split at h
  · exact OrderedMap.mem_values_iff.2 ⟨_, h⟩
  · split at h
    · rename_i key honly
      cases h
      refine hkeys b ?_
      rw [honly]
      exact List.mem_singleton_self b
    · exact hkeys b (List.mem_of_find?_eq_some h)

/-- The other sides in a link are those of an association with a target. -/
theorem inverse_link_of_target? {separator : String} {e t : Entity} {a : Attribute}
    (ht : c.target? a = some t) :
    (c.link separator e a).inverse =
      if a.isAssociation then (c.inverses e a t).map t.idOf else [] := by
  simp only [link]
  rw [ht]
  dsimp only
  split
  · rfl
  · rfl

/-- The junction of an association is a resident. -/
theorem mem_of_junctionOf? {separator : String} {e t : Entity} {a : Attribute}
    {inverses : List Attribute} {j : Entity}
    (h : c.junctionOf? separator e a t inverses = some j) : j ∈ c.entities := by
  simp only [junctionOf?] at h
  rcases Option.or_eq_some_iff.1 h with hnamed | ⟨-, hshared⟩
  · exact mem_of_entityOfTable? hnamed
  · obtain ⟨table, -, htable⟩ := Option.bind_eq_some_iff.1 hshared
    exact mem_of_entityOfTable? htable

/-- What a link names is in the catalog. -/
theorem grounded_link (hc : c.AllKeyed) (separator : String) (e : Entity) (a : Attribute) :
    (c.link separator e a).Grounded c := by
  cases ht : c.target? a with
  | none =>
    rw [link_of_target?_eq_none ht]
    exact ⟨fun ty h => (nomatch h), fun name h => (nomatch h), fun id h => (nomatch h),
      fun ty h => (nomatch h)⟩
  | some t =>
    have hmem : t ∈ c.entities := mem_of_target? ht
    have hresident : c.entity? t.ty = some t := entity?_eq_some_iff.2 ⟨hmem, rfl⟩
    have htarget : (c.link separator e a).target = some t.ty := by
      simp only [link, ht, Option.map_some]
    refine ⟨fun ty h => ?_, fun name h => ?_, fun id h => ?_, fun ty h => ?_⟩
    · rw [htarget] at h
      cases h
      exact ⟨t, hresident⟩
    · -- Attributes stand under their names, so the column is found by its name.
      simp only [link, ht, Option.bind_some] at h
      obtain ⟨b, hb, rfl⟩ := Option.map_eq_some_iff.1 h
      exact ⟨t.ty, t, b, htarget, hresident,
        (Entity.attribute?_eq_some_iff (hc t hmem)).2 ⟨mem_of_targetColumn? hb, rfl⟩⟩
    · rw [inverse_link_of_target? ht] at h
      split at h
      · obtain ⟨b, hb, rfl⟩ := List.mem_map.1 h
        obtain ⟨hattribute, hother⟩ := mem_of_mem_inverses hb
        -- The attribute itself is taken out of its other sides.
        refine ⟨fun hsame => hother ?_, htarget, t, b, hresident,
          (Entity.attribute?_eq_some_iff (hc t hmem)).2 ⟨hattribute, rfl⟩⟩
        exact AttributeId.mk.inj hsame
      · cases h
    · simp only [link, ht] at h
      split at h
      · obtain ⟨j, hj, rfl⟩ := Option.map_eq_some_iff.1 h
        exact ⟨j, entity?_eq_some_iff.2 ⟨mem_of_junctionOf? hj, rfl⟩⟩
      · cases h

/-- A link has several other sides where an association has them. -/
theorem two_le_length_inverse_link_iff {separator : String} {e : Entity} {a : Attribute} :
    2 ≤ (c.link separator e a).inverse.length ↔ a.isAssociation = true ∧
      ∃ t b b' rest, c.target? a = some t ∧ c.inverses e a t = b :: b' :: rest := by
  cases ht : c.target? a with
  | none =>
    rw [link_of_target?_eq_none ht]
    simp
  | some t =>
    rw [inverse_link_of_target? ht]
    cases a.isAssociation with
    | false => simp
    | true =>
      rw [if_pos rfl, List.length_map]
      rcases hi : c.inverses e a t with _ | ⟨b, _ | ⟨b', rest⟩⟩
      · simp [hi]
      · simp [hi]
      · simp [hi]

/-- What is missing in a link is reported. -/
theorem toldBy_link (hc : c.AllKeyed) (separator : String) (oneSided : Bool)
    {v : Entity × Attribute} (hv : v ∈ c.visits) :
    (c.link separator v.1 v.2).ToldBy c oneSided v where
  target hassociation := by
    show (c.target? v.2).map Entity.ty = none ↔ _
    rw [Option.map_eq_none_iff]
    exact target?_eq_none_iff_reports hc hv hassociation
  several := by
    rw [two_le_length_inverse_link_iff]
    constructor
    · rintro ⟨hassociation, t, b, b', rest, ht, hi⟩
      exact ⟨_, _, _, reports_inverses hv hassociation ht hi⟩
    · rintro ⟨target, first, others, h⟩
      obtain ⟨hassociation, t, b, b', rest, ht, hi, -⟩ := exists_inverses_of_reports hc hv h
      exact ⟨hassociation, t, b, b', rest, ht, hi⟩
  first target first others h := by
    obtain ⟨hassociation, t, b, b', rest, ht, hi, hmessage⟩ := exists_inverses_of_reports hc hv h
    refine ⟨t.idOf b, (b' :: rest).map t.idOf, ?_, ?_⟩
    · rw [inverse_link_of_target? ht, if_pos hassociation, hi]
      rfl
    · rw [hmessage, List.map_map]
      rfl
  targetColumn hkey hsome := by
    obtain ⟨t, ht⟩ : ∃ t, c.target? v.2 = some t :=
      Option.ne_none_iff_exists'.1 fun hnone => hsome (Option.map_eq_none_iff.2 hnone)
    show (((c.target? v.2).bind (targetColumn? v.2)).map Attribute.name) = none ↔ _
    rw [Option.map_eq_none_iff, ht, Option.bind_some]
    exact targetColumn?_eq_none_iff_reports hc hv hkey ht

/-- Built entities are added to a catalog. Every association and every foreign
key in it has one link. What the link names is in the catalog, and what is
missing in the link, or not unique, is what a review of the catalog reports
about the attribute. -/
theorem told_links_assemble {entities : List Entity} (hbuilt : ∀ e ∈ entities, e.IsBuilt)
    (model : String) (policy : NamePolicy) (t : Embeddables) (separator : String)
    (oneSided : Bool) :
    let c := assemble model policy t entities
    ∀ v ∈ c.visits, v.2.isAssociation = true ∨ v.2.foreignKey = true →
      ∃ l ∈ c.links separator, l.source = v.1.idOf v.2 ∧
        (∀ m ∈ c.links separator, m.source = v.1.idOf v.2 → m = l) ∧
        l.Grounded c ∧ l.ToldBy c oneSided v := by
  intro c v hv hlinked
  have hkeyed : c.AllKeyed := allKeyed_assemble hbuilt model policy t
  obtain ⟨he, ha⟩ := mem_visits.1 hv
  refine ⟨c.link separator v.1 v.2, mem_links.2 ⟨v.1, he, v.2, ha, hlinked, rfl⟩, rfl, ?_,
    grounded_link hkeyed separator v.1 v.2, toldBy_link hkeyed separator oneSided hv⟩
  intro m hm hsource
  obtain ⟨e, he', a, ha', -, rfl⟩ := mem_links.1 hm
  -- Links of one identity are links of one visit.
  have hsame : (e, a) = v := eq_of_idOf_eq hkeyed (mem_visits.2 ⟨he', ha'⟩) hv hsource
  rw [← hsame]

/-- Customers with orders. An order names a buyer and a payer, stores a column
of the payer that customers do not have, and belongs to a region that is not
there. -/
def customerOrders : List EntityDraft :=
  let id : Attribute := { Attribute.column "id" (.scalar .int64) with key := true }
  let toOne (name target : String) : Attribute :=
    { Attribute.column name (.named ⟨[target]⟩) with cardinality := some .manyToOne }
  let orders : Attribute :=
    { Attribute.column "orders" (.list (.named ⟨["Order"]⟩)) with
      cardinality := some .oneToMany }
  let payer : Attribute :=
    { toOne "payer" "Customer" with foreignKey := true, referencedColumn := some "code" }
  [{ EntityDraft.ofType ⟨["Customer"]⟩ with attributes := [id, orders] },
    { EntityDraft.ofType ⟨["Order"]⟩ with
      attributes := [id, toOne "buyer" "Customer", payer, toOne "region" "Region"] }]

/-- The link of the orders names both the buyer and the payer, and the review
reports this. -/
theorem told_customerOrders :
    let c := assemble "default" .strict .empty (EntityDraft.buildAll customerOrders)
    ∃ v ∈ c.visits, v.1.idOf v.2 = ⟨⟨["Customer"]⟩, "orders"⟩ ∧ v.2.isAssociation = true ∧
      ∃ l ∈ c.links "_", l.source = v.1.idOf v.2 ∧
        l.inverse = [⟨⟨["Order"]⟩, "buyer"⟩, ⟨⟨["Order"]⟩, "payer"⟩] ∧
        l.Grounded c ∧ l.ToldBy c true v ∧
        ∃ target first others, c.Reports true v (.ambiguousInverse target first others) := by
  intro c
  have hvisit : (c.visits.any fun v => decide (v.1.idOf v.2 = ⟨⟨["Customer"]⟩, "orders"⟩ ∧
      v.2.isAssociation = true)) = true := by
    decide +kernel
  have hinverse : ∀ l ∈ c.links "_", l.source = ⟨⟨["Customer"]⟩, "orders"⟩ →
      l.inverse = [⟨⟨["Order"]⟩, "buyer"⟩, ⟨⟨["Order"]⟩, "payer"⟩] := by
    decide +kernel
  obtain ⟨v, hv, htest⟩ := List.any_eq_true.1 hvisit
  obtain ⟨hid, hassociation⟩ := of_decide_eq_true htest
  obtain ⟨l, hl, hsource, -, hgrounded, htold⟩ := told_links_assemble
    (fun e he => EntityDraft.isBuilt_of_mem_buildAll he) "default" .strict .empty "_" true v hv
    (Or.inl hassociation)
  have hsides := hinverse l hl (hsource.trans hid)
  refine ⟨v, hv, hid, hassociation, l, hl, hsource, hsides, hgrounded, htold, htold.several.1 ?_⟩
  rw [hsides]
  exact Nat.le_refl 2

end Catalog

end SchemaLinker
