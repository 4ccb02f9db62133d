import SchemaLinker.Review.Rules

/-!
# `SchemaLinker.Proofs.Rules`: what the rules find

The lemmas say of each rule when it finds nothing and what it can find, so
that the facts about a review need not open the rules.

The pair rule has the most to say. `Attribute.Clashes` lists the ways in which
two sides do not fit together, without the words in which they are reported,
and `Finding.isSome_ofPair_iff` says that the rule finds something exactly
then. The list does not care which of two associations is looked at first
(`Attribute.Clashes.comm`). `Finding.isOfPair` tells the findings of this rule
from those of the others; they are errors.

The rule for foreign keys looks at one key at a time. It stops at a missing
column, and of the keys that lead back it names the first
(`Finding.ofForeignKey_of_target?`).
-/

set_option autoImplicit false

namespace SchemaLinker

/-! ### The pair rule -/

/-- Whether a finding is about the two sides of an association. -/
def Finding.isOfPair : Finding → Bool
  | inverseWithoutRelationship _ _ _ => true
  | inverseMismatch _ _ _ _ => true
  | junctionUndeclared _ _ => true
  | junctionDeclaredTwice _ _ => true
  | foreignKeyUndeclared => true
  | foreignKeyDeclaredTwice _ _ => true
  | _ => false

/-- The attribute `b` on the other side does not fit the association `a`. -/
inductive Attribute.Clashes (a b : Attribute) : Prop
  /-- The other side is a plain column. -/
  | plain (hb : b.cardinality = none)
  /-- The other side is an association of another cardinality than expected. -/
  | mismatch (k actual : Cardinality) (ha : a.cardinality = some k)
      (hb : b.cardinality = some actual) (hne : actual ≠ k.inverse)
  /-- Both sides declare the junction, or neither does. -/
  | junction (ha : a.cardinality = some .manyToMany) (hb : b.cardinality = some .manyToMany)
      (hsame : a.junction.isSome = b.junction.isSome)
  /-- Both sides are foreign keys, or neither is. -/
  | foreignKey (ha : a.cardinality = some .oneToOne) (hb : b.cardinality = some .oneToOne)
      (hsame : a.foreignKey = b.foreignKey)

namespace Finding

/-- Two sides fit together when the pair rule finds nothing. -/
theorem ofPair_eq_none_iff {source mapped : AttributeId} {a b : Attribute} {k : Cardinality} :
    ofPair source a k mapped b = none ↔
      b.cardinality = some k.inverse ∧
        (k = .manyToMany → a.junction.isSome ≠ b.junction.isSome) ∧
        (k = .oneToOne → a.foreignKey ≠ b.foreignKey) := by
  simp only [ofPair]
  cases hb : b.cardinality with
  | none => simp
  | some actual =>
    by_cases hk : actual = k.inverse
    · cases k <;> cases a.junction.isSome <;> cases b.junction.isSome <;>
        cases a.foreignKey <;> cases b.foreignKey <;> simp [hk]
    · simp [hk]

/-- The pair rule finds something when the other side does not fit. -/
theorem isSome_ofPair_iff (source mapped : AttributeId) {a b : Attribute} {k : Cardinality}
    (hk : a.cardinality = some k) :
    (ofPair source a k mapped b).isSome = true ↔ a.Clashes b := by
  rw [Option.isSome_iff_ne_none, Ne, ofPair_eq_none_iff]
  constructor
  · intro hnot
    cases hb : b.cardinality with
    | none => exact .plain hb
    | some actual =>
      by_cases hfits : actual = k.inverse
      · -- Of the two conditions that are left one fails.
        subst hfits
        refine Classical.byContradiction fun hno => hnot ⟨hb, ?_, ?_⟩
        · rintro rfl hsame
          exact hno (.junction hk hb hsame)
        · rintro rfl hsame
          exact hno (.foreignKey hk hb hsame)
      · exact .mismatch k actual hk hb hfits
  · rintro (hb | ⟨k', actual, ha, hb, hne⟩ | ⟨ha, hb, hsame⟩ | ⟨ha, hb, hsame⟩)
      ⟨hfits, hjunction, hkey⟩
    · rw [hb] at hfits
      cases hfits
    · cases hk.symm.trans ha
      exact hne (Option.some.inj (hb.symm.trans hfits))
    · exact hjunction (Option.some.inj (hk.symm.trans ha)) hsame
    · exact hkey (Option.some.inj (hk.symm.trans ha)) hsame

/-- What the pair rule finds is about a pair. -/
theorem isOfPair_of_ofPair {source mapped : AttributeId} {a b : Attribute} {k : Cardinality}
    {f : Finding} (h : ofPair source a k mapped b = some f) : f.isOfPair = true := by
  simp only [ofPair] at h
  cases hb : b.cardinality with
  | none =>
    rw [hb] at h
    cases h
    rfl
  | some actual =>
    rw [hb] at h
    dsimp only at h
    split at h
    · cases h
      rfl
    · cases k <;> dsimp only at h
      · split at h <;> cases h <;> rfl
      · cases h
      · cases h
      · split at h <;> cases h <;> rfl

/-- What is found about a pair is an error. -/
theorem severity_of_isOfPair {f : Finding} (h : f.isOfPair = true) : f.severity = .error := by
  simp only [isOfPair] at h
  split at h
  · rfl
  · rfl
  · rfl
  · rfl
  · rfl
  · rfl
  · cases h

/-- Every finding of the pair rule is an error. -/
theorem severity_of_ofPair {source mapped : AttributeId} {a b : Attribute} {k : Cardinality}
    {f : Finding} (h : ofPair source a k mapped b = some f) : f.severity = .error :=
  severity_of_isOfPair (isOfPair_of_ofPair h)

end Finding

/-- Of two associations both or neither do not fit, whichever is looked at
first. -/
theorem Attribute.Clashes.comm {a b : Attribute} (ha : a.isAssociation = true)
    (hb : b.isAssociation = true) : a.Clashes b ↔ b.Clashes a := by
  obtain ⟨ka, hka⟩ := Option.isSome_iff_exists.1 ha
  obtain ⟨kb, hkb⟩ := Option.isSome_iff_exists.1 hb
  -- The rule does not look at the entities, so any will do.
  let left : AttributeId := ⟨⟨[]⟩, a.name⟩
  let right : AttributeId := ⟨⟨[]⟩, b.name⟩
  rw [← Finding.isSome_ofPair_iff left right hka, ← Finding.isSome_ofPair_iff right left hkb,
    Finding.ofPair_isSome_comm hka hkb]

/-! ### The other rules -/

/-- The first foreign key of `t` that leads to `e`. -/
def Catalog.keyBack? (c : Catalog) (t e : Entity) : Option Attribute :=
  t.foreignKeys.find? fun b => (c.target? b).any fun s => s.ty == e.ty

namespace Finding

/-- An association without another side stands by itself when the rule for
it finds nothing. -/
theorem ofOneSide_eq_none_iff {a : Attribute} {k : Cardinality} {t : Entity} :
    ofOneSide a k t = none ↔ k ≠ .oneToMany ∧ (k = .oneToOne → a.foreignKey = true) := by
  simp only [ofOneSide]
  cases k <;> cases a.foreignKey <;> simp

/-- What is found about an association without another side. -/
theorem ofOneSide_cases {a : Attribute} {k : Cardinality} {t : Entity} {f : Finding}
    (h : ofOneSide a k t = some f) :
    (k = .oneToOne ∧ a.foreignKey = false ∧ f = .unkeyedOneToOne) ∨
      (k = .oneToMany ∧ f = .missingManyToOne t.ty) := by
  simp only [ofOneSide] at h
  split at h
  · split at h
    · cases h
    · rename_i hkey
      cases h
      exact Or.inl ⟨rfl, Bool.eq_false_iff.2 hkey, rfl⟩
  · cases h
    exact Or.inr ⟨rfl, rfl⟩
  · cases h

/-- It is an error, and it is about one side only. -/
theorem severity_isOfPair_of_ofOneSide {a : Attribute} {k : Cardinality} {t : Entity} {f : Finding}
    (h : ofOneSide a k t = some f) : f.severity = .error ∧ f.isOfPair = false := by
  obtain ⟨-, -, rfl⟩ | ⟨-, rfl⟩ := ofOneSide_cases h
  · exact ⟨rfl, rfl⟩
  · exact ⟨rfl, rfl⟩

/-- A plain column with the type of an entity is an error. -/
theorem severity_of_ofPlainColumn {c : Catalog} {a : Attribute} {f : Finding}
    (h : ofPlainColumn c a = some f) : f.severity = .error := by
  obtain ⟨t, -, rfl⟩ := Option.map_eq_some_iff.1 h
  rfl

/-- What the rule finds about a foreign key with a target. -/
theorem ofForeignKey_of_target? {c : Catalog} {e t : Entity} {a : Attribute}
    (ht : c.target? a = some t) :
    ofForeignKey c e a =
      if Catalog.targetColumn? a t = none then some (.missingColumn a.referencedColumn t.ty)
      else if t.ty = e.ty then none
      else (c.keyBack? t e).map fun back => .circularForeignKey e.ty t.ty (t.idOf back) := by
  simp only [ofForeignKey, ht, Option.isNone_iff_eq_none]
  rfl

/-- What is found about a foreign key: an association leads nowhere, the
attribute that it stores is not there, or its target leads back. -/
theorem ofForeignKey_cases {c : Catalog} {e : Entity} {a : Attribute} {f : Finding}
    (h : ofForeignKey c e a = some f) :
    (a.isAssociation = true ∧ c.target? a = none ∧ f = .danglingForeignKey a.name) ∨
      ∃ t, c.target? a = some t ∧
        ((Catalog.targetColumn? a t = none ∧ f = .missingColumn a.referencedColumn t.ty) ∨
          (Catalog.targetColumn? a t ≠ none ∧ t.ty ≠ e.ty ∧ ∃ back, c.keyBack? t e = some back ∧
            f = .circularForeignKey e.ty t.ty (t.idOf back))) := by
  cases ht : c.target? a with
  | none =>
    simp only [ofForeignKey, ht] at h
    split at h
    · rename_i hassoc
      cases h
      exact Or.inl ⟨hassoc, rfl, rfl⟩
    · cases h
  | some t =>
    rw [ofForeignKey_of_target? ht] at h
    refine Or.inr ⟨t, rfl, ?_⟩
    split at h
    · rename_i hcolumn
      cases h
      exact Or.inl ⟨hcolumn, rfl⟩
    · rename_i hcolumn
      split at h
      · cases h
      · rename_i hne
        obtain ⟨back, hback, rfl⟩ := Option.map_eq_some_iff.1 h
        exact Or.inr ⟨hcolumn, hne, back, hback, rfl⟩

/-- The only error of a foreign key is an association that leads
nowhere. -/
theorem exists_error_ofForeignKey {c : Catalog} {e : Entity} {a : Attribute} :
    (∃ f, ofForeignKey c e a = some f ∧ f.severity = .error) ↔
      a.isAssociation = true ∧ c.target? a = none := by
  constructor
  · rintro ⟨f, hf, herror⟩
    obtain ⟨hassoc, ht, -⟩ | ⟨t, -, ⟨-, rfl⟩ | ⟨-, -, back, -, rfl⟩⟩ := ofForeignKey_cases hf
    · exact ⟨hassoc, ht⟩
    -- What is said about a key with a target is a warning.
    · cases herror
    · cases herror
  · rintro ⟨hassoc, ht⟩
    exact ⟨.danglingForeignKey a.name, by simp [ofForeignKey, ht, hassoc], rfl⟩

/-- What is found about a foreign key is about no pair. -/
theorem isOfPair_of_ofForeignKey {c : Catalog} {e : Entity} {a : Attribute} {f : Finding}
    (h : ofForeignKey c e a = some f) : f.isOfPair = false := by
  obtain ⟨-, -, rfl⟩ | ⟨t, -, ⟨-, rfl⟩ | ⟨-, -, back, -, rfl⟩⟩ := ofForeignKey_cases h
  · rfl
  · rfl
  · rfl

/-- A shared name is about no pair. -/
theorem isOfPair_of_ofSharedName {c : Catalog} {a : Attribute} {f : Finding}
    (h : ofSharedName c a = some f) : f.isOfPair = false := by
  simp only [ofSharedName] at h
  split at h
  · cases h
  · cases h
    rfl

end Finding

end SchemaLinker
