import SchemaLinker.Proofs.Rules

/-!
# `SchemaLinker.Proofs.Messages`: the kinds of findings in their messages

A diagnostic keeps the words of a finding, not the finding. What kind of
finding it was can be read off the words.

* `Finding.exists_opening`: a message begins with fixed words of its kind.
* `Finding.Kind.eq_of_prefix`: the words of one kind are never the beginning
  of the words of another.
* `Finding.kind_eq_of_message_eq`: so findings with one message are of one
  kind.

What stands between the fixed words are names, and a name may itself contain
quotes and commas. So a message does not determine the finding. For the same
reason two findings about the other side of an association, that it is no
association and that it is one of another cardinality, count as one kind:
both begin with a name.
-/

set_option autoImplicit false

namespace SchemaLinker.Finding

/-! ### Kinds and their words -/

/-- The kinds of findings that messages tell apart. -/
inductive Kind
  | ambiguousName
  | plainReference
  | unresolvedTarget
  | unkeyedOneToOne
  | missingManyToOne
  /-- The other side does not have the cardinality it should have. -/
  | misfit
  | junctionUndeclared
  | junctionDeclaredTwice
  | foreignKeyUndeclared
  | foreignKeyDeclaredTwice
  | ambiguousInverse
  | danglingForeignKey
  | missingColumn
  | circularForeignKey
  | junctionFailed
deriving DecidableEq

/-- The kind of a finding. -/
def kind : Finding → Kind
  | ambiguousName _ _ _ => .ambiguousName
  | plainReference _ => .plainReference
  | unresolvedTarget _ => .unresolvedTarget
  | unkeyedOneToOne => .unkeyedOneToOne
  | missingManyToOne _ => .missingManyToOne
  | inverseWithoutRelationship _ _ _ => .misfit
  | inverseMismatch _ _ _ _ => .misfit
  | junctionUndeclared _ _ => .junctionUndeclared
  | junctionDeclaredTwice _ _ => .junctionDeclaredTwice
  | foreignKeyUndeclared => .foreignKeyUndeclared
  | foreignKeyDeclaredTwice _ _ => .foreignKeyDeclaredTwice
  | ambiguousInverse _ _ _ => .ambiguousInverse
  | danglingForeignKey _ => .danglingForeignKey
  | missingColumn _ _ => .missingColumn
  | circularForeignKey _ _ _ => .circularForeignKey
  | junctionFailed _ => .junctionFailed

namespace Kind

/-- All kinds. -/
def all : List Kind :=
  [ambiguousName, plainReference, unresolvedTarget, unkeyedOneToOne, missingManyToOne, misfit,
    junctionUndeclared, junctionDeclaredTwice, foreignKeyUndeclared, foreignKeyDeclaredTwice,
    ambiguousInverse, danglingForeignKey, missingColumn, circularForeignKey, junctionFailed]

/-- There are no others. -/
theorem mem_all (k : Kind) : k ∈ all := by
  cases k <;> decide

/-- The fixed words with which the messages of a kind begin. A missing column
has a name, or else it is the primary key. -/
def openings : Kind → List String
  | ambiguousName => ["type name "]
  | plainReference => ["entity reference "]
  | unresolvedTarget => ["couldn't find referenced element "]
  | unkeyedOneToOne => ["single-sided OneToOne must declare a foreign key"]
  | missingManyToOne => ["no matching ManyToOne found on "]
  | misfit => ["`"]
  | junctionUndeclared => ["ManyToMany must declare the junction on one side ("]
  | junctionDeclaredTwice => ["only one side of a ManyToMany may declare the junction; "]
  | foreignKeyUndeclared => ["OneToOne must specify ForeignKey on one side"]
  | foreignKeyDeclaredTwice => ["OneToOne must specify ForeignKey on only one side; "]
  | ambiguousInverse => ["ambiguous mapping: "]
  | danglingForeignKey => ["foreign key "]
  | missingColumn => ["couldn't find referenced column ",
      "couldn't find referenced key attribute on "]
  | circularForeignKey => ["circular foreign key reference between "]
  | junctionFailed => ["couldn't synthesize junction: "]

/-- The words of one kind are not the beginning of those of another. -/
theorem eq_of_prefix {k l : Kind} {s t : String} (hs : s ∈ k.openings) (ht : t ∈ l.openings)
    (h : s.toList <+: t.toList) : k = l := by
  have hall : ∀ k ∈ all, ∀ l ∈ all, ∀ s ∈ k.openings, ∀ t ∈ l.openings,
      s.toList <+: t.toList → k = l := by
    decide +kernel
  exact hall k k.mem_all l l.mem_all s hs t ht h

/-- Whether the findings of a kind are about the two sides of an association. -/
def isOfPair : Kind → Bool
  | misfit => true
  | junctionUndeclared => true
  | junctionDeclaredTwice => true
  | foreignKeyUndeclared => true
  | foreignKeyDeclaredTwice => true
  | _ => false

end Kind

/-- The kind of a finding tells whether it is about a pair. -/
theorem isOfPair_eq (f : Finding) : f.isOfPair = f.kind.isOfPair := by
  cases f <;> rfl

/-! ### What a message begins with -/

/-- The text `t` begins with `s`. -/
def BeginsWith (t s : String) : Prop := ∃ rest, t = s ++ rest

/-- A text begins with all of itself. -/
theorem BeginsWith.refl (s : String) : BeginsWith s s := ⟨"", String.append_empty.symm⟩

/-- A text goes on as it began. -/
theorem BeginsWith.append {t s : String} (h : BeginsWith t s) (u : String) :
    BeginsWith (t ++ u) s := by
  obtain ⟨rest, rfl⟩ := h
  exact ⟨rest ++ u, String.append_assoc⟩

/-- A quoted name begins with its quote. -/
theorem beginsWith_ticked {α : Type} [ToString α] (a : α) : BeginsWith (ticked a) "`" :=
  ((BeginsWith.refl _).append _).append _

/-- A message begins with words of its kind. -/
theorem exists_opening (f : Finding) : ∃ s ∈ f.kind.openings, BeginsWith f.message s := by
  cases f with
  | ambiguousName first others policy =>
    have hmatched : BeginsWith ("type name " ++ ticked first.simpleName ++
        " is ambiguous; matches " ++ tickedList (first :: others)) "type name " :=
      (((BeginsWith.refl _).append _).append _).append _
    -- Where the first match is used, the message goes on to name it.
    refine ⟨_, List.mem_cons_self, ?_⟩
    cases policy with
    | firstMatch => exact (hmatched.append _).append _
    | strict => exact hmatched
  | plainReference target =>
    exact ⟨_, List.mem_cons_self, ((BeginsWith.refl _).append _).append _⟩
  | unresolvedTarget description => exact ⟨_, List.mem_cons_self, (BeginsWith.refl _).append _⟩
  | unkeyedOneToOne => exact ⟨_, List.mem_cons_self, BeginsWith.refl _⟩
  | missingManyToOne target => exact ⟨_, List.mem_cons_self, (BeginsWith.refl _).append _⟩
  | inverseWithoutRelationship source cardinality mapped =>
    exact ⟨_, List.mem_cons_self,
      ((((((beginsWith_ticked source).append _).append _).append _).append _).append _).append _⟩
  | inverseMismatch source cardinality mapped actual =>
    exact ⟨_, List.mem_cons_self,
      ((((((((beginsWith_ticked source).append _).append _).append _).append _).append
        _).append _).append _).append _⟩
  | junctionUndeclared source mapped =>
    exact ⟨_, List.mem_cons_self,
      ((((BeginsWith.refl _).append _).append _).append _).append _⟩
  | junctionDeclaredTwice source mapped =>
    exact ⟨_, List.mem_cons_self,
      ((((BeginsWith.refl _).append _).append _).append _).append _⟩
  | foreignKeyUndeclared => exact ⟨_, List.mem_cons_self, BeginsWith.refl _⟩
  | foreignKeyDeclaredTwice source mapped =>
    exact ⟨_, List.mem_cons_self,
      ((((BeginsWith.refl _).append _).append _).append _).append _⟩
  | ambiguousInverse target first others =>
    exact ⟨_, List.mem_cons_self,
      (((((((BeginsWith.refl _).append _).append _).append _).append _).append _).append
        _).append _⟩
  | danglingForeignKey name =>
    exact ⟨_, List.mem_cons_self, ((BeginsWith.refl _).append _).append _⟩
  | missingColumn column target =>
    cases column with
    | none =>
      exact ⟨"couldn't find referenced key attribute on ", List.mem_cons_of_mem _
        (List.mem_singleton_self _), (BeginsWith.refl _).append _⟩
    | some name =>
      have hcolumn : BeginsWith ("couldn't find referenced " ++ ("column " ++ ticked name))
          "couldn't find referenced column " := ⟨ticked name, String.append_assoc.symm⟩
      exact ⟨_, List.mem_cons_self, (hcolumn.append _).append _⟩
  | circularForeignKey source target via =>
    exact ⟨_, List.mem_cons_self,
      ((((((BeginsWith.refl _).append _).append _).append _).append _).append _).append _⟩
  | junctionFailed reason => exact ⟨_, List.mem_cons_self, (BeginsWith.refl _).append _⟩

/-- Findings with one message are of one kind. -/
theorem kind_eq_of_message_eq {f g : Finding} (h : f.message = g.message) : f.kind = g.kind := by
  obtain ⟨s, hs, rest, hf⟩ := f.exists_opening
  obtain ⟨t, ht, other, hg⟩ := g.exists_opening
  have htext : s.toList ++ rest.toList = t.toList ++ other.toList := by
    rw [← String.toList_append, ← String.toList_append, ← hf, ← hg, h]
  -- Of two beginnings of one text one is the beginning of the other.
  rcases List.prefix_or_prefix_of_prefix (List.prefix_append _ _)
      (htext ▸ List.prefix_append t.toList other.toList) with hle | hle
  · exact Kind.eq_of_prefix hs ht hle
  · exact (Kind.eq_of_prefix ht hs hle).symm

end SchemaLinker.Finding
