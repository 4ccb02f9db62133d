import SchemaLinker.Proofs.Assembly
import SchemaLinker.Proofs.Growth

/-!
# `SchemaLinker.Proofs.Settling`: what an attribute refers to settles

While entities are added to a catalog, what an attribute refers to may change: a
table comes to have a first entity and then a second, a simple name comes to be
shared, and an entity of the very type comes in at last. But the changes end. An
attribute refers to two entities at most, and not again to one that it referred
to before and then did not (`settles_receiveAll`).

`Catalog.GrowsTo` relates a catalog to what it becomes. The statement is about
three stages of one growth: what an attribute refers to at the first and at the
last, it refers to at the one between (`GrowsTo.target?_between`). Each way to
look an entity up has its own reason for this:

* An only entity at both ends is the only one between, because the entities of
  a table or of a name are never removed (`only?_between`).
* A first entity of a name, and the entity of a type, stay what they are.
* A path is a type before it is a simple name, so an entity found by its name
  may give way to the one of the type. It is not found by its type later, since
  then it had that type from the first (`GrowsTo.or_between`).

The bound of two is that of `Catalog.possibleTargets`.
-/

set_option autoImplicit false

namespace SchemaLinker.Catalog

/-! ### Growth -/

/-- The catalog `d` is `c` with more entities behind those of `c`. -/
structure GrowsTo (c d : Catalog) : Prop where
  policy : d.policy = c.policy
  entities : c.entities <+: d.entities

/-- A catalog grows to itself. -/
theorem GrowsTo.refl (c : Catalog) : c.GrowsTo c where
  policy := rfl
  entities := List.prefix_refl _

/-- What grows further has grown in all. -/
theorem GrowsTo.trans {c d e : Catalog} (hcd : c.GrowsTo d) (hde : d.GrowsTo e) : c.GrowsTo e where
  policy := hde.policy.trans hcd.policy
  entities := hcd.entities.trans hde.entities

/-- A catalog grows by an attempt to take an entity in. -/
theorem growsTo_receive (c : Catalog) (e : Entity) : c.GrowsTo (c.receive e) where
  policy := receive_policy c e
  entities := isPrefix_receive c e

/-- With every arrival a catalog grows or stays. -/
theorem growsTo_receiveAll (c : Catalog) (entities : List Entity) :
    c.GrowsTo (c.receiveAll entities) :=
  List.foldlRecOn entities receive (motive := c.GrowsTo) (.refl c)
    fun d hd e _ => hd.trans (d.growsTo_receive e)

/-- A catalog after some attempts grows to what it is after more of them. -/
theorem growsTo_receiveAll_of_isPrefix (c : Catalog) {earlier later : List Entity}
    (h : earlier <+: later) : (c.receiveAll earlier).GrowsTo (c.receiveAll later) := by
  obtain ⟨rest, rfl⟩ := h
  have hmore : c.receiveAll (earlier ++ rest) = (c.receiveAll earlier).receiveAll rest :=
    List.foldl_append
  rw [hmore]
  exact growsTo_receiveAll _ rest

/-! ### Between two stages -/

/-- The only element of a list and of a longer one is the only one between. -/
theorem only?_between {α : Type} {l m n : List α} (hlm : l <+: m) (hmn : m <+: n) {x : α}
    (hl : only? l = some x) (hn : only? n = some x) : only? m = some x := by
  rw [only?_eq_some_iff] at hl hn ⊢
  rw [hl] at hlm
  rw [hn] at hmn
  exact hmn.eq_of_length_le hlm.length_le

variable {c d e : Catalog}

/-- A table with the same entity before and after has it in between. -/
theorem GrowsTo.entityOfTable?_between (hcd : c.GrowsTo d) (hde : d.GrowsTo e) {table : String}
    {t : Entity} (hc : c.entityOfTable? table = some t) (he : e.entityOfTable? table = some t) :
    d.entityOfTable? table = some t :=
  only?_between (hcd.entities.filter _) (hde.entities.filter _) hc he

/-- So it is with a name. -/
theorem GrowsTo.entityOfName?_between (hcd : c.GrowsTo d) (hde : d.GrowsTo e) {name : String}
    {t : Entity} (hc : c.entityOfName? name = some t) (he : e.entityOfName? name = some t) :
    d.entityOfName? name = some t := by
  simp only [entityOfName?] at hc he ⊢
  rw [hde.policy] at he
  rw [hcd.policy] at he ⊢
  cases hpolicy : c.policy with
  | firstMatch =>
    rw [hpolicy] at hc
    exact mem_head?_filter_of_isPrefix hcd.entities hc
  | strict =>
    rw [hpolicy] at hc he
    exact only?_between (hcd.entities.filter _) (hde.entities.filter _) hc he

/-- What is not there was not there before. -/
theorem GrowsTo.entity?_eq_none (hcd : c.GrowsTo d) {ty : Path} (h : d.entity? ty = none) :
    c.entity? ty = none := by
  cases hc : c.entity? ty with
  | none => rfl
  | some t =>
    rw [entity?_of_isPrefix hcd.entities hc] at h
    cases h

/-- A type is looked for before another look-up, of whose answers at three
stages `x`, `y` and `z` the one between is known. -/
theorem GrowsTo.or_between (hcd : c.GrowsTo d) (hde : d.GrowsTo e) {p : Path}
    {x y z : Option Entity} {t : Entity} (hresident : x = some t → t ∈ c.entities)
    (hbetween : x = some t → z = some t → y = some t) (hc : (c.entity? p).or x = some t)
    (he : (e.entity? p).or z = some t) : (d.entity? p).or y = some t := by
  rcases Option.or_eq_some_iff.1 hc with htype | ⟨hnew, hx⟩
  · rw [entity?_of_isPrefix hcd.entities htype, Option.some_or]
  · rcases Option.or_eq_some_iff.1 he with htype | ⟨hnever, hz⟩
    · -- The entity was resident from the first, so its type was, too.
      have hold : c.entity? p = some t :=
        entity?_eq_some_iff.2 ⟨hresident hx, ty_of_entity? htype⟩
      rw [hnew] at hold
      cases hold
    · rw [hde.entity?_eq_none hnever, Option.none_or]
      exact hbetween hx hz

/-- So it is with a path, whichever way it is found. -/
theorem GrowsTo.entityOfPath?_between (hcd : c.GrowsTo d) (hde : d.GrowsTo e) {p : Path}
    {t : Entity} (hc : c.entityOfPath? p = some t) (he : e.entityOfPath? p = some t) :
    d.entityOfPath? p = some t := by
  simp only [entityOfPath?] at hc he ⊢
  refine hcd.or_between hde ?_ ?_ hc he
  · intro hname
    split at hname
    · cases hname
    · exact mem_of_entityOfName? hname
  · intro hname hname'
    split at hname
    · cases hname
    · rename_i hplain
      rw [if_neg hplain] at hname' ⊢
      exact hcd.entityOfName?_between hde hname hname'

/-- So it is with a type. -/
theorem GrowsTo.entityOfType?_between (hcd : c.GrowsTo d) (hde : d.GrowsTo e) {ty : DataType}
    {t : Entity} (hc : c.entityOfType? ty = some t) (he : e.entityOfType? ty = some t) :
    d.entityOfType? ty = some t := by
  simp only [entityOfType?] at hc he ⊢
  cases hpath : ty.element.path? with
  | none =>
    rw [hpath] at hc
    cases hc
  | some p =>
    rw [hpath, Option.bind_some] at hc he
    exact hcd.or_between hde mem_of_entityOfName? (hcd.entityOfName?_between hde) hc he

/-- What an attribute refers to at two stages of a growth, it refers to at every
stage between. -/
theorem GrowsTo.target?_between (hcd : c.GrowsTo d) (hde : d.GrowsTo e) {a : Attribute}
    {t : Entity} (hc : c.target? a = some t) (he : e.target? a = some t) :
    d.target? a = some t := by
  simp only [target?] at hc he ⊢
  cases htable : a.referencedTable with
  | some table =>
    rw [htable] at hc he
    exact hcd.entityOfTable?_between hde hc he
  | none =>
    rw [htable] at hc he
    cases hty : a.referencedType with
    | some ty =>
      rw [hty] at hc he
      obtain ⟨p, hp, hfound⟩ := Option.bind_eq_some_iff.1 hc
      simp only [hp, Option.bind_some] at he ⊢
      exact hcd.entityOfPath?_between hde hfound he
    | none =>
      rw [hty] at hc he
      exact hcd.entityOfType?_between hde hc he

/-! ### A whole growth -/

/-- What an attribute refers to after the first attempts to take in the entities
of a list. -/
def targetAfter? (c : Catalog) (entities : List Entity) (a : Attribute) (n : Nat) :
    Option Entity :=
  (c.receiveAll (entities.take n)).target? a

/-- The entities that are referred to as time goes on. -/
structure Settles (target : Nat → Option Entity) : Prop where
  /-- Over the whole time there are two of them at most. -/
  atMostTwo : ∃ targets : List Entity, targets.length ≤ 2 ∧
    ∀ n t, target n = some t → t ∈ targets
  /-- An entity that is left is left for good. -/
  noReturn : ∀ i j k t, i ≤ j → j ≤ k → target i = some t → target j ≠ some t →
    target k ≠ some t

/-- Entities are added to a catalog of either policy, one after the other.
However many they are, and whether they come in or not, an attribute refers to
two entities at most, and never again to one that it no longer referred to. -/
theorem settles_receiveAll (c : Catalog) (entities : List Entity) (a : Attribute) :
    Settles (c.targetAfter? entities a) where
  atMostTwo := by
    refine ⟨(c.receiveAll entities).possibleTargets a, length_possibleTargets_le _ a, ?_⟩
    intro n t ht
    -- What was possible after some attempts is possible after all of them.
    have hgrown := c.growsTo_receiveAll_of_isPrefix (List.take_prefix n entities)
    exact mem_possibleTargets_of_isPrefix hgrown.entities (mem_possibleTargets ht)
  noReturn := by
    intro i j k t hij hjk hi hj hk
    have hfirst := c.growsTo_receiveAll_of_isPrefix (List.take_prefix_take_left (l := entities) hij)
    have hlast := c.growsTo_receiveAll_of_isPrefix (List.take_prefix_take_left (l := entities) hjk)
    exact hj (hfirst.target?_between hlast hi hk)

/-- Under the strict policy people are found by their simple name, lost when it
is shared, and then others are found by the type. -/
example :
    ((List.range 4).map ((empty defaultModel .strict .empty).targetAfter?
      (EntityDraft.buildAll [EntityDraft.ofType ⟨["a", "Person"]⟩,
        EntityDraft.ofType ⟨["b", "Person"]⟩, EntityDraft.ofType ⟨["Person"]⟩])
      (Attribute.column "people" (.list (.named ⟨["Person"]⟩))))).map (·.map Entity.ty) =
    [none, some ⟨["a", "Person"]⟩, none, some ⟨["Person"]⟩] := by decide +kernel

end SchemaLinker.Catalog
