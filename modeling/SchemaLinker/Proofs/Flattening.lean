import SchemaLinker.Proofs.Expansion

/-!
# `SchemaLinker.Proofs.Flattening`: flattening is an expansion in order

`Embeddables.absorb` goes through what an attribute stands for with the map
of the attributes so far in its hand, names an inner attribute before it looks
inside, and counts the levels below. `Embeddables.expansion` says the same
without any of this: it is the list of what an attribute stands for, and what
stands for an inner attribute gets the outer name afterwards. It ends because
fewer and fewer embeddables are left to open (`length_unopened_lt`).

The two agree, for an attribute expands to the same list before and after it
is named (`expansion_nestedIn`), and the levels never run out
(`absorb_eq_foldl_expansion`). What is added to a map one after the other,
names that are there passed over, is the list with the first attribute of each
name (`OrderedMap.entries_foldl_insertIfNew`).

`flatten_eq_expansion` puts this together for an entity that was built, and
there the short way for entities in which nothing is embedded leads to the
same.
-/

set_option autoImplicit false

namespace SchemaLinker

/-- Whether two attributes have one name. -/
def Attribute.sameName (a b : Attribute) : Bool := a.name == b.name

/-- The first attribute of each name, in order. -/
def firstOfEachName (l : List Attribute) : List Attribute := l.eraseDupsBy Attribute.sameName

/-- The name is the key. -/
theorem firstOfEachName_eq (l : List Attribute) :
    firstOfEachName l = firstOfEach Attribute.name l := rfl

/-- In a keyed map the entries are the attributes under their names. -/
theorem KeyedAttributes.entries_eq {m : OrderedMap String Attribute} (h : KeyedAttributes m) :
    m.entries = m.values.map fun a => (a.name, a) := by
  have hname : ∀ p ∈ m.entries, p = (p.2.name, p.2) := fun p hp =>
    Prod.ext (h p.1 p.2 (OrderedMap.get?_eq_some_iff.2 hp)).symm rfl
  rw [OrderedMap.values, List.map_map]
  exact (List.map_id _).symm.trans (List.map_congr_left hname)

/-- What is nested in a nested attribute carries all names, and is nullable
if any of them is. -/
theorem Attribute.nestedIn_nestedIn (a inner outer : Attribute) :
    a.nestedIn (inner.nestedIn outer) = (a.nestedIn inner).nestedIn outer := by
  simp only [nestedIn, String.append_assoc, Bool.or_assoc]

namespace OrderedMap

/-- Attributes that are added under their names, one after the other, come in
order, but for those whose name is there already. -/
theorem entries_foldl_insertIfNew (l : List Attribute) (m : OrderedMap String Attribute) :
    (l.foldl (fun m a => m.insertIfNew a.name a) m).entries =
      m.entries ++ (firstOfEachName (l.filter fun a => !m.contains a.name)).map
        fun a => (a.name, a) := by
  induction l generalizing m with
  | nil => exact (List.append_nil _).symm
  | cons a rest ih =>
    rw [List.foldl_cons, ih]
    obtain ⟨hthere, hsame⟩ | ⟨hnew, hinsert⟩ := insertIfNew_cases m a.name a
    · rw [hsame, List.filter_cons_of_neg (by simp [hthere])]
    · have hnone : m.get? a.name = none := by simpa [contains] using hnew
      -- Behind the new attribute its name is there, too.
      have hrest : (rest.filter fun b => !(m.insert a.name a).contains b.name) =
          (rest.filter fun b => !m.contains b.name).filter
            fun b => Attribute.sameName b a = false := by
        rw [List.filter_filter]
        refine List.filter_congr fun b _ => ?_
        simp only [contains, get?_insert, Attribute.sameName]
        split <;> simp [*]
      rw [hinsert, entries_insert_of_get?_eq_none hnone, hrest,
        List.filter_cons_of_pos (by simp [hnew]), firstOfEachName, firstOfEachName,
        List.eraseDupsBy_cons, List.map_cons, List.append_assoc]
      rfl

end OrderedMap

namespace Embeddables

variable {t : Embeddables}

/-- The embeddable that an attribute opens inside the embeddables `opened`:
the one that it stands for, unless that is open already. -/
def opens? (t : Embeddables) (opened : List Path) (a : Attribute) : Option Embeddable :=
  (t.embeddedBy? a).filter fun e => !opened.contains e.ty

/-- The embeddables that are not open yet. -/
def unopened (t : Embeddables) (opened : List Path) : List Embeddable :=
  t.values.filter fun e => !opened.contains e.ty

/-- What an attribute opens was not open before. -/
theorem mem_unopened_of_opens? {opened : List Path} {a : Attribute} {e : Embeddable}
    (h : t.opens? opened a = some e) : e ∈ t.unopened opened := by
  obtain ⟨he, hclosed⟩ := Option.filter_eq_some_iff.1 h
  exact List.mem_filter.2 ⟨mem_values_of_embeddedBy? he, hclosed⟩

/-- Opening an embeddable leaves fewer to open. -/
theorem length_unopened_lt {opened : List Path} {a : Attribute} {e : Embeddable}
    (h : t.opens? opened a = some e) :
    (t.unopened (e.ty :: opened)).length < (t.unopened opened).length := by
  have hfewer : t.unopened (e.ty :: opened) = (t.unopened opened).filter fun f => f.ty != e.ty := by
    simp only [unopened]
    rw [List.filter_filter]
    refine List.filter_congr fun f _ => ?_
    rw [List.contains_cons, Bool.not_or]
    rfl
  rw [hfewer, List.length_filter_lt_length_iff_exists]
  exact ⟨e, mem_unopened_of_opens? h, by simp⟩

/-- At the start there are no more to open than the table has. -/
theorem length_unopened_le_size (t : Embeddables) : (t.unopened []).length ≤ t.size := by
  refine (List.length_filter_le _ _).trans (Nat.le_of_eq ?_)
  exact List.length_map Prod.snd

/-- Where all are open, an attribute opens none. -/
theorem opens?_eq_none_of_length_unopened {opened : List Path}
    (h : (t.unopened opened).length ≤ 0) (a : Attribute) : t.opens? opened a = none := by
  refine Option.eq_none_iff_forall_ne_some.2 fun e he => ?_
  exact absurd (List.length_pos_of_mem (mem_unopened_of_opens? he)) (by omega)

/-- An attribute that opens nothing is added as it is. -/
theorem absorb_of_opens?_eq_none {depth : Nat} {opened : List Path}
    {out : OrderedMap String Attribute} {a : Attribute} (h : t.opens? opened a = none) :
    t.absorb depth opened out a = out.insertIfNew a.name a := by
  cases depth with
  | zero => rfl
  | succ depth =>
    rw [absorb]
    simp only [opens?] at h
    rw [h]

/-- Another one is replaced by what it opens. -/
theorem absorb_of_opens? {depth : Nat} {opened : List Path} {out : OrderedMap String Attribute}
    {a : Attribute} {e : Embeddable} (h : t.opens? opened a = some e) :
    t.absorb (depth + 1) opened out a =
      (e.attributes.values.map (·.nestedIn a)).foldl (t.absorb depth (e.ty :: opened)) out := by
  rw [absorb, List.foldl_map]
  simp only [opens?] at h
  rw [h]

/-- The attributes that `a` stands for inside the embeddables `opened`. An
attribute that opens no embeddable stands for itself. -/
def expansion (t : Embeddables) (opened : List Path) (a : Attribute) : List Attribute :=
  match _h : t.opens? opened a with
  | none => [a]
  | some e =>
    (e.attributes.values.flatMap fun inner => expansion t (e.ty :: opened) inner).map
      (·.nestedIn a)
termination_by (t.unopened opened).length
decreasing_by exact length_unopened_lt _h

/-- An attribute that opens nothing expands to itself. -/
theorem expansion_of_opens?_eq_none {opened : List Path} {a : Attribute}
    (h : t.opens? opened a = none) : t.expansion opened a = [a] := by
  rw [expansion]
  split
  · rfl
  · rename_i e he
    rw [h] at he
    cases he

/-- One that opens an embeddable expands to what is in there, nested in it. -/
theorem expansion_of_opens? {opened : List Path} {a : Attribute} {e : Embeddable}
    (h : t.opens? opened a = some e) :
    t.expansion opened a =
      (e.attributes.values.flatMap (t.expansion (e.ty :: opened))).map (·.nestedIn a) := by
  rw [expansion]
  split
  · rename_i hnone
    rw [h] at hnone
    cases hnone
  · rename_i f hf
    cases h.symm.trans hf
    rfl

/-- An attribute expands to the same list before and after it is nested. -/
theorem expansion_nestedIn (opened : List Path) (inner outer : Attribute) :
    t.expansion opened (inner.nestedIn outer) =
      (t.expansion opened inner).map (·.nestedIn outer) := by
  -- What an attribute opens depends on its type and not on its name.
  have hsame : t.opens? opened (inner.nestedIn outer) = t.opens? opened inner := rfl
  cases h : t.opens? opened inner with
  | none =>
    rw [expansion_of_opens?_eq_none h, expansion_of_opens?_eq_none (hsame.trans h)]
    rfl
  | some e =>
    rw [expansion_of_opens? h, expansion_of_opens? (hsame.trans h), List.map_map]
    exact List.map_congr_left fun a _ => a.nestedIn_nestedIn inner outer

/-- What is absorbed are the attributes of the expansion, one after the other,
where there are levels for all embeddables that are not open yet. -/
theorem absorb_eq_foldl_expansion {depth : Nat} {opened : List Path}
    {out : OrderedMap String Attribute} {a : Attribute}
    (h : (t.unopened opened).length ≤ depth) :
    t.absorb depth opened out a =
      (t.expansion opened a).foldl (fun m b => m.insertIfNew b.name b) out := by
  induction depth generalizing opened out a with
  | zero =>
    rw [expansion_of_opens?_eq_none (opens?_eq_none_of_length_unopened h a)]
    rfl
  | succ depth ih =>
    cases hopens : t.opens? opened a with
    | none =>
      rw [expansion_of_opens?_eq_none hopens, absorb_of_opens?_eq_none hopens]
      rfl
    | some e =>
      -- One embeddable more is open inside, so one level less is enough.
      have hlevels : (t.unopened (e.ty :: opened)).length ≤ depth := by
        have hfewer := length_unopened_lt hopens
        omega
      have hinner : ∀ inner,
          (t.expansion (e.ty :: opened) inner).map (·.nestedIn a) =
            t.expansion (e.ty :: opened) (inner.nestedIn a) := fun inner =>
        (expansion_nestedIn _ _ _).symm
      rw [expansion_of_opens? hopens, absorb_of_opens? hopens, List.map_flatMap,
        List.foldl_flatMap, List.foldl_map]
      simp only [ih hlevels, hinner]

/-- The general way to flatten attributes gives the first attribute of each
name that they expand to, under its name. -/
theorem entries_flattenAttributes (t : Embeddables) (attributes : List Attribute) :
    (t.flattenAttributes attributes).entries =
      (firstOfEachName (attributes.flatMap (t.expansion []))).map fun a => (a.name, a) := by
  have hall : t.flattenAttributes attributes =
      (attributes.flatMap (t.expansion [])).foldl (fun m b => m.insertIfNew b.name b) .empty := by
    simp only [flattenAttributes]
    rw [List.foldl_flatMap]
    congr 1
    funext out a
    exact absorb_eq_foldl_expansion (length_unopened_le_size t)
  have hnothing : ∀ a : Attribute, (OrderedMap.empty : OrderedMap String Attribute).contains
      a.name = false := fun _ => rfl
  rw [hall, OrderedMap.entries_foldl_insertIfNew]
  simp only [hnothing, Bool.not_false, List.filter_true]
  rfl

/-- What is there after the general way comes from an attribute's expansion. -/
theorem exists_mem_expansion_of_mem_flattenAttributes {attributes : List Attribute}
    {b : Attribute} (h : b ∈ (t.flattenAttributes attributes).values) :
    ∃ a ∈ attributes, b ∈ t.expansion [] a := by
  obtain ⟨p, hp, rfl⟩ := List.mem_map.1 h
  rw [entries_flattenAttributes] at hp
  obtain ⟨a, ha, rfl⟩ := List.mem_map.1 hp
  exact List.mem_flatMap.1 ((firstOfEach_sublist _).subset ha)

/-- Where nothing is embedded, the general way leads back to the attributes of
the entity. -/
theorem flattenAttributes_of_forall_eq_none {e : Entity} (he : e.Keyed)
    (h : ∀ a ∈ e.attributes.values, t.embeddedBy? a = none) :
    t.flattenAttributes e.attributes.values = e.attributes := by
  have hself : e.attributes.values.flatMap (t.expansion []) = e.attributes.values := by
    have hsingle : ∀ a ∈ e.attributes.values, t.expansion [] a = [a] := by
      intro a ha
      refine expansion_of_opens?_eq_none ?_
      simp only [opens?]
      rw [h a ha]
      rfl
    rw [List.flatMap_def, List.map_congr_left hsingle, ← List.flatMap_def, List.flatMap_singleton']
  refine OrderedMap.ext ?_
  rw [entries_flattenAttributes, hself, firstOfEachName_eq,
    firstOfEach_of_nodup (Entity.nodup_names he)]
  exact he.entries_eq.symm

/-- An entity that was built is flattened by replacing its attributes. What
comes in for them is, in order, what they expand to, each under its name, and
of two with one name the first. No name comes twice. -/
theorem flatten_eq_expansion {e : Entity} (he : e.IsBuilt) (t : Embeddables) :
    t.flatten e = { e with attributes := t.flattenAttributes e.attributes.values } ∧
      (t.flatten e).attributes.entries =
        (firstOfEachName (e.attributes.values.flatMap (t.expansion []))).map
          (fun a => (a.name, a)) ∧
      ((firstOfEachName (e.attributes.values.flatMap (t.expansion []))).map
        Attribute.name).Nodup := by
  have hgeneral : t.flatten e =
      { e with attributes := t.flattenAttributes e.attributes.values } := by
    by_cases hembedded : ∀ a ∈ e.attributes.values, t.embeddedBy? a = none
    · -- The entity is returned as it is, and expanding it changes nothing.
      rw [flatten_of_forall_eq_none hembedded,
        flattenAttributes_of_forall_eq_none he.keyed hembedded]
    · have hsome : (e.attributes.values.any fun a => (t.embeddedBy? a).isSome) = true := by
        rw [List.any_eq_true]
        simpa [Option.isSome_iff_ne_none] using hembedded
      simp only [flatten]
      rw [if_pos hsome]
  have hentries := entries_flattenAttributes t e.attributes.values
  refine ⟨hgeneral, by rw [hgeneral]; exact hentries, ?_⟩
  have hdistinct := (t.flattenAttributes e.attributes.values).distinct
  rw [hentries, List.map_map] at hdistinct
  exact hdistinct

/-- Addresses with a city, and cities with a twin city. -/
def addresses : Embeddables :=
  let embeddable (ty : String) (attributes : List Attribute) : Path × Embeddable :=
    (⟨[ty]⟩, ⟨⟨[ty]⟩, .ofList (attributes.map fun a => (a.name, a))⟩)
  .ofList
    [embeddable "Address" [.column "street" (.scalar .string),
        { Attribute.column "city" (.named ⟨["City"]⟩) with nullable := true }],
      embeddable "City" [.column "name" (.scalar .string), .column "twin" (.named ⟨["City"]⟩)]]

/-- People with an address, who say the street themselves, too. -/
def residents : List Entity :=
  EntityDraft.buildAll
    [{ EntityDraft.ofType ⟨["Person"]⟩ with
        attributes := [.column "id" (.scalar .int64), .column "address" (.named ⟨["Address"]⟩),
          { Attribute.column "address_street" (.scalar .string) with unique := true }] }]

/-- The street is that of the address, the city is nullable with all that it
has, and its twin stays as it is. -/
theorem flatten_residents :
    (∀ e ∈ residents,
      addresses.flatten e =
          { e with attributes := addresses.flattenAttributes e.attributes.values } ∧
        (addresses.flatten e).attributes.entries =
          (firstOfEachName (e.attributes.values.flatMap (addresses.expansion []))).map
            (fun a => (a.name, a)) ∧
        ((firstOfEachName (e.attributes.values.flatMap (addresses.expansion []))).map
          Attribute.name).Nodup) ∧
      residents.map (fun e => (addresses.flatten e).attributes.entries.map
          fun p => (p.1, p.2.nullable, p.2.unique)) =
        [[("id", false, false), ("address_street", false, false),
          ("address_city_name", true, false), ("address_city_twin", true, false)]] :=
  ⟨fun _ he => flatten_eq_expansion (EntityDraft.isBuilt_of_mem_buildAll he) addresses,
    by decide +kernel⟩

end Embeddables

end SchemaLinker
