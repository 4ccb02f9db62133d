import SchemaLinker.Proofs.Flattening

/-!
# `SchemaLinker.Proofs.Nesting`: embeddables inside embeddables

An expansion follows names through the table of embeddables, and nothing in
the table keeps the names from leading back. `Absorbs` describes a run of the
expansion step by step, and `Flattens` the run for an entity, both without a
count that could cut the run short: the number in front only says how many
embeddables are open at a time. Every run ends in the same way
(`Absorbs.eq`), and there is one that never has more open than there are
embeddables (`absorbs_foldl_absorb`), for all that are open are different.

`Reaches` is a way down, from an attribute of the entity to one that is left
over. An attribute is only left over with an embeddable to its name where
that embeddable is on the way already (`exists_reaches_of_mem_flatten`). Each
on the way then holds the next (`Reaches.transGen`), so the embeddable holds
itself.

`flatten_ends` puts this together. Where no embeddable holds itself nothing
embedded is left over, and flattening once more changes nothing.
-/

set_option autoImplicit false

namespace SchemaLinker.Embeddables

variable {t : Embeddables}

/-! ### Runs of the expansion -/

/-- A run that absorbs the attributes of a list inside the embeddables
`opened`, one after the other. It starts with the attributes `out` and ends
with `result`, and opens at most `levels` embeddables inside each other. -/
inductive Absorbs (t : Embeddables) : (levels : Nat) → (opened : List Path) →
    (out : OrderedMap String Attribute) → List Attribute →
      (result : OrderedMap String Attribute) → Prop
  | done {levels : Nat} {opened : List Path} {out : OrderedMap String Attribute} :
    Absorbs t levels opened out [] out
  /-- An attribute that opens nothing is kept, unless its name is there. -/
  | keep {levels : Nat} {opened : List Path} {out result : OrderedMap String Attribute}
    {a : Attribute} {rest : List Attribute} (hopens : t.opens? opened a = none)
    (next : Absorbs t levels opened (out.insertIfNew a.name a) rest result) :
    Absorbs t levels opened out (a :: rest) result
  /-- Another one gives way to what it opens. -/
  | enter {levels : Nat} {opened : List Path} {out within result : OrderedMap String Attribute}
    {a : Attribute} {rest : List Attribute} {e : Embeddable} (hopens : t.opens? opened a = some e)
    (inside : Absorbs t levels (e.ty :: opened) out (e.attributes.values.map (·.nestedIn a)) within)
    (next : Absorbs t (levels + 1) opened within rest result) :
    Absorbs t (levels + 1) opened out (a :: rest) result

/-- A run that flattens an entity. Where nothing is embedded it keeps the
entity. -/
inductive Flattens (t : Embeddables) (levels : Nat) (e : Entity) : Entity → Prop
  | keep (hnone : ∀ a ∈ e.attributes.values, t.embeddedBy? a = none) : Flattens t levels e e
  | replace {attributes : OrderedMap String Attribute} {a : Attribute}
    (ha : a ∈ e.attributes.values) (hsome : (t.embeddedBy? a).isSome = true)
    (run : t.Absorbs levels [] .empty e.attributes.values attributes) :
    Flattens t levels e { e with attributes := attributes }

/-- Each step is determined by what the attribute opens, so all runs end with
the same attributes. -/
theorem Absorbs.eq {n m : Nat} {opened : List Path} {out r s : OrderedMap String Attribute}
    {attributes : List Attribute} (h : t.Absorbs n opened out attributes r)
    (h' : t.Absorbs m opened out attributes s) : r = s := by
  induction h generalizing m s with
  | done =>
    cases h'
    rfl
  | keep hopens _ ih =>
    cases h' with
    | keep _ next => exact ih next
    | enter hopens' _ _ =>
      rw [hopens] at hopens'
      cases hopens'
  | enter hopens _ _ ihinside ihnext =>
    cases h' with
    | keep hopens' _ =>
      rw [hopens] at hopens'
      cases hopens'
    | enter hopens' inside next =>
      cases hopens.symm.trans hopens'
      cases ihinside inside
      exact ihnext next

/-- What is absorbed level by level is absorbed in a run, where there are
levels for all embeddables that are not open yet. -/
theorem absorbs_foldl_absorb {levels : Nat} {opened : List Path}
    (h : (t.unopened opened).length ≤ levels) (attributes : List Attribute)
    (out : OrderedMap String Attribute) :
    t.Absorbs levels opened out attributes (attributes.foldl (t.absorb levels opened) out) := by
  -- The levels count the way down, and the list the way along.
  induction levels generalizing opened attributes out with
  | zero =>
    induction attributes generalizing out with
    | nil => exact .done
    | cons a rest ih => exact .keep (opens?_eq_none_of_length_unopened h a) (ih _)
  | succ levels ihlevels =>
    induction attributes generalizing out with
    | nil => exact .done
    | cons a rest ih =>
      rw [List.foldl_cons]
      cases hopens : t.opens? opened a with
      | none =>
        rw [absorb_of_opens?_eq_none hopens]
        exact .keep hopens (ih _)
      | some e =>
        have hfewer := length_unopened_lt hopens
        rw [absorb_of_opens? hopens]
        exact .enter hopens (ihlevels (by omega) _ _) (ih _)

/-- The embeddables of the table are levels enough for every entity. -/
theorem flattens_flatten (t : Embeddables) (e : Entity) : t.Flattens t.size e (t.flatten e) := by
  obtain ⟨hnone, hkept⟩ | ⟨⟨a, ha, hsome⟩, hreplaced⟩ := flatten_cases t e
  · rw [hkept]
    exact .keep hnone
  · rw [hreplaced]
    exact .replace ha hsome (absorbs_foldl_absorb (length_unopened_le_size t) _ _)

/-- Every run for an entity ends with the flattened entity. -/
theorem Flattens.eq_flatten {levels : Nat} {e f : Entity} (h : t.Flattens levels e f) :
    f = t.flatten e := by
  cases h with
  | keep hnone => exact (flatten_of_forall_eq_none hnone).symm
  | replace ha hsome run =>
    rw [flatten_of_isSome ha hsome]
    exact congrArg (fun m => { e with attributes := m })
      (run.eq (absorbs_foldl_absorb (length_unopened_le_size t) _ _))

/-! ### The way to an attribute -/

/-- An embeddable holds another, maybe itself, when one of its attributes
stands for it. -/
def Embeds (t : Embeddables) (e f : Embeddable) : Prop :=
  e ∈ t.values ∧ ∃ inner ∈ e.attributes.values, t.embeddedBy? inner = some f

/-- A way down from the attribute `root` to an attribute, into one embeddable
after the other. The list names these, the innermost first. -/
inductive Reaches (t : Embeddables) (root : Attribute) : List Embeddable → Attribute → Prop
  | root : Reaches t root [] root
  | down {chain : List Embeddable} {a inner : Attribute} {e : Embeddable}
    (above : Reaches t root chain a) (he : t.embeddedBy? a = some e)
    (hinner : inner ∈ e.attributes.values) : Reaches t root (e :: chain) (inner.nestedIn a)

/-- Each embeddable on the way to an attribute holds, through others, the one
that the attribute stands for. -/
theorem Reaches.transGen {root a : Attribute} {chain : List Embeddable}
    (h : t.Reaches root chain a) {f : Embeddable} (hf : t.embeddedBy? a = some f) :
    ∀ g ∈ chain, Relation.TransGen t.Embeds g f := by
  induction h generalizing f with
  | root =>
    intro g hg
    cases hg
  | @down chain a inner e _ he hinner ih =>
    -- The inner attribute stands for the same, whatever it is nested in.
    have hlast : t.Embeds e f := ⟨mem_values_of_embeddedBy? he, inner, hinner, hf⟩
    intro g hg
    rcases List.mem_cons.1 hg with rfl | habove
    · exact .single hlast
    · exact (ih he g habove).tail hlast

/-- A way into different embeddables goes on to everything that an attribute
expands to, and there it ends: nothing more can be opened. -/
theorem exists_reaches_of_mem_expansion {root a b : Attribute} {chain : List Embeddable}
    (ha : t.Reaches root chain a) (hdistinct : (chain.map Embeddable.ty).Nodup)
    (hb : b ∈ t.expansion (chain.map Embeddable.ty) a) :
    ∃ below, t.Reaches root below b ∧ (below.map Embeddable.ty).Nodup ∧
      t.opens? (below.map Embeddable.ty) b = none := by
  -- Every step down leaves fewer embeddables that are not open.
  induction hn : (t.unopened (chain.map Embeddable.ty)).length using Nat.strong_induction_on
    generalizing a chain with
  | _ n ih =>
    subst hn
    cases hopens : t.opens? (chain.map Embeddable.ty) a with
    | none =>
      rw [expansion_of_opens?_eq_none hopens, List.mem_singleton] at hb
      subst hb
      exact ⟨chain, ha, hdistinct, hopens⟩
    | some e =>
      obtain ⟨he, hclosed⟩ := Option.filter_eq_some_iff.1 hopens
      have hnew : e.ty ∉ chain.map Embeddable.ty := by simpa using hclosed
      rw [expansion_of_opens? hopens, List.map_flatMap, List.mem_flatMap] at hb
      obtain ⟨inner, hinner, hb⟩ := hb
      rw [← expansion_nestedIn] at hb
      have hdistinct' : ((e :: chain).map Embeddable.ty).Nodup :=
        List.nodup_cons.2 ⟨hnew, hdistinct⟩
      exact ih _ (length_unopened_lt hopens) (ha.down he hinner) hdistinct' hb rfl

/-- A way down to every attribute of a flattened entity that still stands for
an embeddable goes through different embeddables, and one of them has that
embeddable's type. -/
theorem exists_reaches_of_mem_flatten {e : Entity} {a : Attribute} {f : Embeddable}
    (ha : a ∈ (t.flatten e).attributes.values) (hf : t.embeddedBy? a = some f) :
    ∃ root ∈ e.attributes.values, ∃ chain, t.Reaches root chain a ∧
      (chain.map Embeddable.ty).Nodup ∧ f.ty ∈ chain.map Embeddable.ty := by
  obtain ⟨hnone, hkept⟩ | ⟨-, hreplaced⟩ := flatten_cases t e
  · rw [hkept] at ha
    rw [hnone a ha] at hf
    cases hf
  · rw [hreplaced] at ha
    obtain ⟨root, hroot, hexpansion⟩ := exists_mem_expansion_of_mem_flattenAttributes ha
    have hroot' : t.Reaches root [] root := .root
    obtain ⟨chain, hreaches, hdistinct, hopens⟩ :=
      exists_reaches_of_mem_expansion hroot' List.nodup_nil hexpansion
    refine ⟨root, hroot, chain, hreaches, hdistinct, ?_⟩
    -- It stands for an embeddable and opens none, so that one is open.
    simp only [opens?] at hopens
    rw [hf] at hopens
    simpa using hopens

/-! ### What is left over -/

/-- Every embeddable ranks above those that its attributes stand for. -/
def RankedBy (t : Embeddables) (rank : Path → Nat) : Prop :=
  ∀ e ∈ t.values, ∀ inner ∈ e.attributes.values, ∀ f,
    t.embeddedBy? inner = some f → rank f.ty < rank e.ty

/-- No embeddable contains itself, however deep. -/
def Acyclic (t : Embeddables) : Prop := ∃ rank, t.RankedBy rank

/-- An embeddable that holds another, directly or through others, ranks above
it. -/
theorem RankedBy.lt_of_transGen {rank : Path → Nat} (hrank : t.RankedBy rank) {e f : Embeddable}
    (h : Relation.TransGen t.Embeds e f) : rank f.ty < rank e.ty := by
  induction h with
  | single hembeds =>
    obtain ⟨he, inner, hinner, hf⟩ := hembeds
    exact hrank _ he inner hinner _ hf
  | tail _ hembeds ih =>
    obtain ⟨he, inner, hinner, hf⟩ := hembeds
    exact Nat.lt_trans (hrank _ he inner hinner _ hf) ih

/-- Where no embeddable contains itself, nothing is embedded in a flattened
entity. -/
theorem forall_embeddedBy?_flatten (ht : t.Acyclic) (e : Entity) :
    ∀ a ∈ (t.flatten e).attributes.values, t.embeddedBy? a = none := by
  obtain ⟨rank, hrank⟩ := ht
  intro a ha
  refine Option.eq_none_iff_forall_ne_some.2 fun f hf => ?_
  obtain ⟨root, -, chain, hreaches, -, hmem⟩ := exists_reaches_of_mem_flatten ha hf
  obtain ⟨g, hg, hty⟩ := List.mem_map.1 hmem
  have hlower := hrank.lt_of_transGen (hreaches.transGen hf g hg)
  rw [hty] at hlower
  exact Nat.lt_irrefl _ hlower

/-- Every embeddable stands under its own type. -/
def KeyedByType (t : Embeddables) : Prop := ∀ p ∈ t.entries, p.2.ty = p.1

/-- Then a type has one embeddable. -/
theorem KeyedByType.eq_of_ty_eq (ht : t.KeyedByType) {e f : Embeddable} (he : e ∈ t.values)
    (hf : f ∈ t.values) (hty : e.ty = f.ty) : e = f := by
  have hunder : ∀ g ∈ t.values, t.get? g.ty = some g := by
    intro g hg
    obtain ⟨p, hp, rfl⟩ := List.mem_map.1 hg
    rw [ht p hp]
    exact OrderedMap.get?_eq_some_iff.2 hp
  have hsome := hunder e he
  rw [hty, hunder f hf] at hsome
  exact (Option.some.inj hsome).symm

/-- The embeddables on a way are in the table. -/
theorem Reaches.mem_values {root a : Attribute} {chain : List Embeddable}
    (h : t.Reaches root chain a) : ∀ g ∈ chain, g ∈ t.values := by
  induction h with
  | root =>
    intro g hg
    cases hg
  | down _ he _ ih =>
    intro g hg
    rcases List.mem_cons.1 hg with rfl | habove
    · exact mem_values_of_embeddedBy? he
    · exact ih g habove

/-- Flattening comes to an end for every entity, whatever the table of
embeddables, if these stand under their types: a run ends with the flattened
entity while it never has more embeddables open inside each other than there
are, and all runs end with it. An attribute that still stands for an
embeddable lies inside that embeddable, on a way down from an attribute of the
entity. Where no embeddable holds itself, directly or through others, no
attribute stands for an embeddable afterwards, and flattening once more
changes nothing. -/
theorem flatten_ends (ht : t.KeyedByType) (e : Entity) :
    t.Flattens t.size e (t.flatten e) ∧
      (∀ levels f, t.Flattens levels e f → f = t.flatten e) ∧
      (∀ a ∈ (t.flatten e).attributes.values, ∀ f, t.embeddedBy? a = some f →
        ∃ root ∈ e.attributes.values, ∃ chain, t.Reaches root chain a ∧
          (chain.map Embeddable.ty).Nodup ∧ f ∈ chain) ∧
      ((∀ f, ¬Relation.TransGen t.Embeds f f) →
        (∀ a ∈ (t.flatten e).attributes.values, t.embeddedBy? a = none) ∧
          t.flatten (t.flatten e) = t.flatten e) := by
  have hleft : ∀ a ∈ (t.flatten e).attributes.values, ∀ f, t.embeddedBy? a = some f →
      ∃ root ∈ e.attributes.values, ∃ chain, t.Reaches root chain a ∧
        (chain.map Embeddable.ty).Nodup ∧ f ∈ chain := by
    intro a ha f hf
    obtain ⟨root, hroot, chain, hreaches, hdistinct, hmem⟩ := exists_reaches_of_mem_flatten ha hf
    obtain ⟨g, hg, hty⟩ := List.mem_map.1 hmem
    -- The table has one embeddable of the type, so it is the one on the way.
    have hsame := ht.eq_of_ty_eq (hreaches.mem_values g hg) (mem_values_of_embeddedBy? hf) hty
    exact ⟨root, hroot, chain, hreaches, hdistinct, hsame ▸ hg⟩
  refine ⟨flattens_flatten t e, fun _ _ hrun => hrun.eq_flatten, hleft, fun hacyclic => ?_⟩
  have hnone : ∀ a ∈ (t.flatten e).attributes.values, t.embeddedBy? a = none := by
    intro a ha
    refine Option.eq_none_iff_forall_ne_some.2 fun f hf => ?_
    obtain ⟨root, -, chain, hreaches, -, hmem⟩ := hleft a ha f hf
    exact hacyclic f (hreaches.transGen hf f hmem)
  exact ⟨hnone, flatten_of_forall_eq_none hnone⟩

/-- Addresses with a city, where a city has no twin. -/
def plainAddresses : Embeddables :=
  .ofList (addresses.entries.map fun p =>
    (p.1, ⟨p.2.ty, .ofList (p.2.attributes.entries.filter fun q => q.1 != "twin")⟩))

/-- With twins the flattened person keeps the twin city, and the way to it goes
through the address and the city. Without them nothing is left over. -/
theorem flatten_ends_residents :
    addresses.KeyedByType ∧ plainAddresses.KeyedByType ∧
      ∀ e ∈ residents,
        (∃ a ∈ (addresses.flatten e).attributes.values, a.name = "address_city_twin" ∧
          ∃ f, addresses.embeddedBy? a = some f ∧
            ∃ root ∈ e.attributes.values, ∃ chain, addresses.Reaches root chain a ∧ f ∈ chain) ∧
          plainAddresses.Flattens 2 e (plainAddresses.flatten e) ∧
          plainAddresses.flatten e ≠ e ∧
          plainAddresses.flatten (plainAddresses.flatten e) = plainAddresses.flatten e := by
  have htwins : addresses.KeyedByType := by
    simp only [KeyedByType]
    decide +kernel
  have hplain : plainAddresses.KeyedByType := by
    simp only [KeyedByType]
    decide +kernel
  have hranked : plainAddresses.RankedBy fun p => if p = ⟨["Address"]⟩ then 1 else 0 := by
    have hall : ∀ e ∈ plainAddresses.values, ∀ inner ∈ e.attributes.values,
        ((plainAddresses.embeddedBy? inner).all fun f =>
          decide ((if f.ty = ⟨["Address"]⟩ then 1 else 0) <
            if e.ty = ⟨["Address"]⟩ then 1 else 0)) = true := by decide +kernel
    intro e he inner hinner f hf
    have hlower := hall e he inner hinner
    rw [hf] at hlower
    exact of_decide_eq_true hlower
  refine ⟨htwins, hplain, fun e he => ⟨?_, (flatten_ends hplain e).1, ?_, ?_⟩⟩
  · have hleft : ∀ e ∈ residents, (addresses.flatten e).attributes.values.any (fun a =>
        decide (a.name = "address_city_twin") && (addresses.embeddedBy? a).isSome) = true := by
      decide +kernel
    obtain ⟨a, ha, htest⟩ := List.any_eq_true.1 (hleft e he)
    rw [Bool.and_eq_true, decide_eq_true_eq] at htest
    obtain ⟨f, hf⟩ := Option.isSome_iff_exists.1 htest.2
    obtain ⟨root, hroot, chain, hreaches, -, hmem⟩ := (flatten_ends htwins e).2.2.1 a ha f hf
    exact ⟨a, ha, htest.1, f, hf, root, hroot, chain, hreaches, hmem⟩
  · have hchanged : ∀ e ∈ residents, plainAddresses.flatten e ≠ e := by decide +kernel
    exact hchanged e he
  · exact ((flatten_ends hplain e).2.2.2 fun f hf =>
      Nat.lt_irrefl _ (hranked.lt_of_transGen hf)).2

end SchemaLinker.Embeddables
