import SchemaLinker.OrderedMap

/-!
# `SchemaLinker.Proofs.OrderedMap`: dictionaries seen through `get?`

`get?` answers with the value of the entry under a key, and keys are
distinct, so a dictionary is known by its keys and its answers.

* `get?_eq_some_iff`, `get?_eq_none_iff`: what an answer says about the
  entries.
* `mem_values_iff`: the values are the answers.
* `values_eq_map_keys`: the values in order, by asking for every key.
* `length_flatMap_values_insert`: what the values give together after a
  key was set.
* `values_insert_of_get?_eq_none`: the value of a new key comes last.
* `only`: the entry of one key as a dictionary of its own, with
  `values_eq_flatMap_only` and `filter_flatMap_values` for what the entries
  give together.
* `entries_ofList`, `size_ofList_eq_iff`: a dictionary made from entries
  keeps all of them exactly when their keys are distinct.

A list becomes a dictionary by keeping the first element of each key:
`firstOfEach`. One more element at the end is kept exactly when its key is
new (`firstOfEach_append_singleton`).
-/

set_option autoImplicit false

namespace SchemaLinker

/-! ### The first element of each key -/

section FirstOfEach

variable {α κ : Type} [DecidableEq κ] {key : α → κ}

/-- The first element of each key, in order. -/
def firstOfEach (key : α → κ) (l : List α) : List α := l.eraseDupsBy fun a b => key a == key b

/-- Behind an element its key does not count any more. -/
theorem firstOfEach_cons (a : α) (rest : List α) :
    firstOfEach key (a :: rest) = a :: firstOfEach key (rest.filter fun b => key b ≠ key a) := by
  have hother : (fun b => decide ((key b == key a) = false)) = fun b => decide (key b ≠ key a) := by
    funext b
    exact decide_eq_decide.2 beq_eq_false_iff_ne
  show (a :: rest).eraseDupsBy _ = _
  rw [List.eraseDupsBy_cons, hother]
  rfl

/-- What holds of a list if it holds of the elements of other keys behind its
head holds of all lists. -/
theorem firstOfEach_induction {P : List α → Prop} (key : α → κ) (nil : P [])
    (cons : ∀ a rest, P (rest.filter fun b => key b ≠ key a) → P (a :: rest)) (l : List α) :
    P l := by
  induction hn : l.length using Nat.strongRecOn generalizing l with
  | _ n ih =>
    cases l with
    | nil => exact nil
    | cons a rest =>
      have hfewer := List.length_filter_le (fun b => decide (key b ≠ key a)) rest
      rw [List.length_cons] at hn
      exact cons a rest (ih _ (by omega) _ rfl)

/-- The order is kept, and nothing is added. -/
theorem firstOfEach_sublist (l : List α) : (firstOfEach key l).Sublist l := by
  induction l using firstOfEach_induction key with
  | nil => exact .slnil
  | cons a rest ih =>
    rw [firstOfEach_cons]
    exact (ih.trans List.filter_sublist).cons_cons a

/-- Every key is there. -/
theorem mem_map_firstOfEach_iff {l : List α} {k : κ} :
    k ∈ (firstOfEach key l).map key ↔ k ∈ l.map key := by
  refine ⟨fun h => (firstOfEach_sublist l).map key |>.subset h, ?_⟩
  induction l using firstOfEach_induction key with
  | nil => exact id
  | cons a rest ih =>
    intro h
    rw [firstOfEach_cons, List.map_cons, List.mem_cons]
    by_cases hk : k = key a
    · exact Or.inl hk
    · refine Or.inr (ih ?_)
      rw [List.map_cons, List.mem_cons] at h
      obtain ⟨b, hb, rfl⟩ := List.mem_map.1 (h.resolve_left hk)
      exact List.mem_map_of_mem (List.mem_filter.2 ⟨hb, by simpa using hk⟩)

/-- Distinct keys stay as they are. -/
theorem firstOfEach_of_nodup {l : List α} (h : (l.map key).Nodup) : firstOfEach key l = l := by
  induction l with
  | nil => rfl
  | cons a rest ih =>
    rw [List.map_cons, List.nodup_cons] at h
    have hother : ∀ b ∈ rest, decide (key b ≠ key a) = true := by
      intro b hb
      have hne : key b ≠ key a := fun heq => h.1 (heq ▸ List.mem_map_of_mem hb)
      simpa using hne
    rw [firstOfEach_cons, List.filter_eq_self.2 hother, ih h.2]

/-- An element at the end is kept exactly when its key is new. -/
theorem firstOfEach_append_singleton (l : List α) (a : α) :
    firstOfEach key (l ++ [a]) =
      firstOfEach key l ++ if key a ∈ l.map key then [] else [a] := by
  induction l using firstOfEach_induction key with
  | nil => rfl
  | cons b rest ih =>
    rw [List.cons_append, firstOfEach_cons, firstOfEach_cons, List.filter_append,
      List.cons_append]
    refine congrArg (b :: ·) ?_
    by_cases hb : key a = key b
    · -- The head has the key, so the element is dropped with the others.
      rw [List.filter_cons_of_neg (by simpa using hb), List.filter_nil, List.append_nil,
        if_pos (by rw [hb]; exact List.mem_map_of_mem List.mem_cons_self), List.append_nil]
    · have hmem : key a ∈ (rest.filter fun c => key c ≠ key b).map key ↔
          key a ∈ (b :: rest).map key := by
        simp only [List.mem_map, List.mem_filter, List.mem_cons]
        grind
      rw [List.filter_cons_of_pos (by simpa using hb), List.filter_nil, ih]
      simp only [hmem]

end FirstOfEach

end SchemaLinker

namespace SchemaLinker.OrderedMap

variable {κ α : Type} [DecidableEq κ]

/-- In a list of entries with distinct keys, looking a key up finds its
only entry. -/
theorem lookup_eq_some_iff_mem (l : List (κ × α)) (hl : (l.map Prod.fst).Nodup) (k : κ) (v : α) :
    l.lookup k = some v ↔ (k, v) ∈ l := by
  induction l with
  | nil => simp
  | cons e rest ih =>
    obtain ⟨j, w⟩ := e
    rw [List.map_cons, List.nodup_cons] at hl
    have hrest := ih hl.2
    by_cases hk : k = j
    · subst hk
      have hfresh : (k, v) ∉ rest := fun h => hl.1 (List.mem_map.2 ⟨_, h, rfl⟩)
      rw [List.lookup_cons_self, List.mem_cons]
      constructor
      · intro h
        cases h
        exact Or.inl rfl
      · rintro (h | h)
        · cases h
          rfl
        · exact absurd h hfresh
    · -- The head is under another key, so both sides pass it over.
      have hne : (k, v) ≠ (j, w) := fun h => hk (congrArg Prod.fst h)
      rw [List.lookup_cons, beq_eq_false_iff_ne.2 hk, List.mem_cons]
      simp only [hne, false_or]
      exact hrest

/-- A dictionary answers its entries. -/
theorem get?_eq_some_iff {m : OrderedMap κ α} {k : κ} {v : α} :
    m.get? k = some v ↔ (k, v) ∈ m.entries :=
  lookup_eq_some_iff_mem m.entries m.distinct k v

/-- Under any key that it does not have, it answers nothing. -/
theorem get?_eq_none_iff {m : OrderedMap κ α} {k : κ} : m.get? k = none ↔ k ∉ m.keys := by
  constructor
  · intro h hk
    obtain ⟨⟨j, v⟩, hmem, rfl⟩ := List.mem_map.1 hk
    rw [get?_eq_some_iff.2 hmem] at h
    cases h
  · intro h
    cases hv : m.get? k with
    | none => rfl
    | some v => exact absurd (List.mem_map.2 ⟨_, get?_eq_some_iff.1 hv, rfl⟩) h

/-- A key is present exactly when it has a value. -/
theorem mem_keys_iff {m : OrderedMap κ α} {k : κ} : k ∈ m.keys ↔ ∃ v, m.get? k = some v := by
  rw [← Option.isSome_iff_exists, Option.isSome_iff_ne_none, Ne, get?_eq_none_iff,
    Classical.not_not]

/-- The values of a dictionary are its answers. -/
theorem mem_values_iff {m : OrderedMap κ α} {v : α} : v ∈ m.values ↔ ∃ k, m.get? k = some v := by
  constructor
  · intro h
    obtain ⟨⟨k, w⟩, hmem, rfl⟩ := List.mem_map.1 h
    exact ⟨k, get?_eq_some_iff.2 hmem⟩
  · rintro ⟨k, h⟩
    exact List.mem_map.2 ⟨_, get?_eq_some_iff.1 h, rfl⟩

/-- What an insertion that respects the old values brings in is the new
value. -/
theorem mem_values_insertIfNew {m : OrderedMap κ α} {k : κ} {v w : α}
    (h : w ∈ (m.insertIfNew k v).values) : w ∈ m.values ∨ w = v := by
  obtain ⟨-, hsame⟩ | ⟨-, hinsert⟩ := insertIfNew_cases m k v
  · rw [hsame] at h
    exact Or.inl h
  · rw [hinsert] at h
    obtain ⟨j, hj⟩ := mem_values_iff.1 h
    rw [get?_insert] at hj
    split at hj
    · cases hj
      exact Or.inr rfl
    · exact Or.inl (mem_values_iff.2 ⟨j, hj⟩)

/-- So the empty one always does. -/
@[simp] theorem get?_empty (k : κ) : (empty : OrderedMap κ α).get? k = none := rfl

/-- A new key goes to the end. -/
theorem entries_insert_of_get?_eq_none {m : OrderedMap κ α} {k : κ} (h : m.get? k = none)
    (v : α) : (m.insert k v).entries = m.entries ++ [(k, v)] := by
  have hset : ∀ l : List (κ × α), k ∉ l.map Prod.fst → setEntry k v l = l ++ [(k, v)] := by
    intro l
    induction l with
    | nil =>
      intro _
      rfl
    | cons e rest ih =>
      intro hk
      rw [List.map_cons, List.mem_cons, not_or] at hk
      rw [setEntry, if_neg fun he => hk.1 he.symm, ih hk.2, List.cons_append]
  exact hset m.entries (get?_eq_none_iff.1 h)

/-- The value of a new key comes last. -/
theorem values_insert_of_get?_eq_none {m : OrderedMap κ α} {k : κ} (h : m.get? k = none) (v : α) :
    (m.insert k v).values = m.values ++ [v] := by
  simp only [values]
  rw [entries_insert_of_get?_eq_none h, List.map_append]
  rfl

/-- What the values give together, counted after a key was set: what its
old value gave is replaced by what the new one gives. -/
theorem length_flatMap_values_insert {β : Type} (f : α → List β) (m : OrderedMap κ α) (k : κ)
    (v : α) :
    ((m.insert k v).values.flatMap f).length + ((m.get? k).elim [] f).length =
      (m.values.flatMap f).length + (f v).length := by
  have hset : ∀ l : List (κ × α),
      (((setEntry k v l).map Prod.snd).flatMap f).length + ((l.lookup k).elim [] f).length =
        ((l.map Prod.snd).flatMap f).length + (f v).length := by
    intro l
    induction l with
    | nil => simp [setEntry]
    | cons e rest ih =>
      obtain ⟨j, w⟩ := e
      by_cases hk : j = k
      · -- The head is replaced, and it was what the key answered.
        subst hk
        simp [setEntry]
        omega
      · -- The head stays, so it gives the same on both sides.
        have hkj : k ≠ j := fun h => hk h.symm
        simp only [setEntry, if_neg hk, List.lookup_cons, beq_eq_false_iff_ne.2 hkj,
          List.map_cons, List.flatMap_cons, List.length_append]
        omega
  exact hset m.entries

/-- The values stand in the order of the keys. -/
theorem values_eq_map_keys (m : OrderedMap κ α) (default : κ → α) :
    m.values = m.keys.map fun k => (m.get? k).getD (default k) := by
  simp only [values, keys]
  rw [List.map_map]
  refine List.map_congr_left fun e he => ?_
  rw [Function.comp_apply, get?_eq_some_iff.2 he]
  rfl

omit [DecidableEq κ] in
/-- A dictionary with one key has one value. -/
theorem values_eq_singleton {m : OrderedMap κ α} {k : κ} (hkeys : ∀ j ∈ m.keys, j = k) {v : α}
    (hv : v ∈ m.values) : m.values = [v] := by
  have hone : ∀ l : List (κ × α), (l.map Prod.fst).Nodup → (∀ j ∈ l.map Prod.fst, j = k) →
      v ∈ l.map Prod.snd → l.map Prod.snd = [v] := by
    intro l hdistinct hsame hmem
    cases l with
    | nil => cases hmem
    | cons e rest =>
      cases rest with
      | nil =>
        rw [List.mem_singleton.1 hmem]
        rfl
      | cons f rest =>
        -- Two entries would share the key.
        have he : e.1 = k := hsame e.1 (by simp)
        have hf : f.1 = k := hsame f.1 (by simp)
        rw [List.map_cons, List.map_cons, List.nodup_cons, he, hf] at hdistinct
        exact absurd List.mem_cons_self hdistinct.1
  exact hone m.entries m.distinct hkeys hv

/-- The entry of one key by itself. -/
def only (m : OrderedMap κ α) (k : κ) : OrderedMap κ α := (m.get? k).elim empty (empty.insert k)

/-- Its one entry is kept. -/
@[simp] theorem get?_only (m : OrderedMap κ α) (k : κ) : (m.only k).get? k = m.get? k := by
  simp only [only]
  cases m.get? k with
  | none => rfl
  | some v => exact (get?_insert empty k k v).trans (if_pos rfl)

/-- Its value is all that is left. -/
theorem values_only (m : OrderedMap κ α) (k : κ) : (m.only k).values = (m.get? k).toList := by
  simp only [only]
  cases m.get? k <;> rfl

/-- The entry of a key depends on what the key answers. -/
theorem only_eq_of_get?_eq {m n : OrderedMap κ α} {k : κ} (h : m.get? k = n.get? k) :
    m.only k = n.only k := by
  simp only [only]
  rw [h]

/-- Setting the key of an entry sets it in the dictionary. -/
theorem insert_only (m : OrderedMap κ α) (k : κ) (v : α) :
    (m.only k).insert k v = (m.insert k v).only k := by
  have hset : (m.insert k v).only k = empty.insert k v := by
    simp only [only]
    rw [get?_insert, if_pos rfl]
    rfl
  rw [hset]
  simp only [only]
  cases m.get? k with
  | none => rfl
  | some w => exact ext (if_pos rfl)

/-- The values are those of the single entries, in the order of the
keys. -/
theorem values_eq_flatMap_only (m : OrderedMap κ α) :
    m.values = m.keys.flatMap fun k => (m.only k).values := by
  have hentry : ∀ e ∈ m.entries, [e.2] = (m.only e.1).values := by
    intro e he
    rw [values_only, get?_eq_some_iff.2 he]
    rfl
  simp only [keys]
  rw [List.flatMap_map, List.flatMap_def, ← List.map_congr_left hentry, ← List.flatMap_def,
    ← List.map_eq_flatMap]
  rfl

/-- Of what all values give, a test keeps what the value of one key gives,
if it passes just that. -/
theorem filter_flatMap_values {β : Type} {m : OrderedMap κ α} {f : α → List β} {p : β → Bool}
    {k : κ} (hp : ∀ j v, m.get? j = some v → ∀ x ∈ f v, p x = true ↔ j = k) :
    (m.values.flatMap f).filter p = (m.only k).values.flatMap f := by
  have hlist : ∀ l : List (κ × α), (l.map Prod.fst).Nodup →
      (∀ e ∈ l, ∀ x ∈ f e.2, p x = true ↔ e.1 = k) →
      ((l.map Prod.snd).flatMap f).filter p = (l.lookup k).toList.flatMap f := by
    intro l
    induction l with
    | nil =>
      intro _ _
      rfl
    | cons e rest ih =>
      obtain ⟨j, v⟩ := e
      intro hdistinct htest
      rw [List.map_cons, List.nodup_cons] at hdistinct
      have hrest := ih hdistinct.2 fun d hd => htest d (List.mem_cons_of_mem _ hd)
      have hhead : ∀ x ∈ f v, p x = true ↔ j = k := htest (j, v) List.mem_cons_self
      rw [List.map_cons, List.flatMap_cons, List.filter_append, hrest]
      by_cases hk : j = k
      · -- The head passes as a whole, and its key does not come again.
        subst hk
        have hall : (f v).filter p = f v := List.filter_eq_self.2 fun x hx => (hhead x hx).2 rfl
        have hnone : rest.lookup j = none := by
          rw [List.lookup_eq_none_iff]
          intro d hd
          have hne : j ≠ d.1 := fun h => hdistinct.1 (List.mem_map.2 ⟨d, hd, h.symm⟩)
          simpa using hne
        rw [hall, hnone, List.lookup_cons_self]
        rfl
      · have hnone : (f v).filter p = [] :=
          List.filter_eq_nil_iff.2 fun x hx h => hk ((hhead x hx).1 h)
        have hskip : k ≠ j := fun h => hk h.symm
        rw [hnone, List.lookup_cons, beq_eq_false_iff_ne.2 hskip]
        rfl
  rw [values_only]
  exact hlist m.entries m.distinct fun e he => hp e.1 e.2 (get?_eq_some_iff.2 he)

/-- Entries with distinct keys that are new go to the end as they are. -/
theorem entries_foldl_insert (l : List (κ × α)) (m : OrderedMap κ α)
    (hl : (l.map Prod.fst).Nodup) (hnew : ∀ k ∈ l.map Prod.fst, m.get? k = none) :
    (l.foldl (fun m e => m.insert e.1 e.2) m).entries = m.entries ++ l := by
  induction l generalizing m with
  | nil => exact (List.append_nil _).symm
  | cons e rest ih =>
    rw [List.map_cons, List.nodup_cons] at hl
    have hhead : m.get? e.1 = none := hnew e.1 (by simp)
    have hrest : ∀ k ∈ rest.map Prod.fst, (m.insert e.1 e.2).get? k = none := by
      intro k hk
      have hne : k ≠ e.1 := fun h => hl.1 (h ▸ hk)
      rw [get?_insert, if_neg hne]
      exact hnew k (by rw [List.map_cons]; exact List.mem_cons_of_mem _ hk)
    rw [List.foldl_cons, ih _ hl.2 hrest, entries_insert_of_get?_eq_none hhead,
      List.append_assoc]
    rfl

/-- A dictionary made from entries with distinct keys has these entries. -/
theorem entries_ofList {l : List (κ × α)} (hl : (l.map Prod.fst).Nodup) :
    (ofList l).entries = l := by
  simp only [ofList]
  rw [entries_foldl_insert l empty hl fun k _ => get?_empty k]
  rfl

/-- In a dictionary made from entries with distinct keys, every entry is
found. -/
theorem get?_ofList_of_mem (l : List (κ × α)) (hl : (l.map Prod.fst).Nodup) {k : κ} {v : α}
    (h : (k, v) ∈ l) : (ofList l).get? k = some v := by
  rw [get?_eq_some_iff, entries_ofList hl]
  exact h

/-- Setting a key makes one entry more unless the key was there. -/
theorem size_insert (m : OrderedMap κ α) (k : κ) (v : α) :
    (m.insert k v).size = if (m.get? k).isSome then m.size else m.size + 1 := by
  have hsize : ∀ n : OrderedMap κ α, n.size = n.keys.length := fun n =>
    (List.length_map Prod.fst).symm
  have hkey : (m.get? k).isSome = true ↔ k ∈ m.keys := by
    rw [mem_keys_iff, Option.isSome_iff_exists]
  rw [hsize, keys_insert, hsize]
  by_cases hk : k ∈ m.keys
  · rw [if_pos hk, if_pos (hkey.2 hk)]
  · rw [if_neg hk, if_neg fun h => hk (hkey.1 h), List.length_append]
    rfl

/-- Every entry adds one at most. -/
theorem size_foldl_insert_le (l : List (κ × α)) (m : OrderedMap κ α) :
    (l.foldl (fun m e => m.insert e.1 e.2) m).size ≤ m.size + l.length := by
  induction l generalizing m with
  | nil => exact Nat.le_refl _
  | cons e rest ih =>
    have hrest := ih (m.insert e.1 e.2)
    have hinsert := size_insert m e.1 e.2
    rw [List.foldl_cons, List.length_cons]
    split at hinsert <;> omega

/-- Every entry makes one more exactly when the keys are distinct and
new. -/
theorem size_foldl_insert_eq_iff (l : List (κ × α)) (m : OrderedMap κ α) :
    (l.foldl (fun m e => m.insert e.1 e.2) m).size = m.size + l.length ↔
      (l.map Prod.fst).Nodup ∧ ∀ k ∈ l.map Prod.fst, m.get? k = none := by
  induction l generalizing m with
  | nil => simp
  | cons e rest ih =>
    have hinsert := size_insert m e.1 e.2
    rw [List.foldl_cons, List.length_cons, List.map_cons, List.nodup_cons, List.forall_mem_cons]
    by_cases hold : m.get? e.1 = none
    · rw [if_neg (by simp [hold])] at hinsert
      have hnext : m.size + (rest.length + 1) = (m.insert e.1 e.2).size + rest.length := by omega
      rw [hnext, ih (m.insert e.1 e.2)]
      have hget : ∀ k, (m.insert e.1 e.2).get? k = none ↔ k ≠ e.1 ∧ m.get? k = none := by
        intro k
        rw [get?_insert]
        split <;> simp [*]
      simp only [hget, hold, true_and]
      constructor
      · rintro ⟨hdistinct, hall⟩
        exact ⟨⟨fun hmem => (hall _ hmem).1 rfl, hdistinct⟩, fun k hk => (hall k hk).2⟩
      · rintro ⟨⟨hnew, hdistinct⟩, hall⟩
        exact ⟨hdistinct, fun k hk => ⟨fun h => hnew (h ▸ hk), hall k hk⟩⟩
    · -- The first entry replaces one, so there is one entry less than there could be.
      rw [if_pos (Option.isSome_iff_ne_none.2 hold)] at hinsert
      have hrest := size_foldl_insert_le rest (m.insert e.1 e.2)
      constructor
      · intro h
        omega
      · rintro ⟨-, hhead, -⟩
        exact absurd hhead hold

/-- A dictionary made from entries has as many as there were exactly when
their keys are distinct. -/
theorem size_ofList_eq_iff {l : List (κ × α)} :
    (ofList l).size = l.length ↔ (l.map Prod.fst).Nodup := by
  have hfold := size_foldl_insert_eq_iff l (empty : OrderedMap κ α)
  have hempty : (empty : OrderedMap κ α).size = 0 := rfl
  rw [hempty, Nat.zero_add] at hfold
  rw [ofList, hfold]
  exact and_iff_left fun k _ => get?_empty k

end SchemaLinker.OrderedMap
