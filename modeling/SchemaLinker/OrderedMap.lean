/-!
# `SchemaLinker.OrderedMap`: dictionaries that keep the order of insertion

An `OrderedMap κ α` holds one value per key, in the order in which the
keys first came. `insert` replaces the value of a key that is present
and leaves its position; a new key goes to the end.

* `get?_insert`: what `get?` answers after an `insert`.
* `keys_insert`: the keys after an `insert`.
* `ext`: a dictionary is its list of entries.
-/

set_option autoImplicit false

namespace SchemaLinker

/-- One value per key, in the order in which the keys first came. -/
structure OrderedMap (κ α : Type) where
  /-- The entries in order. -/
  entries : List (κ × α)
  /-- No key stands twice. -/
  distinct : (entries.map Prod.fst).Nodup

namespace OrderedMap

variable {κ α : Type}

/-- Dictionaries with the same entries in the same order are equal. -/
theorem ext {m n : OrderedMap κ α} (h : m.entries = n.entries) : m = n := by
  cases m; cases n; simp_all

instance [DecidableEq κ] [DecidableEq α] : DecidableEq (OrderedMap κ α) := fun m n =>
  decidable_of_iff (m.entries = n.entries) ⟨ext, fun h => h ▸ rfl⟩

/-- The dictionary without entries. -/
def empty : OrderedMap κ α := ⟨[], List.nodup_nil⟩

instance : Inhabited (OrderedMap κ α) := ⟨empty⟩

/-- The keys in order. -/
def keys (m : OrderedMap κ α) : List κ := m.entries.map Prod.fst

/-- The values in the order of their keys. -/
def values (m : OrderedMap κ α) : List α := m.entries.map Prod.snd

/-- The number of entries. -/
def size (m : OrderedMap κ α) : Nat := m.entries.length

variable [DecidableEq κ]

/-- The value of a key. -/
def get? (m : OrderedMap κ α) (k : κ) : Option α := m.entries.lookup k

/-- Whether a key is present. -/
def contains (m : OrderedMap κ α) (k : κ) : Bool := (m.get? k).isSome

/-- Sets the value of `k` in a list of entries: in place if `k` is
there, else at the end. -/
def setEntry (k : κ) (v : α) : List (κ × α) → List (κ × α)
  | [] => [(k, v)]
  | e :: rest => if e.1 = k then (k, v) :: rest else e :: setEntry k v rest

/-- A new key comes last, and one that is there keeps its place. -/
theorem map_fst_setEntry (k : κ) (v : α) (l : List (κ × α)) :
    (setEntry k v l).map Prod.fst =
      if k ∈ l.map Prod.fst then l.map Prod.fst else l.map Prod.fst ++ [k] := by
  induction l with
  | nil => simp [setEntry]
  | cons e rest ih =>
    by_cases h : e.1 = k
    · simp [setEntry, h]
    · have hk : k ≠ e.1 := fun hk => h hk.symm
      simp only [setEntry, if_neg h, List.map_cons, ih, List.mem_cons, hk, false_or]
      split <;> simp

/-- Sets the value of `k`: in place if `k` is there, else at the end. -/
def insert (m : OrderedMap κ α) (k : κ) (v : α) : OrderedMap κ α where
  entries := setEntry k v m.entries
  distinct := by
    rw [map_fst_setEntry]
    split
    · exact m.distinct
    · next h =>
      refine List.nodup_append.2 ⟨m.distinct, by simp, ?_⟩
      intro a ha b hb
      rw [List.mem_singleton] at hb
      exact fun hab => h (hb ▸ hab ▸ ha)

/-- Sets the value of `k` unless `k` has one already. -/
def insertIfNew (m : OrderedMap κ α) (k : κ) (v : α) : OrderedMap κ α :=
  if m.contains k then m else m.insert k v

/-- The dictionary of a list of entries; of two with one key the later
gives the value and the earlier the position. -/
def ofList (l : List (κ × α)) : OrderedMap κ α :=
  l.foldl (fun m e => m.insert e.1 e.2) empty

/-- Two dictionaries with related values under the same keys, in
whatever order. -/
def agrees (related : α → α → Bool) (m n : OrderedMap κ α) : Bool :=
  m.size == n.size && m.entries.all fun e => (n.get? e.1).any (related e.2)

/-- So it is with the keys of a dictionary. -/
theorem keys_insert (m : OrderedMap κ α) (k : κ) (v : α) :
    (m.insert k v).keys = if k ∈ m.keys then m.keys else m.keys ++ [k] :=
  map_fst_setEntry k v m.entries

/-- The key has the new value, and the others have theirs. -/
theorem lookup_setEntry (k j : κ) (v : α) (l : List (κ × α)) :
    (setEntry k v l).lookup j = if j = k then some v else l.lookup j := by
  induction l with
  | nil =>
    by_cases h : j = k
    · simp [setEntry, h]
    · simp [setEntry, List.lookup_cons, beq_eq_false_iff_ne.2 h, h]
  | cons e rest ih =>
    obtain ⟨ke, ve⟩ := e
    by_cases hk : ke = k
    · subst hk
      by_cases h : j = ke
      · simp [setEntry, h]
      · simp [setEntry, List.lookup_cons, beq_eq_false_iff_ne.2 h, h]
    · by_cases h : j = ke
      · subst h
        simp [setEntry, hk]
      · simp [setEntry, List.lookup_cons, hk, beq_eq_false_iff_ne.2 h, ih]

/-- An insertion that respects the old values changes nothing, or it is an
insertion of a new key. -/
theorem insertIfNew_cases (m : OrderedMap κ α) (k : κ) (v : α) :
    (m.contains k = true ∧ m.insertIfNew k v = m) ∨
      (m.contains k = false ∧ m.insertIfNew k v = m.insert k v) := by
  cases h : m.contains k <;> simp [insertIfNew, h]

/-- So it is with what a dictionary answers. -/
theorem get?_insert (m : OrderedMap κ α) (k j : κ) (v : α) :
    (m.insert k v).get? j = if j = k then some v else m.get? j :=
  lookup_setEntry k j v m.entries

end OrderedMap

end SchemaLinker
