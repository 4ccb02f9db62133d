import SchemaLinker.Encoding.Value
import SchemaLinker.Proofs.OrderedMap

/-!
# `SchemaLinker.Proofs.Rearrangement`: values up to the order of members

The members of an object have no order that its readers may rely on.
`Value.Rearranged` relates two values that differ in the order of members
only, at whatever depth.

A format survives rearrangement when what it writes reads as it was from
every rearranged value (`Survives`). Lists of values that survive do
(`Survives.list`), and a member of an object is read the same wherever it
stands (`Holds.required`, `Holds.optional`). Members under arbitrary names
are read in the order in which they stand (`Survives.members`).
-/

set_option autoImplicit false

namespace SchemaLinker.Encoding.Value

mutual

/-- The same value up to the order of the members of objects. -/
inductive Rearranged : Value → Value → Prop
  | null : Rearranged null null
  | bool (b : Bool) : Rearranged (bool b) (bool b)
  | number (mantissa : Int) (exponent : Nat) :
    Rearranged (number mantissa exponent) (number mantissa exponent)
  | string (s : String) : Rearranged (string s) (string s)
  | array {l m : List Value} (h : RearrangedItems l m) : Rearranged (array l) (array m)
  /-- The members are rearranged themselves and then put in another order. -/
  | object {l changed m : List (String × Value)} (h : RearrangedMembers l changed)
    (hperm : changed.Perm m) : Rearranged (object l) (object m)

/-- Items that are the same one by one. -/
inductive RearrangedItems : List Value → List Value → Prop
  | nil : RearrangedItems [] []
  | cons {v w : Value} {l m : List Value} (h : Rearranged v w) (hrest : RearrangedItems l m) :
    RearrangedItems (v :: l) (w :: m)

/-- Members of the same names whose values are the same one by one. -/
inductive RearrangedMembers : List (String × Value) → List (String × Value) → Prop
  | nil : RearrangedMembers [] []
  | cons (name : String) {v w : Value} {l m : List (String × Value)} (h : Rearranged v w)
    (hrest : RearrangedMembers l m) : RearrangedMembers ((name, v) :: l) ((name, w) :: m)

end

mutual

/-- Nothing has to be rearranged. -/
theorem Rearranged.refl : ∀ v : Value, Rearranged v v
  | .null => .null
  | .bool b => .bool b
  | .number mantissa exponent => .number mantissa exponent
  | .string s => .string s
  | .array l => .array (RearrangedItems.refl l)
  | .object l => .object (RearrangedMembers.refl l) (.refl l)

/-- So it is with items. -/
theorem RearrangedItems.refl : ∀ l : List Value, RearrangedItems l l
  | [] => .nil
  | v :: l => .cons (Rearranged.refl v) (RearrangedItems.refl l)

/-- So it is with members. -/
theorem RearrangedMembers.refl : ∀ l : List (String × Value), RearrangedMembers l l
  | [] => .nil
  | (name, v) :: l => .cons name (Rearranged.refl v) (RearrangedMembers.refl l)

end

/-- Only `null` is rearranged to `null`. -/
theorem Rearranged.ne_null {v w : Value} (h : v.Rearranged w) (hv : v ≠ .null) : w ≠ .null := by
  rintro rfl
  cases h
  exact hv rfl

/-- A text has no members to rearrange. -/
theorem Rearranged.eq_string {s : String} {w : Value} (h : (Value.string s).Rearranged w) :
    w = .string s := by
  cases h
  rfl

/-- An object of one member has one order. -/
theorem Rearranged.eq_object_singleton {name : String} {v w : Value}
    (h : (Value.object [(name, v)]).Rearranged w) :
    ∃ v', w = .object [(name, v')] ∧ v.Rearranged v' := by
  cases h with
  | object h hperm =>
    cases h with
    | cons _ hv hrest =>
      cases hrest
      exact ⟨_, by rw [List.singleton_perm.1 hperm], hv⟩

/-- Names stay where they are as long as the members do. -/
theorem RearrangedMembers.map_fst {l m : List (String × Value)} (h : RearrangedMembers l m) :
    m.map Prod.fst = l.map Prod.fst := by
  induction l generalizing m with
  | nil =>
    cases h
    rfl
  | cons p rest ih =>
    cases h with
    | cons name hv hrest => rw [List.map_cons, List.map_cons, ih hrest]

/-- Under a name stands what stood there, up to rearrangement. -/
theorem RearrangedMembers.lookup {l m : List (String × Value)} (h : RearrangedMembers l m)
    {name : String} {v : Value} (hv : l.lookup name = some v) :
    ∃ w, m.lookup name = some w ∧ v.Rearranged w := by
  induction l generalizing m with
  | nil => cases hv
  | cons p rest ih =>
    cases h with
    | cons other hfirst hrest =>
      rw [List.lookup_cons] at hv ⊢
      split at hv
      · cases hv
        exact ⟨_, rfl, hfirst⟩
      · exact ih hrest hv

/-- The value has these members, up to rearrangement. -/
def Holds (l : List (String × Value)) (w : Value) : Prop :=
  ∀ name v, l.lookup name = some v → ∃ v', w.member? name = some v' ∧ v.Rearranged v'

/-- Where names are distinct, no member is lost in another order. -/
theorem Rearranged.holds {l : List (String × Value)} {w : Value}
    (h : (Value.object l).Rearranged w) (hdistinct : (l.map Prod.fst).Nodup) : Holds l w := by
  cases h with
  | object h hperm =>
    intro name v hv
    obtain ⟨v', hv', hsame⟩ := h.lookup hv
    rw [← h.map_fst] at hdistinct
    refine ⟨v', ?_, hsame⟩
    have hmem := (OrderedMap.lookup_eq_some_iff_mem _ hdistinct name v').1 hv'
    exact (OrderedMap.lookup_eq_some_iff_mem _ ((hperm.map _).nodup_iff.1 hdistinct) name v').2
      (hperm.mem_iff.1 hmem)

section Formats

variable {α β : Type} {write : α → Value} {read : Value → Option α}

/-- What is written reads as it was, however it is rearranged. -/
def Survives (write : α → Value) (read : Value → Option α) : Prop :=
  ∀ a w, (write a).Rearranged w → read w = some a

/-- A text survives. -/
theorem survives_string : Survives string string? := by
  intro s w h
  rw [h.eq_string]
  rfl

/-- So does a truth value. -/
theorem survives_bool : Survives bool bool? := by
  intro b w h
  cases h
  rfl

/-- Items are read one by one. -/
theorem mapM_of_rearrangedItems (h : Survives write read) {l : List α} {m : List Value}
    (hm : RearrangedItems (l.map write) m) : m.mapM read = some l := by
  induction l generalizing m with
  | nil =>
    cases hm
    rfl
  | cons a rest ih =>
    cases hm with
    | cons hfirst hrest =>
      rw [List.mapM_cons, h a _ hfirst, ih hrest]
      rfl

/-- A list survives when its items do. -/
theorem Survives.list (h : Survives write read) : Survives (ofList write) (list? read) := by
  intro l w hw
  cases hw with
  | array hitems => exact mapM_of_rearrangedItems h hitems

/-- A member that has to be there reads as it was. -/
theorem Holds.required {l : List (String × Value)} {w : Value} (hw : Holds l w)
    (h : Survives write read) {name : String} {a : α} (hl : l.lookup name = some (write a)) :
    w.required name read = some a := by
  obtain ⟨v, hv, hsame⟩ := hw name _ hl
  simp only [Value.required]
  rw [hv]
  exact h a v hsame

/-- So does a member that may be absent, or its absence. -/
theorem Holds.optional {l : List (String × Value)} {w : Value} (hw : Holds l w)
    (h : Survives write read) (hnull : ∀ a, write a ≠ null) {name : String} {a : Option α}
    (hl : l.lookup name = some (ofOption write a)) : w.optional name read = some a := by
  obtain ⟨v, hv, hsame⟩ := hw name _ hl
  simp only [Value.optional]
  rw [hv]
  cases a with
  | none =>
    cases hsame
    rfl
  | some a =>
    dsimp only
    rw [nullable?_of_ne_null (hsame.ne_null (hnull a)), h a v hsame]
    rfl

/-- What a list gives item by item, it gives in another order. -/
theorem mapM_eq_some_of_perm {f : α → Option β} {l m : List α} (hperm : l.Perm m) :
    ∀ {bs : List β}, l.mapM f = some bs → ∃ bs', m.mapM f = some bs' ∧ bs.Perm bs' := by
  induction hperm with
  | nil => exact fun h => ⟨_, h, .refl _⟩
  | cons x _ ih =>
    intro bs h
    rw [List.mapM_cons] at h
    obtain ⟨b, hb, h⟩ := Option.bind_eq_some_iff.1 h
    obtain ⟨rest, hrest, h⟩ := Option.bind_eq_some_iff.1 h
    cases h
    obtain ⟨rest', hrest', hsame⟩ := ih hrest
    refine ⟨b :: rest', ?_, hsame.cons b⟩
    rw [List.mapM_cons, hb, hrest']
    rfl
  | swap x y l =>
    -- Two neighbours are read in the other order, and both read as before.
    intro bs h
    rw [List.mapM_cons, List.mapM_cons] at h
    obtain ⟨c, hc, h⟩ := Option.bind_eq_some_iff.1 h
    obtain ⟨tail, htail, h⟩ := Option.bind_eq_some_iff.1 h
    obtain ⟨b, hb, htail⟩ := Option.bind_eq_some_iff.1 htail
    obtain ⟨rest, hrest, htail⟩ := Option.bind_eq_some_iff.1 htail
    cases htail
    cases h
    refine ⟨b :: c :: rest, ?_, .swap b c rest⟩
    rw [List.mapM_cons, List.mapM_cons, hb, hc, hrest]
    rfl
  | trans _ _ ih ih' =>
    intro bs h
    obtain ⟨mid, hmid, hsame⟩ := ih h
    obtain ⟨bs', hbs', hsame'⟩ := ih' hmid
    exact ⟨bs', hbs', hsame.trans hsame'⟩

/-- Members are read one by one, with their names. -/
theorem mapM_of_rearrangedMembers (h : Survives write read) {l : List (String × α)}
    {m : List (String × Value)}
    (hm : RearrangedMembers (l.map fun e => (e.1, write e.2)) m) :
    (m.mapM fun p => (read p.2).map fun a => (p.1, a)) = some l := by
  induction l generalizing m with
  | nil =>
    cases hm
    rfl
  | cons e rest ih =>
    cases hm with
    | cons name hfirst hrest =>
      rw [List.mapM_cons, ih hrest, h _ _ hfirst]
      rfl

/-- Members under arbitrary names are read as they were, in another order. -/
theorem Survives.members (h : Survives write read) {l : List (String × α)} {w : Value}
    (hw : (object (l.map fun e => (e.1, write e.2))).Rearranged w) :
    ∃ m, w.members? read = some m ∧ l.Perm m := by
  cases hw with
  | object hmembers hperm =>
    exact mapM_eq_some_of_perm hperm (mapM_of_rearrangedMembers h hmembers)

end Formats

end SchemaLinker.Encoding.Value
