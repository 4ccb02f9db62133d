import Mathlib.Data.List.Chain
import SchemaLinker.Identifier

/-!
# `SchemaLinker.Proofs.Identifier`: which names have words

The words of a text are its alphanumeric characters, cut into pieces
(`flatten_words`). So a text without such a character has no words. Upper
camel case takes the words of the snake case text once more, and these do not
get lost: the lower case of an alphanumeric character has one, too
(`any_isAlphanumeric_lower`, read off the tables), and no character has an
empty upper case.

`upperCamelCase_eq_empty_iff` says that a name is empty in upper camel case
exactly when it has no alphanumeric character.
-/

set_option autoImplicit false

namespace SchemaLinker

namespace Text

/-! ### Tables -/

/-- The run `s` is not empty and lies behind `r`. -/
def CodeRange.Before (r s : CodeRange) : Prop := r.last < s.first ∧ s.first ≤ s.last

instance : DecidableRel CodeRange.Before := fun r s =>
  inferInstanceAs (Decidable (r.last < s.first ∧ s.first ≤ s.last))

instance : IsTrans CodeRange CodeRange.Before where
  trans _ _ _ h k := ⟨Nat.lt_of_lt_of_le h.1 (Nat.le_trans h.2 (Nat.le_of_lt k.1)), k.2⟩

/-- In an ascending table the code points of every run without gaps are
covered. -/
theorem CodeRange.covers_of_mem {table : List CodeRange} (h : table.Pairwise CodeRange.Before)
    {r : CodeRange} (hr : r ∈ table) (hstep : r.step = 1) {n : Nat} (hfirst : r.first ≤ n)
    (hlast : n ≤ r.last) : covers table n = true := by
  induction table with
  | nil => cases hr
  | cons s rest ih =>
    rw [List.pairwise_cons] at h
    rw [covers]
    rcases List.mem_cons.1 hr with rfl | hrest
    · simp [hlast, hfirst, hstep, Nat.mod_one]
    · have hbehind := (h.1 r hrest).1
      rw [if_neg (by omega)]
      exact ih h.2 hrest

/-- A shift leaves a code point, or moves it with the run that holds it. -/
theorem CodeShift.apply_cases (table : List CodeShift) (n : Nat) :
    apply table n = n ∨
      ∃ s ∈ table, s.first ≤ n ∧ n ≤ s.last ∧ apply table n = ((n : Int) + s.offset).toNat := by
  induction table with
  | nil => exact Or.inl rfl
  | cons s rest ih =>
    rw [apply]
    split
    · rename_i hlast
      split
      · rename_i hheld
        rw [Bool.and_eq_true, decide_eq_true_eq] at hheld
        exact Or.inr ⟨s, List.mem_cons_self, hheld.1, hlast, rfl⟩
      · exact Or.inl rfl
    · rcases ih with hsame | ⟨r, hr, hmoved⟩
      · exact Or.inl hsame
      · exact Or.inr ⟨r, List.mem_cons_of_mem _ hr, hmoved⟩

/-- Whether a shift moves its code points into a run of characters without
gaps. -/
def CodeRange.takes (r : CodeRange) (s : CodeShift) : Bool :=
  Nat.ble ((s.last : Int) + s.offset).toNat r.last &&
    (Nat.ble r.first ((s.first : Int) + s.offset).toNat && (Nat.beq r.step 1 &&
      (Nat.blt r.last 0xD800 || (Nat.blt 0xDFFF r.first && Nat.blt r.last 0x110000))))

/-- So every code point of the shift moves to a character of the run. -/
theorem CodeRange.mem_of_takes {r : CodeRange} {s : CodeShift} (h : r.takes s = true) {n : Nat}
    (hfirst : s.first ≤ n) (hlast : n ≤ s.last) :
    r.step = 1 ∧ r.first ≤ ((n : Int) + s.offset).toNat ∧
      ((n : Int) + s.offset).toNat ≤ r.last ∧ ((n : Int) + s.offset).toNat.isValidChar := by
  simp only [takes, Bool.and_eq_true, Bool.or_eq_true, Nat.ble_eq, Nat.blt_eq, Nat.beq_eq] at h
  obtain ⟨hend, hbegin, hstep, hvalid⟩ := h
  refine ⟨hstep, by omega, by omega, ?_⟩
  rw [Nat.isValidChar]
  omega

/-- All lower case letters that a table entry leads to are alphanumeric. -/
theorem takes_lowerShifts :
    (lowerShifts.all fun s => alphanumericBlocks.any fun r => r.takes s) = true := by
  decide +kernel

/-- The blocks of the table stand in ascending order. -/
theorem ascending_alphanumericBlocks : alphanumericBlocks.Pairwise CodeRange.Before :=
  List.isChain_iff_pairwise.1 (by decide +kernel)

/-- The letters whose lower case is several characters keep a letter. -/
theorem any_isAlphanumeric_lowerExpansions :
    ∀ p ∈ lowerExpansions, (p.2.map Char.ofNat).any isAlphanumeric = true := by
  decide +kernel

/-- The lower case of an alphanumeric character has one, too. -/
theorem any_isAlphanumeric_lower {c : Char} (h : isAlphanumeric c = true) :
    (lower c).any isAlphanumeric = true := by
  simp only [lower, mapCase]
  cases hlookup : lowerExpansions.lookup c.toNat with
  | some codes =>
    obtain ⟨before, behind, htable, -⟩ := List.lookup_eq_some_iff.1 hlookup
    exact any_isAlphanumeric_lowerExpansions (c.toNat, codes) (by simp [htable])
  | none =>
    rw [List.any_cons, List.any_nil, Bool.or_false]
    rcases CodeShift.apply_cases lowerShifts c.toNat with hsame | ⟨s, hs, hfirst, hlast, hmoved⟩
    · rw [hsame, Char.ofNat_toNat]
      exact h
    · obtain ⟨r, hr, htakes⟩ := List.any_eq_true.1 (List.all_eq_true.1 takes_lowerShifts s hs)
      obtain ⟨hstep, hbegin, hend, hvalid⟩ := CodeRange.mem_of_takes htakes hfirst hlast
      have hchar : (Char.ofNat (CodeShift.apply lowerShifts c.toNat)).toNat =
          CodeShift.apply lowerShifts c.toNat := by
        rw [hmoved, Char.ofNat, dif_pos hvalid]
        rfl
      rw [isAlphanumeric, hchar, hmoved]
      exact CodeRange.covers_of_mem ascending_alphanumericBlocks hr hstep hbegin hend

/-- No character has an empty upper case. -/
theorem upper_ne_nil (c : Char) : upper c ≠ [] := by
  have hall : ∀ p ∈ upperExpansions, p.2 ≠ [] := by decide +kernel
  simp only [upper, mapCase]
  cases hlookup : upperExpansions.lookup c.toNat with
  | some codes =>
    obtain ⟨before, behind, htable, -⟩ := List.lookup_eq_some_iff.1 hlookup
    have hcodes : codes ≠ [] := hall (c.toNat, codes) (by simp [htable])
    simpa using hcodes
  | none => exact List.cons_ne_nil _ _

/-! ### Words -/

/-- Cut into runs, a text keeps its alphanumeric characters. -/
theorem flatten_alphanumericRuns (run cs : List Char) :
    (alphanumericRuns run cs).flatten = run.reverse ++ cs.filter isAlphanumeric := by
  induction cs generalizing run with
  | nil => simp [alphanumericRuns]
  | cons c rest ih =>
    rw [alphanumericRuns]
    split
    · rename_i hc
      rw [ih, List.filter_cons_of_pos hc, List.reverse_cons, List.append_assoc]
      rfl
    · rename_i hc
      rw [List.flatten_cons, ih, List.filter_cons_of_neg hc]
      rfl

/-- The words of a text are its alphanumeric characters, in order. -/
theorem flatten_words (cs : List Char) : (words cs).flatten = cs.filter isAlphanumeric := by
  have hcut : ∀ runs : List (List Char),
      (runs.flatMap (cutRun .none [])).flatten = runs.flatten := by
    intro runs
    rw [List.flatMap_def, List.flatten_flatten, List.map_map]
    congr 1
    exact (List.map_congr_left fun run _ => flatten_cutRun .none [] run).trans (List.map_id _)
  simp only [words]
  rw [List.flatten_filter_not_isEmpty, hcut, flatten_alphanumericRuns]
  rfl

/-- A text without an alphanumeric character has no words. -/
theorem words_eq_nil_iff {cs : List Char} :
    words cs = [] ↔ ∀ c ∈ cs, isAlphanumeric c = false := by
  have hflat : words cs = [] ↔ (words cs).flatten = [] := by
    rw [List.flatten_eq_nil_iff]
    constructor
    · intro h w hw
      rw [h] at hw
      cases hw
    · intro h
      exact List.eq_nil_iff_forall_not_mem.2 fun w hw => ne_nil_of_mem_words hw (h w hw)
  rw [hflat, flatten_words, List.filter_eq_nil_iff]
  simp only [Bool.not_eq_true]

/-- The characters of words are alphanumeric. -/
theorem isAlphanumeric_of_mem_words {cs w : List Char} (hw : w ∈ words cs) {c : Char} (hc : c ∈ w) :
    isAlphanumeric c = true := by
  have hmem : c ∈ (words cs).flatten := List.mem_flatten.2 ⟨w, hw, hc⟩
  rw [flatten_words] at hmem
  exact (List.mem_filter.1 hmem).2

/-- In lower case a word keeps an alphanumeric character. -/
theorem any_isAlphanumeric_lowerWord {w : List Char} (hw : w ≠ [])
    (hall : ∀ c ∈ w, isAlphanumeric c = true) : (lowerWord w).any isAlphanumeric = true := by
  cases w with
  | nil => exact absurd rfl hw
  | cons c rest =>
    rw [lowerWord, List.any_append, Bool.or_eq_true]
    refine Or.inl ?_
    split
    · decide +kernel
    · exact any_isAlphanumeric_lower (hall c List.mem_cons_self)

/-- A word that has characters has some when it is capitalised. -/
theorem capitalWord_ne_nil {w : List Char} (hw : w ≠ []) : capitalWord w ≠ [] := by
  cases w with
  | nil => exact absurd rfl hw
  | cons c rest => exact List.append_ne_nil_of_left_ne_nil (upper_ne_nil c) _

end Text

namespace Identifier

open Text

/-- The snake case of a text with words begins with the first of them, so it
has words, too. -/
theorem words_snakeCase_ne_nil {s : String} (h : Text.words s.toList ≠ []) :
    Text.words (ofString s).snakeCase.toList ≠ [] := by
  obtain ⟨w, rest, hwords⟩ := List.exists_cons_of_ne_nil h
  have hw : w ∈ Text.words s.toList := by
    rw [hwords]
    exact List.mem_cons_self
  have hlower : (lowerWord w).any isAlphanumeric = true :=
    any_isAlphanumeric_lowerWord (ne_nil_of_mem_words hw) fun _ => isAlphanumeric_of_mem_words hw
  obtain ⟨c, hc, hletter⟩ := List.any_eq_true.1 hlower
  have hmem : c ∈ (ofString s).snakeCase.toList := by
    simp only [snakeCase, ofString]
    rw [hwords, List.map_cons]
    cases hrest : rest.map fun w => String.ofList (lowerWord w) with
    | nil => simpa using hc
    | cons v others => simp [String.intercalate_cons_cons, hc]
  rw [Ne, words_eq_nil_iff]
  intro hnone
  rw [hnone c hmem] at hletter
  cases hletter

/-- A name is empty in upper camel case exactly when it has no alphanumeric
character. -/
theorem upperCamelCase_eq_empty_iff (s : String) :
    (ofString s).upperCamelCase = "" ↔ ∀ c ∈ s.toList, isAlphanumeric c = false := by
  rw [← words_eq_nil_iff]
  have hempty : (ofString s).upperCamelCase = "" ↔
      (Text.words (ofString s).snakeCase.toList).flatMap capitalWord = [] :=
    String.ofList_eq_empty_iff
  rw [hempty, List.flatMap_eq_nil_iff]
  constructor
  · intro hnone
    refine Classical.byContradiction fun hwords => ?_
    obtain ⟨w, hw⟩ := List.exists_mem_of_ne_nil _ (words_snakeCase_ne_nil hwords)
    exact capitalWord_ne_nil (ne_nil_of_mem_words hw) (hnone w hw)
  · intro hwords w hw
    simp only [snakeCase, ofString] at hw
    rw [hwords] at hw
    cases hw

end Identifier

end SchemaLinker
