import SchemaLinker.Text.Alphanumeric
import SchemaLinker.Text.LetterCase

/-!
# `SchemaLinker.Text.Words`: the words of a text and their letter case

A word is a piece of a run of alphanumeric characters. A run is cut
where a lower case letter meets an upper case one (`fooBar`) and before
the last capital of a run of capitals that a lower case letter follows
(`XMLHttp`); characters without case belong to the word they stand in.

`lowerWord` and `capitalWord` give one word's letter case. A capital
sigma at the end of a word becomes the final form of the small one.

* `ne_nil_of_mem_words`: no word is empty.
* `flatten_cutRun`: cutting a run loses no character.
-/

set_option autoImplicit false

namespace SchemaLinker.Text

/-- The case of the last letter with case in the word being read. -/
inductive WordCase
  | none
  | lower
  | upper
deriving DecidableEq

/-- The case known after `c`. -/
def WordCase.after (k : WordCase) (c : Char) : WordCase :=
  if isLower c then .lower else if isUpper c then .upper else k

/-- Cuts a run of alphanumeric characters into words; `word` holds what
was read of the current word, last character first. -/
def cutRun (k : WordCase) (word : List Char) : List Char → List (List Char)
  | [] => if word.isEmpty then [] else [word.reverse]
  | [c] => [(c :: word).reverse]
  | c :: d :: rest =>
    -- `fooBar`: the word ends with `c`.
    if k.after c = .lower ∧ isUpper d then
      (c :: word).reverse :: cutRun .none [] (d :: rest)
    -- `XMLHttp`: the word ended before `c`, which begins the next.
    else if k = .upper ∧ isUpper c ∧ isLower d then
      word.reverse :: cutRun .none [c] (d :: rest)
    else cutRun (k.after c) (c :: word) (d :: rest)

/-- The maximal runs of alphanumeric characters, in order; `run` holds
what was read of the current one, last character first. -/
def alphanumericRuns (run : List Char) : List Char → List (List Char)
  | [] => [run.reverse]
  | c :: rest =>
    if isAlphanumeric c then alphanumericRuns (c :: run) rest
    else run.reverse :: alphanumericRuns [] rest

/-- The words of a text, in order. -/
def words (cs : List Char) : List (List Char) :=
  (((alphanumericRuns [] cs).flatMap (cutRun .none [])).filter fun w => !w.isEmpty)

/-- A word in lower case, `Σ` at its end as `ς`. -/
def lowerWord : List Char → List Char
  | [] => []
  | c :: rest => (if c = 'Σ' ∧ rest.isEmpty then ['ς'] else lower c) ++ lowerWord rest

/-- A word with its first character in upper case and the others in
lower case. -/
def capitalWord : List Char → List Char
  | [] => []
  | c :: rest => upper c ++ lowerWord rest

/-- Cutting a run into words loses no character. -/
theorem flatten_cutRun (k : WordCase) (word cs : List Char) :
    (cutRun k word cs).flatten = word.reverse ++ cs := by
  fun_induction cutRun k word cs <;> simp_all

/-- No word is empty. -/
theorem ne_nil_of_mem_words {cs w : List Char} (h : w ∈ words cs) : w ≠ [] := by
  simp only [words, List.mem_filter, Bool.not_eq_true', List.isEmpty_eq_false_iff] at h
  exact h.2

end SchemaLinker.Text
