/-!
# `SchemaLinker.Text.AsciiCase`: comparison without regard to ASCII case

Table names are compared this way: `A` to `Z` stand for `a` to `z`, and
every other character for itself alone. `equivalence_sameFolded` says
that the comparison is an equivalence.
-/

set_option autoImplicit false

namespace SchemaLinker.Text

/-- The text with `A` to `Z` put in lower case. -/
def asciiFold (s : String) : List Char := s.toList.map Char.toLower

/-- Equality without regard to ASCII case. -/
def sameFolded (s t : String) : Bool := asciiFold s == asciiFold t

/-- Texts are the same without regard to case when their foldings are. -/
theorem sameFolded_iff {s t : String} : sameFolded s t = true ↔ asciiFold s = asciiFold t :=
  beq_iff_eq

/-- So it is an equivalence. -/
theorem equivalence_sameFolded : Equivalence fun s t => sameFolded s t = true where
  refl _ := sameFolded_iff.2 rfl
  symm h := sameFolded_iff.2 (sameFolded_iff.1 h).symm
  trans h k := sameFolded_iff.2 ((sameFolded_iff.1 h).trans (sameFolded_iff.1 k))

end SchemaLinker.Text
