/-!
# `SchemaLinker.Text.CodeRange`: sets and shifts of code points

Character properties are tables of code points. `CodeRange` is a run of
code points a fixed step apart, `CodeRange.covers` asks an ascending
table for one of them, and `CodeShift` is a run that is moved by an
offset, which is how most case mappings read.
-/

set_option autoImplicit false

namespace SchemaLinker.Text

/-- The code points `first`, `first + step`, … up to `last`. -/
structure CodeRange where
  first : Nat
  last : Nat
  step : Nat

/-- The code points `first`, `first + step`, … up to `last`, each moved
by `offset`. -/
structure CodeShift where
  first : Nat
  last : Nat
  step : Nat
  offset : Int

/-- Membership in a table whose runs ascend: the search ends at the
first run that reaches the code point. -/
def CodeRange.covers : List CodeRange → Nat → Bool
  | [], _ => false
  | r :: rs, n => if n ≤ r.last then r.first ≤ n && (n - r.first) % r.step == 0 else covers rs n

/-- The code point that a table of shifts sends `n` to: `n` itself
unless a run holds it. -/
def CodeShift.apply : List CodeShift → Nat → Nat
  | [], n => n
  | s :: rest, n =>
    if n ≤ s.last then
      if s.first ≤ n && (n - s.first) % s.step == 0 then ((n : Int) + s.offset).toNat else n
    else apply rest n

end SchemaLinker.Text
