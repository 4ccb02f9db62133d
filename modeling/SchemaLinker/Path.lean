import SchemaLinker.Text.Blank

/-!
# `SchemaLinker.Path`: the qualified names of types

A `Path` is a list of segments. All but the last are its package, the
last is its simple name. In text the segments stand between `::` or
`.`; blanks around a segment and empty segments do not count. A path is
always written with `::`.
-/

set_option autoImplicit false

namespace SchemaLinker

/-- The qualified name of a type. -/
structure Path where
  segments : List String
deriving DecidableEq, Inhabited

namespace Path

/-- Cuts a text at `::` and at `.`; `piece` holds what was read of the
current piece, last character first. -/
def pieces (piece : List Char) : List Char → List (List Char)
  | [] => [piece.reverse]
  | ':' :: ':' :: rest => piece.reverse :: pieces [] rest
  | '.' :: rest => piece.reverse :: pieces [] rest
  | c :: rest => pieces (c :: piece) rest

/-- The path that a text names: its pieces without surrounding blanks,
those that are empty left out. -/
def ofChars (cs : List Char) : Path :=
  ⟨(((pieces [] cs).map Text.trim).filter fun p => !p.isEmpty).map String.ofList⟩

/-- The path that a text names. -/
def ofString (s : String) : Path := ofChars s.toList

/-- Written with `::` between the segments. -/
protected def toString (p : Path) : String := "::".intercalate p.segments

instance : ToString Path := ⟨Path.toString⟩

/-- The last segment, empty if there is none. -/
def simpleName (p : Path) : String := p.segments.getLast?.getD ""

/-- The segments before the last. -/
def package (p : Path) : List String := p.segments.dropLast

/-- Whether there are segments before the last. -/
def hasPackage (p : Path) : Bool := 1 < p.segments.length

/-- Whether there are no segments at all. -/
def isEmpty (p : Path) : Bool := p.segments.isEmpty

/-- The path of another simple name in the same package. -/
def sibling (p : Path) (name : String) : Path := ⟨p.package ++ [name]⟩

/-- Whether `query` names the path: a query with a package has to be
the path itself, one without names every path of its simple name. -/
def isNamedBy (p query : Path) : Bool :=
  if query.hasPackage then p == query else p.simpleName == query.simpleName

/-- The order of paths: segment by segment, each by code points, and a
path before its extensions. -/
def compareSegments : List String → List String → Ordering
  | [], [] => .eq
  | [], _ :: _ => .lt
  | _ :: _, [] => .gt
  | a :: as, b :: bs => if a < b then .lt else if a = b then compareSegments as bs else .gt

instance : Ord Path := ⟨fun p q => compareSegments p.segments q.segments⟩

end Path

end SchemaLinker
