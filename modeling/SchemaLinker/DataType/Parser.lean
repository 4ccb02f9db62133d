import SchemaLinker.DataType.Basic
import SchemaLinker.Text.Alphanumeric

/-!
# `SchemaLinker.DataType.Parser`: types from text

A type expression is a base inside any number of generic wrappers:
`Vec<Option<app::Person>>`. `DataType.ofString?` cuts the text at every
`<`, so that all pieces but the last are the wrappers' names and the
last is the base followed by the closing brackets. The brackets are
taken off the end one per wrapper, blanks between them skipped, and what
is left is the base: a scalar's word or a path.

Where an expression has several faults, the one of the outermost wrapper
counts, except that a wrapper's name is only looked up once its contents
have been read.

* `Wrapper.apply`: what each wrapper adds.
* `readBase`, `readWrapped`: the two levels of the grammar.
-/

set_option autoImplicit false

namespace SchemaLinker

/-- Why a text is no type expression. -/
inductive TypeProblem
  /-- There is nothing to read. -/
  | emptyExpression
  /-- A closing bracket has no opening one. -/
  | unbalancedClose
  /-- A list of arguments is not closed at the end of the text. -/
  | unterminatedList
  /-- There is no name where one has to stand. -/
  | missingName
  /-- A segment of a path is no identifier. -/
  | badSegment (segment : String)
  /-- A generic type that is no known wrapper. -/
  | unsupportedGeneric (name : String)
  /-- A reason stated in words. -/
  | stated (reason : String)
deriving DecidableEq

/-- The reason in words. -/
def TypeProblem.message : TypeProblem → String
  | emptyExpression => "empty type expression"
  | unbalancedClose => "unbalanced `>`"
  | unterminatedList => "unterminated generic argument list"
  | missingName => "missing type name"
  | badSegment segment => "invalid path segment `" ++ segment ++ "`"
  | unsupportedGeneric name => "unsupported generic type `" ++ name ++ "`"
  | stated reason => reason

namespace DataType

/-- The generic types that may wrap another. -/
inductive Wrapper
  /-- Adds nothing: nullability and boxing are no part of a type. -/
  | transparent
  | list
  | set
deriving DecidableEq

/-- The wrapper of a simple name. -/
def Wrapper.ofName? (name : String) : Option Wrapper :=
  if name ∈ ["Option", "Box"] then some .transparent
  else if name ∈ ["Vec", "VecDeque", "LinkedList"] then some .list
  else if name ∈ ["HashSet", "BTreeSet", "IndexSet"] then some .set
  else none

/-- The type that a wrapper makes of its argument. -/
def Wrapper.apply : Wrapper → DataType → DataType
  | transparent, t => t
  | list, t => .list t
  | set, t => .set t

/-- An identifier's characters are alphanumeric or `_`, and the first is
no ASCII digit. -/
def isIdentifier (segment : List Char) : Bool :=
  segment.all (fun c => Text.isAlphanumeric c || c == '_') &&
    !(segment.head?.any Char.isDigit)

/-- A path of at least one segment, all of them identifiers. -/
def readPath (cs : List Char) : Except TypeProblem Path :=
  let path := Path.ofChars cs
  if path.isEmpty then .error .missingName
  else match path.segments.find? fun s => !isIdentifier s.toList with
    | some segment => .error (.badSegment segment)
    | none => .ok path

/-- A base type: a scalar's word or a path. -/
def readBase (cs : List Char) : Except TypeProblem DataType :=
  let base := Text.trim cs
  if base.isEmpty then .error .emptyExpression
  else if base.contains '>' then .error .unbalancedClose
  else match Scalar.ofKeyword? (String.ofList base) with
    | some s => .ok (.scalar s)
    | none => (readPath base).map .named

/-- Takes the last closing bracket off a reversed text, with the blanks
behind it. -/
def closeReversed (reversed : List Char) : Option (List Char) :=
  match Text.trimStart reversed with
  | '>' :: rest => some rest
  | _ => none

/-- A base inside wrappers, given the text before each `<` and, reversed,
the text behind the last. -/
def readWrapped : (heads : List (List Char)) → (reversed : List Char) → Except TypeProblem DataType
  | [], reversed => readBase reversed.reverse
  | head :: heads, reversed =>
    -- The outermost wrapper comes first, and its bracket is the last of the text.
    match closeReversed reversed with
    | none => .error .unterminatedList
    | some inner => do
      let path ← readPath head
      let item ← readWrapped heads inner
      match Wrapper.ofName? path.simpleName with
      | some wrapper => .ok (wrapper.apply item)
      | none => .error (.unsupportedGeneric path.simpleName)

/-- The text before each `<`, and, reversed, the text behind the last;
`piece` holds what was read of the current piece, last character
first. -/
def splitHeads (piece : List Char) : List Char → List (List Char) × List Char
  | [] => ([], piece)
  | '<' :: rest =>
    let (heads, reversed) := splitHeads [] rest
    (piece.reverse :: heads, reversed)
  | c :: rest => splitHeads (c :: piece) rest

/-- The type that a text expresses. -/
def ofChars? (cs : List Char) : Except TypeProblem DataType :=
  let (heads, reversed) := splitHeads [] cs
  readWrapped heads reversed

/-- The type that a text expresses. -/
def ofString? (s : String) : Except TypeProblem DataType := ofChars? s.toList

end DataType

end SchemaLinker
