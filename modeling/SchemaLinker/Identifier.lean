import SchemaLinker.Text.Words

/-!
# `SchemaLinker.Identifier`: names in snake case and camel case

An `Identifier` is a name taken apart into lower case words. In snake
case the words stand between underscores. Upper camel case is made from
the snake case text: its words, each with a capital, in one piece.
-/

set_option autoImplicit false

namespace SchemaLinker

/-- A name taken apart into words. -/
structure Identifier where
  words : List String
deriving DecidableEq

namespace Identifier

/-- The words of a name in lower case. -/
def ofString (s : String) : Identifier :=
  ⟨(Text.words s.toList).map fun w => String.ofList (Text.lowerWord w)⟩

/-- The words between underscores. -/
def snakeCase (i : Identifier) : String := "_".intercalate i.words

/-- Every word with a capital, in one piece. -/
def upperCamelCase (i : Identifier) : String :=
  String.ofList ((Text.words i.snakeCase.toList).flatMap Text.capitalWord)

end Identifier

end SchemaLinker
