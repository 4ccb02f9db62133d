import SchemaLinker.DataType.Basic

/-!
# `SchemaLinker.DataType.Printer`: types as text

A scalar is written as its keyword, a named type as its path, a list as
`Vec<item>` and a set as `HashSet<item>`.
-/

set_option autoImplicit false

namespace SchemaLinker.DataType

/-- The text of a type. -/
protected def toString : DataType → String
  | scalar s => s.keyword
  | named p => toString p
  | list item => "Vec<" ++ DataType.toString item ++ ">"
  | set item => "HashSet<" ++ DataType.toString item ++ ">"

instance : ToString DataType := ⟨DataType.toString⟩

end SchemaLinker.DataType
