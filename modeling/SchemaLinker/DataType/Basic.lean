import SchemaLinker.Path

/-!
# `SchemaLinker.DataType.Basic`: the types of attributes

An attribute holds a scalar, something named by a path (another entity
or an embeddable), or a list or a set of such. Nullability is no part of
the type. `Scalar.keyword` is the word a scalar is written with, and
`Scalar.ofKeyword?` reads all its spellings.

* `ofKeyword?_keyword`: every scalar's own word reads back as it.
-/

set_option autoImplicit false

namespace SchemaLinker

/-- The built-in types of columns. -/
inductive Scalar
  | bool
  | int8
  | int16
  | int32
  | int64
  | uint8
  | uint16
  | uint32
  | uint64
  | float32
  | float64
  | string
  | uuid
  | bytes
  | decimal
  | timestamp
  | date
  | time
deriving DecidableEq

namespace Scalar

/-- The word a scalar is written with. -/
def keyword : Scalar → String
  | bool => "bool"
  | int8 => "i8"
  | int16 => "i16"
  | int32 => "i32"
  | int64 => "i64"
  | uint8 => "u8"
  | uint16 => "u16"
  | uint32 => "u32"
  | uint64 => "u64"
  | float32 => "f32"
  | float64 => "f64"
  | string => "String"
  | uuid => "Uuid"
  | bytes => "Bytes"
  | decimal => "Decimal"
  | timestamp => "Timestamp"
  | date => "Date"
  | time => "Time"

/-- Every scalar once. -/
def all : List Scalar :=
  [bool, int8, int16, int32, int64, uint8, uint16, uint32, uint64, float32, float64, string, uuid,
    bytes, decimal, timestamp, date, time]

/-- The spellings other than a scalar's own word. -/
def aliases : List (String × Scalar) :=
  [("str", string), ("std::string::String", string), ("uuid::Uuid", uuid),
    ("bytes::Bytes", bytes), ("rust_decimal::Decimal", decimal)]

/-- The scalar that a word spells. -/
def ofKeyword? (word : String) : Option Scalar :=
  (all.find? fun s => s.keyword == word).or (aliases.lookup word)

/-- Every scalar type is read from its own keyword. -/
theorem ofKeyword?_keyword (s : Scalar) : ofKeyword? s.keyword = some s := by
  cases s <;> decide

end Scalar

/-- The type of an attribute. -/
inductive DataType
  /-- A built-in type of columns. -/
  | scalar (s : Scalar)
  /-- A type named by its path. -/
  | named (path : Path)
  /-- A list of items of one type. -/
  | list (item : DataType)
  /-- A set of items of one type. -/
  | set (item : DataType)
deriving DecidableEq

namespace DataType

/-- Whether the type is a scalar. -/
def isScalar : DataType → Bool
  | scalar _ => true
  | _ => false

/-- Whether the type is a list or a set. -/
def isCollection : DataType → Bool
  | list _ => true
  | set _ => true
  | _ => false

/-- The type with one level of collection removed. -/
def element : DataType → DataType
  | list item => item
  | set item => item
  | t => t

/-- The path of a named type. -/
def path? : DataType → Option Path
  | named p => some p
  | _ => none

end DataType

end SchemaLinker
