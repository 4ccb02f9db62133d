/-!
# `SchemaLinker.Encoding.Value`: the values of the exchange format

Schemas, links and diagnostics travel as JSON values. This module has
the values and the ways of reading them: each reader answers nothing for
a value of another shape. A member of an object may be required, or
optional, in which case an absent member and `null` both read as none.
Members that nobody asks for do no harm.

* `nullable?_of_ne_null`: only `null` reads as none.
-/

set_option autoImplicit false

namespace SchemaLinker.Encoding

/-- A JSON value. -/
inductive Value
  | null
  | bool (b : Bool)
  /-- The number `mantissa / 10 ^ exponent`. -/
  | number (mantissa : Int) (exponent : Nat)
  | string (s : String)
  | array (items : List Value)
  | object (members : List (String × Value))

namespace Value

/-- A text. -/
def string? : Value → Option String
  | string s => some s
  | _ => none

/-- A truth value. -/
def bool? : Value → Option Bool
  | bool b => some b
  | _ => none

/-- A list of items that all read. -/
def list? {α : Type} (read : Value → Option α) : Value → Option (List α)
  | array items => items.mapM read
  | _ => none

/-- An object's members, each with a value that reads. -/
def members? {α : Type} (read : Value → Option α) : Value → Option (List (String × α))
  | object members => members.mapM fun m => (read m.2).map fun a => (m.1, a)
  | _ => none

/-- A member of an object. -/
def member? (v : Value) (name : String) : Option Value :=
  match v with
  | object members => members.lookup name
  | _ => none

/-- A member that has to be there. -/
def required {α : Type} (v : Value) (name : String) (read : Value → Option α) : Option α :=
  (v.member? name).bind read

/-- None, or a value that reads. -/
def nullable? {α : Type} (read : Value → Option α) : Value → Option (Option α)
  | null => some none
  | v => (read v).map some

/-- A member that may be absent. -/
def optional {α : Type} (v : Value) (name : String) (read : Value → Option α) :
    Option (Option α) :=
  match v.member? name with
  | none => some none
  | some w => nullable? read w

/-- A value, or `null` for none. -/
def ofOption {α : Type} (write : α → Value) : Option α → Value
  | none => null
  | some a => write a

/-- A list of values. -/
def ofList {α : Type} (write : α → Value) (l : List α) : Value := array (l.map write)

/-- Any other value has to read. -/
theorem nullable?_of_ne_null {α : Type} {read : Value → Option α} {v : Value} (h : v ≠ null) :
    nullable? read v = (read v).map some := by
  cases v with
  | null => exact absurd rfl h
  | _ => rfl

end Value

end SchemaLinker.Encoding
