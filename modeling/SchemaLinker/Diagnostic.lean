import SchemaLinker.Attribute

/-!
# `SchemaLinker.Diagnostic`: reports about attributes

A diagnostic is a message about one attribute. Errors stand in the way
of whatever comes after resolution, warnings do not. Diagnostics keep
the order in which they were reported.

* `mem_retire`: retiring an attribute drops its diagnostics and no
  other.
-/

set_option autoImplicit false

namespace SchemaLinker

/-- How grave a diagnostic is. -/
inductive Severity
  | error
  | warning
deriving DecidableEq

/-- The word for a severity. -/
protected def Severity.toString : Severity → String
  | error => "error"
  | warning => "warning"

instance : ToString Severity := ⟨Severity.toString⟩

/-- A message about one attribute. -/
structure Diagnostic where
  severity : Severity
  subject : AttributeId
  message : String
deriving DecidableEq

namespace Diagnostic

/-- Whether it is an error. -/
def isError (d : Diagnostic) : Bool := d.severity == .error

/-- Whether it is a warning. -/
def isWarning (d : Diagnostic) : Bool := d.severity == .warning

/-- The severity, the attribute and the message. -/
protected def toString (d : Diagnostic) : String :=
  toString d.severity ++ ": " ++ toString d.subject ++ ": " ++ d.message

instance : ToString Diagnostic := ⟨Diagnostic.toString⟩

end Diagnostic

/-- Diagnostics in the order in which they were reported. -/
abbrev Diagnostics := List Diagnostic

namespace Diagnostics

/-- The errors among them. -/
def errors (ds : Diagnostics) : Diagnostics := ds.filter Diagnostic.isError

/-- The warnings among them. -/
def warnings (ds : Diagnostics) : Diagnostics := ds.filter Diagnostic.isWarning

/-- Whether there is an error among them. -/
def hasErrors (ds : Diagnostics) : Bool := ds.any Diagnostic.isError

/-- Those about one attribute. -/
def about (ds : Diagnostics) (subject : AttributeId) : Diagnostics :=
  ds.filter fun d => d.subject == subject

/-- Those that are not about `subject`. -/
def retire (ds : Diagnostics) (subject : AttributeId) : Diagnostics :=
  ds.filter fun d => d.subject != subject

/-- One diagnostic a line. -/
def render (ds : Diagnostics) : String := String.join (ds.map fun d => toString d ++ "\n")

/-- What is about the subject goes, and all else stays. -/
@[simp] theorem mem_retire {ds : Diagnostics} {subject : AttributeId} {d : Diagnostic} :
    d ∈ ds.retire subject ↔ d ∈ ds ∧ d.subject ≠ subject := by
  simp [retire]

end Diagnostics

end SchemaLinker
