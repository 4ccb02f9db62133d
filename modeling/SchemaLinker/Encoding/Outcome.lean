import SchemaLinker.Encoding.Schema
import SchemaLinker.Resolution.Link

/-!
# `SchemaLinker.Encoding.Outcome`: what resolution finds, as values

How junction requests, links and diagnostics are written as values and
read again.
-/

set_option autoImplicit false

namespace SchemaLinker

open Encoding (Value)

namespace JunctionRequest

/-- A junction request as a value. -/
def toValue (r : JunctionRequest) : Value :=
  .object
    [("from", r.source.toValue), ("to", r.target.toValue), ("attribute", .string r.name)]

/-- The junction request that a value stands for. -/
def ofValue? (v : Value) : Option JunctionRequest := do
  let source ← v.required "from" Path.ofValue?
  let target ← v.required "to" Path.ofValue?
  let name ← v.required "attribute" Value.string?
  return { source, target, name }

end JunctionRequest

namespace Link

/-- A link as a value. -/
def toValue (l : Link) : Value :=
  .object
    [("attribute", l.source.toValue),
      ("cardinality", .ofOption Cardinality.toValue l.cardinality),
      ("target", .ofOption Path.toValue l.target),
      ("target_attribute", .ofOption .string l.targetColumn),
      ("inverse", .ofList AttributeId.toValue l.inverse),
      ("junction", .ofOption Path.toValue l.junction)]

/-- The link that a value stands for. -/
def ofValue? (v : Value) : Option Link := do
  let source ← v.required "attribute" AttributeId.ofValue?
  let cardinality ← v.optional "cardinality" Cardinality.ofValue?
  let target ← v.optional "target" Path.ofValue?
  let targetColumn ← v.optional "target_attribute" Value.string?
  let inverse ← v.required "inverse" (Value.list? AttributeId.ofValue?)
  let junction ← v.optional "junction" Path.ofValue?
  return { source, cardinality, target, targetColumn, inverse, junction }

end Link

namespace Severity

/-- The word for a severity in the exchange format. -/
def word : Severity → String
  | error => "Error"
  | warning => "Warning"

/-- A severity as a value. -/
def toValue (s : Severity) : Value := .string s.word

/-- The severity that a value stands for. -/
def ofValue? : Value → Option Severity := choiceOfWord? word [error, warning]

end Severity

namespace Diagnostic

/-- A diagnostic as a value. -/
def toValue (d : Diagnostic) : Value :=
  .object
    [("severity", d.severity.toValue), ("attribute", d.subject.toValue),
      ("message", .string d.message)]

/-- The diagnostic that a value stands for. -/
def ofValue? (v : Value) : Option Diagnostic := do
  let severity ← v.required "severity" Severity.ofValue?
  let subject ← v.required "attribute" AttributeId.ofValue?
  let message ← v.required "message" Value.string?
  return { severity, subject, message }

end Diagnostic

namespace Diagnostics

/-- Diagnostics as a value. -/
def toValue (ds : Diagnostics) : Value := .object [("items", .ofList Diagnostic.toValue ds)]

/-- The diagnostics that a value stands for. -/
def ofValue? (v : Value) : Option Diagnostics :=
  v.required "items" (Value.list? Diagnostic.ofValue?)

end Diagnostics

end SchemaLinker
