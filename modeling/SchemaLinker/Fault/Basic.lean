import SchemaLinker.Attribute
import SchemaLinker.DataType.Parser

/-!
# `SchemaLinker.Fault.Basic`: what can go wrong, and in what context

A `Fault` is a chain of kinds, the outermost first: what happened while
what else was going on. Its message names all of them, outermost first,
and its root is the innermost.

A fault is put in context by hanging it under another, the consequent. A
consequent that somebody else still holds is not altered: a plain fault
with its text takes its place. A consequent of one's own must not have a
cause yet.

* `message_within`: context adds its own text in front.
* `root_within`: context leaves the root alone.
* `sources_within`: the chain's next part is the fault that was hung.
-/

set_option autoImplicit false

namespace SchemaLinker

/-- Why a schema, or a part of one, is refused. -/
inductive SchemaProblem
  | emptyTypeName
  | ofAttribute (problem : AttributeProblem)
  | repeatedAttribute (entity : Path) (name : String)
  /-- The entity in which a problem was found. -/
  | inEntity (entity : Path)
  | foreignModel (entity : Path) (model expected : String)
  /-- Resolution ended with so many error diagnostics, of which this was
  the first. -/
  | diagnosed (errors : Nat) (first : String)
  /-- A reason stated in words. -/
  | stated (reason : String)
deriving DecidableEq

/-- The problem in words. -/
def SchemaProblem.message : SchemaProblem → String
  | emptyTypeName => "entity type name must not be empty"
  | ofAttribute problem => problem.message
  | repeatedAttribute entity name =>
    "entity `" ++ toString entity ++ "` declares attribute `" ++ name ++ "` more than once"
  | inEntity entity => "entity `" ++ toString entity ++ "`"
  | foreignModel entity model expected =>
    "entity `" ++ toString entity ++ "` belongs to model `" ++ model ++ "`, not `" ++ expected ++
      "`"
  | diagnosed errors first =>
    "resolution finished with " ++ toString errors ++ " error(s); first: " ++ first
  | stated reason => reason

/-- One link of a fault's chain. -/
inductive FaultKind
  | adhoc (text : String)
  | invalidSchema (problem : SchemaProblem)
  | invalidType (input : String) (reason : TypeProblem)
  | duplicateEntity (entity : String)
  | roundLimit (rounds : Nat)
deriving DecidableEq

/-- The text of one link. -/
def FaultKind.message : FaultKind → String
  | adhoc text => text
  | invalidSchema problem => "invalid schema: " ++ problem.message
  | invalidType input reason => "invalid type `" ++ input ++ "`: " ++ reason.message
  | duplicateEntity entity =>
    "entity `" ++ entity ++ "` is declared more than once with different definitions"
  | roundLimit rounds =>
    "resolution did not reach a fixed point within " ++ toString rounds ++ " rounds"

/-- A chain of kinds, the outermost first. -/
structure Fault where
  kind : FaultKind
  /-- What lies behind it, the nearest cause first. -/
  causes : List FaultKind
deriving DecidableEq

/-- A fault without a cause. -/
def FaultKind.fault (kind : FaultKind) : Fault := ⟨kind, []⟩

namespace Fault

/-- All links, the outermost first. -/
def chain (f : Fault) : List FaultKind := f.kind :: f.causes

/-- The texts of all links, the outermost first. -/
def message (f : Fault) : String := ": ".intercalate (f.chain.map FaultKind.message)

instance : ToString Fault := ⟨message⟩

/-- The innermost link. -/
def root (f : Fault) : FaultKind := f.causes.getLast?.getD f.kind

/-- The faults behind a list of links, the nearest first. -/
def ofCauses : List FaultKind → List Fault
  | [] => []
  | kind :: rest => ⟨kind, rest⟩ :: ofCauses rest

/-- The causes behind a fault, each with its own chain. -/
def sources (f : Fault) : List Fault := ofCauses f.causes

/-- The fault as the cause of one fresh link. -/
def within (f : Fault) (kind : FaultKind) : Fault := ⟨kind, f.chain⟩

/-- Hanging a fault under one that already has a cause. -/
inductive ContextRefusal
  | consequentHasCause
deriving DecidableEq

/-- The refusal in words. -/
def ContextRefusal.message : ContextRefusal → String
  | consequentHasCause => "consequent error must not already have a cause"

/-- Hangs `f` under `consequent`. A shared consequent gives only its
text; one of our own gives its kind and must have no cause. -/
def context (f consequent : Fault) (shared : Bool) : Except ContextRefusal Fault :=
  if shared then .ok (f.within (.adhoc consequent.kind.message))
  else if consequent.causes.isEmpty then .ok (f.within consequent.kind)
  else .error .consequentHasCause

/-- A context stands before the message. -/
theorem message_within (f : Fault) (kind : FaultKind) :
    (f.within kind).message = kind.message ++ ": " ++ f.message := by
  simp [message, within, chain, String.intercalate_cons_cons]

/-- A context does not change what is at the root. -/
theorem root_within (f : Fault) (kind : FaultKind) : (f.within kind).root = f.root := by
  cases h : f.causes <;> simp [root, within, chain, h, List.getLast?_cons]

/-- The fault itself comes first among the sources. -/
theorem sources_within (f : Fault) (kind : FaultKind) :
    (f.within kind).sources = f :: f.sources := rfl

end Fault

end SchemaLinker
