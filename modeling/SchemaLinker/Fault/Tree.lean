import SchemaLinker.Fault.Basic
import SchemaLinker.Text.Quoted

/-!
# `SchemaLinker.Fault.Tree`: faults written out as a tree

`Fault.tree` shows every link of a fault with its fields, one a line,
each level four blanks deeper than the one around it and a comma behind
every entry. Texts stand between quotes.
-/

set_option autoImplicit false

namespace SchemaLinker

/-- The lines of an entry inside a block: a label before the first line,
a comma behind the last, all one level deeper. -/
def entryLines (label : String) : List String → List String
  | [] => []
  | [line] => ["    " ++ label ++ line ++ ","]
  | line :: rest => ("    " ++ label ++ line) :: entryLines "" rest

/-- A block of entries between brackets. -/
def blockLines (opening : String) (entries : List (List String)) (closing : String) :
    List String :=
  [opening] ++ entries.flatten ++ [closing]

/-- A named record of labelled fields. -/
def recordLines (name : String) (fields : List (String × List String)) : List String :=
  blockLines (name ++ " \x7b") (fields.map fun f => entryLines (f.1 ++ ": ") f.2) "\x7d"

/-- A tag around one value. -/
def taggedLines (tag : String) (value : List String) : List String :=
  blockLines (tag ++ "(") [entryLines "" value] ")"

/-- One link with its fields. -/
def FaultKind.lines : FaultKind → List String
  | adhoc text =>
    taggedLines "Adhoc" (recordLines "AdhocError" [("message", [Text.quoted text])])
  | invalidSchema problem =>
    taggedLines "InvalidSchema"
      (recordLines "InvalidSchemaError" [("message", [Text.quoted problem.message])])
  | invalidType input reason =>
    taggedLines "InvalidType" (recordLines "InvalidTypeError"
      [("input", [Text.quoted input]), ("reason", [Text.quoted reason.message])])
  | duplicateEntity entity =>
    taggedLines "DuplicateEntity"
      (recordLines "DuplicateEntityError" [("entity", [Text.quoted entity])])
  | roundLimit rounds =>
    taggedLines "RoundLimit" (recordLines "RoundLimitError" [("max_rounds", [toString rounds])])

/-- A link and the causes behind it. -/
def Fault.treeLines (kind : FaultKind) : List FaultKind → List String
  | [] => recordLines "Error" [("kind", kind.lines), ("cause", ["None"])]
  | next :: rest =>
    recordLines "Error"
      [("kind", kind.lines), ("cause", taggedLines "Some" (treeLines next rest))]

/-- The whole chain as a tree. -/
def Fault.tree (f : Fault) : String := "\n".intercalate (treeLines f.kind f.causes)

end SchemaLinker
