import SchemaLinker.Review.Rules

/-!
# `SchemaLinker.Review.Basic`: the review of a catalog

A review visits every attribute of every entity in order and notes what
the rules find. The two sides of an association are one pair: the first
visit of a pair notes the finding about it, and of a pair that declares
no junction the first visit asks for one.

* `Catalog.visits`: the attributes in the order of their visits.
* `Review.visit`: one visit.
* `Catalog.review`: all visits, from nothing.
-/

set_option autoImplicit false

namespace SchemaLinker

/-- A wish for the junction behind a many-to-many association. -/
structure JunctionRequest where
  source : Path
  target : Path
  /-- The association's name on the source. -/
  name : String
deriving DecidableEq

/-- The association and where it leads. -/
protected def JunctionRequest.toString (r : JunctionRequest) : String :=
  toString r.source ++ "::" ++ r.name ++ " -> " ++ toString r.target

instance : ToString JunctionRequest := ⟨JunctionRequest.toString⟩

/-- The attributes of a catalog with their entities, in order. -/
def Catalog.visits (c : Catalog) : List (Entity × Attribute) :=
  c.entities.flatMap fun e => e.attributes.values.map fun a => (e, a)

/-- What a review has noted so far. -/
structure Review where
  /-- The pairs whose finding has been noted. -/
  checked : List (AttributeId × AttributeId)
  /-- The pairs for which a junction was asked because neither side
  declares one. -/
  requested : List (AttributeId × AttributeId)
  findings : List (AttributeId × Finding)
  requests : List JunctionRequest

namespace Review

/-- A review before its first visit. -/
def start : Review := ⟨[], [], [], []⟩

/-- Whether a pair, in either order, is in a list. -/
def holds (pairs : List (AttributeId × AttributeId)) (a b : AttributeId) : Bool :=
  pairs.contains (a, b) || pairs.contains (b, a)

/-- Notes what a rule found. -/
def note (r : Review) (subject : AttributeId) (f : Option Finding) : Review :=
  { r with findings := r.findings ++ (f.map fun f => (subject, f)).toList }

/-- Notes the finding about a pair on its first visit. -/
def notePair (r : Review) (source mapped : AttributeId) (f : Option Finding) : Review :=
  if holds r.checked source mapped then r
  else { r with checked := (source, mapped) :: r.checked }.note source f

/-- Asks for a junction. -/
def ask (r : Review) (request : JunctionRequest) : Review :=
  { r with requests := r.requests ++ [request] }

/-- Asks for the junction of a many-to-many association with at most one
other side: where the association declares it and the other side does
not, and, where neither does, once for both or, without another side,
if one-sided associations get one. -/
def askJunction (oneSided : Bool) (r : Review) (entity : Entity) (a : Attribute)
    (target : Entity) (mapped : Option Attribute) : Review :=
  let request : JunctionRequest := ⟨entity.ty, target.ty, a.name⟩
  match a.junction.isSome, mapped.any (·.junction.isSome) with
  | true, false => r.ask request
  | false, false =>
    match mapped with
    | none => if oneSided then r.ask request else r
    | some b =>
      let source := entity.idOf a
      let other := target.idOf b
      if holds r.requested source other then r
      else { r with requested := (source, other) :: r.requested }.ask request
  -- Only the other side declares the junction, and its own visit asks, or both do.
  | _, _ => r

/-- What there is to say about an association with this target. -/
def visitResolved (c : Catalog) (oneSided : Bool) (r : Review) (entity : Entity) (a : Attribute)
    (cardinality : Cardinality) (target : Entity) : Review :=
  let source := entity.idOf a
  match c.inverses entity a target with
  | [] =>
    let r := r.note source (Finding.ofOneSide a cardinality target)
    if cardinality = .manyToMany then askJunction oneSided r entity a target none else r
  | [b] =>
    let r := r.notePair source (target.idOf b)
      (Finding.ofPair source a cardinality (target.idOf b) b)
    if cardinality = .manyToMany then askJunction oneSided r entity a target (some b) else r
  -- Several other sides: the report names them, and nothing is asked for.
  | b :: others =>
    r.note source (some (.ambiguousInverse target.ty b.name (others.map Attribute.name)))

/-- The visit of an attribute as an association or a plain column. -/
def visitRelationship (c : Catalog) (oneSided : Bool) (r : Review) (entity : Entity)
    (a : Attribute) : Review :=
  match a.cardinality with
  | none => r.note (entity.idOf a) (Finding.ofPlainColumn c a)
  | some cardinality =>
    match c.target? a with
    | none => r.note (entity.idOf a) (some (.unresolvedTarget (Finding.targetDescription a)))
    | some target => visitResolved c oneSided r entity a cardinality target

/-- The visit of an attribute as a foreign key. -/
def visitForeignKey (c : Catalog) (r : Review) (entity : Entity) (a : Attribute) : Review :=
  if a.foreignKey then r.note (entity.idOf a) (Finding.ofForeignKey c entity a) else r

/-- One visit. A shared name that the policy leaves undecided is all
that is said about an attribute. -/
def visit (c : Catalog) (oneSided : Bool) (r : Review) (v : Entity × Attribute) : Review :=
  let shared := Finding.ofSharedName c v.2
  let r := r.note (v.1.idOf v.2) shared
  if shared.any fun f => f.severity == .error then r
  else visitForeignKey c (visitRelationship c oneSided r v.1 v.2) v.1 v.2

/-- The findings as diagnostics. -/
def diagnostics (r : Review) : Diagnostics := r.findings.map fun f => f.2.diagnostic f.1

end Review

/-- Visits every attribute. `oneSided` says whether a many-to-many
association without another side gets a junction it does not declare. -/
def Catalog.review (c : Catalog) (oneSided : Bool) : Review :=
  c.visits.foldl (Review.visit c oneSided) .start

end SchemaLinker
