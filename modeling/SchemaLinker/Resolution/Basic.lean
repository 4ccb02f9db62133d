import SchemaLinker.Resolution.Link
import SchemaLinker.Resolution.Resolver

/-!
# `SchemaLinker.Resolution.Basic`: from submissions to a resolution

`Resolver.resolve` runs rounds until the resolver is stable and nothing
waits, and then links the attributes of all catalogs. It fails with the
first round that fails; a resolver that has no rounds left and is not
done fails with the round limit.

* `Resolver.settle`: the rounds, counted down.
* `Resolution.result`: a resolution with errors as a fault.
-/

set_option autoImplicit false

namespace SchemaLinker

/-- The outcome of resolving. -/
structure Resolution where
  /-- One catalog per model, in the order in which the models came. -/
  catalogs : OrderedMap String Catalog
  links : OrderedMap AttributeId Link
  diagnostics : Diagnostics
  rounds : Nat

namespace Resolver

/-- Whether no further round is needed. -/
def isSettled (r : Resolver) : Bool := r.state == .stable && r.waiting.isEmpty

/-- Runs up to `rounds` rounds until none is needed. -/
def settle : (rounds : Nat) → Resolver → Except Fault Resolver
  | 0, r =>
    if r.isSettled then .ok r else .error (FaultKind.roundLimit r.config.maxRounds).fault
  | rounds + 1, r =>
    if r.isSettled then .ok r
    else
      match r.runRound with
      | (.error fault, _) => .error fault
      | (.ok _, after) => settle rounds after

/-- The links of all catalogs under their attributes. -/
def allLinks (r : Resolver) : OrderedMap AttributeId Link :=
  .ofList ((r.catalogs.values.flatMap fun c => c.links r.config.separator).map fun l =>
    (l.source, l))

/-- The outcome of a resolver that is done. -/
def resolution (r : Resolver) : Resolution where
  catalogs := r.catalogs
  links := r.allLinks
  diagnostics := r.diagnostics
  rounds := r.round

/-- Runs the rounds that are left and links what came in. -/
def resolve (r : Resolver) : Except Fault Resolution :=
  (settle (r.config.maxRounds - r.round) r).map resolution

end Resolver

namespace Resolution

/-- The link of an attribute. -/
def link? (r : Resolution) (a : AttributeId) : Option Link := r.links.get? a

/-- The resolution, or a fault if it has error diagnostics. -/
def result (r : Resolution) : Except Fault Resolution :=
  match r.diagnostics.errors with
  | [] => .ok r
  | first :: rest =>
    .error (FaultKind.invalidSchema (.diagnosed (rest.length + 1) (toString first))).fault

end Resolution

end SchemaLinker
