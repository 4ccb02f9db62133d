import Mathlib.Data.List.Forall2
import Mathlib.Data.List.Induction
import SchemaLinker.Fault.Basic

/-!
# `SchemaLinker.Proofs.Context`: what a chain of contexts tells

A fault is put in one context after the other: it is hung under a first
consequent, the outcome under a second, and so on. A consequent becomes one
fresh link (`Consequent.link`), of its own kind if it is not shared and plain if
it is, and in either case with its own text (`message_link`).

`contextAll_eq_ok` says that consequents without causes are never refused, and
that their links come to stand in front of the fault, the last one outermost.
What the chain then tells is read off `withinAll` by induction on the links from
the last one inwards, each step adding one link to a chain that is known:
`message_withinAll`, `root_withinAll`, `sources_withinAll`.

`Fault.source?` is one step from a fault to what caused it, and
`Fault.Follows` says through which faults these steps lead before they end.

`inContexts_contextAll` puts this together.
-/

set_option autoImplicit false

namespace SchemaLinker.Fault

/-! ### From a fault to its causes -/

/-- The nearest cause of a fault. -/
def source? (f : Fault) : Option Fault :=
  match f.causes with
  | [] => none
  | kind :: behind => some ⟨kind, behind⟩

/-- From a fault to its nearest cause, to the nearest cause of that, and so on:
the steps lead through the faults of a list and end with its last. -/
inductive Follows : Fault → List Fault → Prop
  | ends {f : Fault} (h : f.source? = none) : Follows f []
  | step {f g : Fault} {behind : List Fault} (h : f.source? = some g)
      (hbehind : Follows g behind) : Follows f (g :: behind)

/-- The sources of a fault are what the steps lead through. -/
theorem follows_sources (f : Fault) : f.Follows f.sources := by
  obtain ⟨kind, causes⟩ := f
  induction causes generalizing kind with
  | nil => exact .ends rfl
  | cons next behind ih => exact .step rfl (ih next)

/-! ### Links in front of a fault -/

/-- The fault under fresh links, the last of them outermost. -/
def withinAll (f : Fault) (links : List FaultKind) : Fault := links.foldl within f

/-- The last context goes around all others. -/
theorem withinAll_append_singleton (f : Fault) (links : List FaultKind) (kind : FaultKind) :
    f.withinAll (links ++ [kind]) = (f.withinAll links).within kind :=
  List.foldl_concat ..

/-- The texts of the links stand in front of the fault's own message. -/
theorem message_withinAll (f : Fault) (links : List FaultKind) :
    (f.withinAll links).message =
      ": ".intercalate ((links.map FaultKind.message).reverse ++ [f.message]) := by
  induction links using List.reverseRecOn with
  | nil => exact String.intercalate_singleton.symm
  | append_singleton links kind ih =>
    have hbehind : (links.map FaultKind.message).reverse ++ [f.message] ≠ [] :=
      List.append_ne_nil_of_right_ne_nil _ (List.cons_ne_nil _ _)
    rw [withinAll_append_singleton, message_within, ih, List.map_append, List.reverse_append]
    exact (String.intercalate_cons_of_ne_nil hbehind).symm

/-- However many contexts there are, the root stays. -/
theorem root_withinAll (f : Fault) (links : List FaultKind) :
    (f.withinAll links).root = f.root :=
  List.foldlRecOn links within (motive := fun g => g.root = f.root) rfl
    fun g hg kind _ => (root_within g kind).trans hg

/-- Behind the outermost link come the chains of fewer links, down to the fault
itself, and then its sources. -/
theorem sources_withinAll (f : Fault) (links : List FaultKind) :
    (f.withinAll links).sources =
      (List.range links.length).reverse.map (fun n => f.withinAll (links.take n)) ++ f.sources := by
  induction links using List.reverseRecOn with
  | nil => rfl
  | append_singleton links kind ih =>
    have hshorter : (List.range links.length).reverse.map
          (fun n => f.withinAll ((links ++ [kind]).take n)) =
        (List.range links.length).reverse.map (fun n => f.withinAll (links.take n)) := by
      refine List.map_congr_left fun n hn => ?_
      have hlt : n < links.length := List.mem_range.1 (List.mem_reverse.1 hn)
      rw [List.take_append_of_le_length (Nat.le_of_lt hlt)]
    rw [withinAll_append_singleton, sources_within, ih, List.length_append, List.length_singleton,
      List.range_succ, List.reverse_concat, List.map_cons, hshorter, List.take_left]
    rfl

/-! ### One consequent and several -/

/-- A fault under which others are hung, and whether somebody else still holds
it. -/
structure Consequent where
  fault : Fault
  shared : Bool

/-- The link that a consequent becomes. -/
def Consequent.link (c : Consequent) : FaultKind :=
  if c.shared then .adhoc c.fault.kind.message else c.fault.kind

/-- Shared or not, a consequent gives its own text. -/
theorem Consequent.message_link (c : Consequent) : c.link.message = c.fault.kind.message := by
  simp only [link]
  split <;> rfl

/-- Hangs a fault under one consequent after the other. -/
def contextAll (f : Fault) (consequents : List Consequent) : Except ContextRefusal Fault :=
  consequents.foldlM (fun g c => g.context c.fault c.shared) f

/-- A consequent without a cause is not refused. -/
theorem context_eq_ok (f : Fault) {c : Consequent} (h : c.fault.causes = []) :
    f.context c.fault c.shared = .ok (f.within c.link) := by
  simp only [context, Consequent.link, h]
  split <;> rfl

/-- A consequent is refused exactly when it is not shared and has a cause. -/
theorem exists_context_eq_error_iff (f : Fault) (c : Consequent) :
    (∃ refusal, f.context c.fault c.shared = .error refusal) ↔
      c.shared = false ∧ c.fault.causes ≠ [] := by
  simp only [context]
  cases c.shared with
  | true => simp
  | false =>
    cases c.fault.causes with
    | nil => simp
    | cons kind behind =>
      exact iff_of_true ⟨.consequentHasCause, rfl⟩ ⟨rfl, List.cons_ne_nil kind behind⟩

/-- Consequents without causes are not refused, and become links in front of the
fault. -/
theorem contextAll_eq_ok (f : Fault) {consequents : List Consequent}
    (h : ∀ c ∈ consequents, c.fault.causes = []) :
    f.contextAll consequents = .ok (f.withinAll (consequents.map Consequent.link)) := by
  induction consequents generalizing f with
  | nil => rfl
  | cons c rest ih =>
    obtain ⟨hc, hrest⟩ := List.forall_mem_cons.1 h
    simp only [contextAll, List.foldlM_cons]
    rw [context_eq_ok f hc]
    exact ih _ hrest

/-- The fault `g` is `f` in the contexts of some consequents, and tells all that
happened. -/
structure InContexts (f : Fault) (consequents : List Consequent) (g : Fault) : Prop where
  /-- It says the texts of the consequents, the last one first, and then what
  `f` says. -/
  message : g.message =
    ": ".intercalate ((consequents.map fun c => c.fault.kind.message).reverse ++ [f.message])
  root : g.root = f.root
  /-- Its sources are what ever fewer of the consequents make of `f`, from all but
  the last down to none, which is `f` itself, and then the sources of `f`. -/
  sources : ∃ shorter : List Fault,
    List.Forall₂ (fun n s => f.contextAll (consequents.take n) = .ok s)
      (List.range consequents.length).reverse shorter ∧
    g.sources = shorter ++ f.sources
  /-- They are met step by step, and then the steps end. -/
  follows : g.Follows g.sources
  /-- The last consequent gives the kind if it is not shared, and else only its
  text. -/
  kind : ∀ c, consequents.getLast? = some c →
    g.kind = if c.shared then .adhoc c.fault.kind.message else c.fault.kind

/-- A fault is put in the contexts of consequents without causes, one after the
other. None is refused, and the outcome tells all of them and the whole fault.
A single consequent is refused exactly when it is not shared and has a cause. -/
theorem inContexts_contextAll (f : Fault) :
    (∀ consequents : List Consequent, (∀ c ∈ consequents, c.fault.causes = []) →
      ∃ g, f.contextAll consequents = .ok g ∧ f.InContexts consequents g) ∧
    ∀ c : Consequent, (∃ refusal, f.context c.fault c.shared = .error refusal) ↔
      c.shared = false ∧ c.fault.causes ≠ [] := by
  refine ⟨fun consequents h => ⟨_, f.contextAll_eq_ok h, ?_⟩, f.exists_context_eq_error_iff⟩
  have htexts : (consequents.map Consequent.link).map FaultKind.message =
      consequents.map fun c => c.fault.kind.message := by
    rw [List.map_map]
    exact List.map_congr_left fun c _ => c.message_link
  refine ⟨?_, root_withinAll f _, ⟨_, ?_, sources_withinAll f _⟩, follows_sources _, ?_⟩
  · rw [message_withinAll, htexts]
  · rw [List.length_map, List.forall₂_map_right_iff, List.forall₂_same]
    intro n _
    rw [← List.map_take]
    exact f.contextAll_eq_ok fun c hc => h c (List.mem_of_mem_take hc)
  · intro c hlast
    obtain ⟨before, rfl⟩ := List.getLast?_eq_some_iff.1 hlast
    rw [List.map_append, List.map_singleton, withinAll_append_singleton]
    rfl

/-- Too many rounds, in a context already. -/
def stopped : Fault := (FaultKind.roundLimit 64).fault.within (.adhoc "resolving model default")

/-- One consequent of our own, and a shared one after it. -/
def ownAndShared : List Consequent :=
  [⟨(FaultKind.invalidSchema (.stated "groups has no junction")).fault, false⟩,
    ⟨(FaultKind.duplicateEntity "app::Person").fault, true⟩]

/-- The shared consequent comes first, as a plain text. A fault that has a cause
is itself refused as a consequent of our own. -/
theorem inContexts_ownAndShared :
    (∀ c ∈ ownAndShared, c.fault.causes = []) ∧
      (∃ g, stopped.contextAll ownAndShared = .ok g ∧ stopped.InContexts ownAndShared g ∧
        g.message = "entity `app::Person` is declared more than once with different " ++
          "definitions: invalid schema: groups has no junction: resolving model default: " ++
          "resolution did not reach a fixed point within 64 rounds" ∧
        g.kind = .adhoc
          "entity `app::Person` is declared more than once with different definitions" ∧
        g.root = .roundLimit 64) ∧
      ∃ refusal, stopped.context stopped false = .error refusal := by
  have hcauses : ∀ c ∈ ownAndShared, c.fault.causes = [] := by decide
  obtain ⟨htold, hrefused⟩ := inContexts_contextAll stopped
  obtain ⟨g, hg, hcontexts⟩ := htold ownAndShared hcauses
  have hmessage := hcontexts.message
  refine ⟨hcauses, ⟨g, hg, hcontexts, hmessage.trans ?_, hcontexts.kind _ rfl, hcontexts.root⟩,
    (hrefused ⟨stopped, false⟩).2 ⟨rfl, ?_⟩⟩
  · decide +kernel
  · exact List.cons_ne_nil _ _

end SchemaLinker.Fault
