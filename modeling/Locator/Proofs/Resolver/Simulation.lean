import Locator.Proofs.Resolver.Plan

/-! Two probes that cannot be told apart make resolutions that cannot be told apart. -/

namespace Locator

/-- A way to compare computations in two monads, which goes on as they go on. -/
structure Simulation (m n : Type → Type) [Monad m] [Monad n] where
  Rel : {α : Type} → m α → n α → Prop
  pure {α : Type} (a : α) : Rel (Pure.pure a) (Pure.pure a)
  bind {α β : Type} {x : m α} {y : n α} {f : α → m β} {g : α → n β} :
    Rel x y → (∀ a, Rel (f a) (g a)) → Rel (x >>= f) (y >>= g)

namespace Probe

variable {m n : Type → Type} [Monad m] [Monad n] {sim : Simulation m n} {p : Probe m} {q : Probe n}

structure Related (sim : Simulation m n) (p : Probe m) (q : Probe n) : Prop where
  isPresent : ∀ path, sim.Rel (p.isPresent path) (q.isPresent path)
  findCommand : ∀ name, sim.Rel (p.findCommand name) (q.findCommand name)
  note : ∀ note, sim.Rel (p.note note) (q.note note)
  log : ∀ event, sim.Rel (p.log event) (q.log event)

namespace Related

variable (h : Related sim p q) (config : Config) (request : Request)

include h

lemma lookupBundled : sim.Rel (p.lookupBundled config) (q.lookupBundled config) := by
  apply sim.bind (h.isPresent _)
  intro present
  cases present with
  | true => exact sim.bind (h.note _) fun _ => sim.pure _
  | false => exact sim.bind (h.note _) fun _ => sim.pure _

lemma lookupEnvironment (platform : Platform) :
    sim.Rel (p.lookupEnvironment platform) (q.lookupEnvironment platform) := by
  apply sim.bind (h.findCommand _)
  intro found
  cases found with
  | some path => exact sim.bind (h.note _) fun _ => sim.pure _
  | none => exact sim.bind (h.note _) fun _ => sim.pure _

lemma checkExplicit (raw? : Option String) :
    sim.Rel (p.checkExplicit raw?) (q.checkExplicit raw?) := by
  cases raw? with
  | none => exact sim.pure _
  | some raw =>
    simp only [Probe.checkExplicit]
    split
    · exact sim.pure _
    · apply sim.bind (h.isPresent _)
      intro present
      cases present with
      | true => exact sim.pure _
      | false => exact sim.pure _

lemma lookupExplicit (raw? : Option String) :
    sim.Rel (p.lookupExplicit raw?) (q.lookupExplicit raw?) := by
  apply sim.bind (h.checkExplicit raw?)
  intro checked
  rcases checked with (_ | _) | path
  · exact sim.bind (h.note _) fun _ => sim.pure _
  · exact sim.bind (h.note _) fun _ => sim.pure _
  · exact sim.bind (h.note _) fun _ => sim.pure _

lemma lookup (source : Source) :
    sim.Rel (p.lookup config request source) (q.lookup config request source) := by
  cases source with
  | bundled => exact h.lookupBundled config
  | environment => exact h.lookupEnvironment config.platform
  | explicit => exact h.lookupExplicit request.explicitPath

lemma announce (plan : List Source) : sim.Rel (p.announce plan) (q.announce plan) := by
  cases plan with
  | nil => exact sim.pure _
  | cons source rest =>
    cases source with
    | bundled => exact sim.bind (h.note _) fun _ => sim.pure _
    | environment => exact sim.bind (h.note _) fun _ => sim.pure _
    | explicit => exact sim.pure _

lemma pursue (plan : List Source) :
    sim.Rel (p.pursue config request plan) (q.pursue config request plan) := by
  induction plan with
  | nil => exact sim.pure _
  | cons source rest ih =>
    apply sim.bind (h.lookup config request source)
    intro found
    cases found with
    | some path => exact sim.bind (h.note _) fun _ => sim.pure _
    | none => exact sim.bind (h.announce rest) fun _ => ih

lemma resolve [LawfulMonad m] [LawfulMonad n] :
    sim.Rel (p.resolve config request) (q.resolve config request) := by
  rw [resolve_eq_pursue, resolve_eq_pursue]
  apply sim.bind (h.log _)
  intro _
  cases request.plan? with
  | none => exact sim.pure _
  | some plan =>
    cases request.trusted with
    | false => exact sim.bind (h.note _) fun _ => h.pursue config request plan
    | true => exact h.pursue config request plan

end Related

end Probe

end Locator
