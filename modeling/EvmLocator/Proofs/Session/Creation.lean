import EvmLocator.Proofs.Session.Representation
import EvmLocator.Proofs.Session.Stages
import EvmLocator.Proofs.Session.Transparency

/-!
# Lookups of creations

A creation token stands for a constructor only until it is registered for another one, so nothing
that a session has kept may show in a lookup of a token.  There are two ways in which it could: a
source map kept under the token would be answered from, and a code loaded under it would be reused.
The first cannot happen because no source map is ever kept under a token, which is part of what the
tables of a reachable session mean (`WellFormed`).  The second cannot happen because a token is
asked for anew each time.

What is left to depend on is what the session was given: its trace, what is registered for the
token, and what the provider has under it.  So two sessions with whatever histories that were given
the same answer the same, and give the same warnings on the way.

## Main results

* `Reachable.wellFormed`: the tables of a reachable session mean what they should.
* `locate_creation_eq`: what a lookup of a creation answers depends on what its session was given.
-/

namespace EvmLocator

namespace Session

/-! ## Reachable sessions -/

/-- Whether operations lead from a new session to this one. -/
inductive Reachable : Session → Prop
  | fresh (provider : Provider) (debug : Bool) : Reachable (Session.fresh provider debug)
  | apply {s : Session} (before : Reachable s) (op : Operation) : Reachable (s.apply op).session

variable {s s' s₁ s₂ : Session} {q : Lookup} {op : Operation}

theorem Reachable.run (h : s.Reachable) (ops : List Operation) : (s.run ops).Reachable := by
  induction ops generalizing s with
  | nil => exact h
  | cons op ops ih => exact ih (h.apply op)

theorem Reachable.wellFormed (h : s.Reachable) : s.WellFormed := by
  induction h with
  | fresh provider debug => exact wellFormed_fresh provider debug
  | apply _ op ih => exact apply_induction (fun _ _ hmove hs => hs.move hmove) ih

/-! ## Nothing is kept for a token -/

/-- No source map is kept under a token. -/
theorem WellFormed.map_eq_none (h : s.WellFormed) {token : String}
    (htoken : Address.isCreation token = true) : s.maps.get? (Address.key token) = none := by
  cases hm : s.maps.get? (Address.key token) with
  | none => rfl
  | some m =>
      have hdeployed := (h.maps _ m (Table.mem_of_get? hm)).2
      rw [Address.isCreation_key, htoken] at hdeployed
      cases hdeployed

/-- A lookup of a token finds nothing kept that it could use. -/
theorem WellFormed.keeps_creation (h : s.WellFormed)
    (htoken : Address.isCreation q.address = true) : s.Keeps q where
  code := by
    intro loaded hdeployed
    rw [htoken] at hdeployed
    cases hdeployed
  map := by
    intro m hm
    rw [h.map_eq_none htoken] at hm
    cases hm

theorem maps_complete_creation (htoken : Address.isCreation q.address = true) (s : Session)
    (outcome : Except Fault LoadedCode) : (s.complete q outcome).session.maps = s.maps := by
  have hend := completion s q outcome
  generalize s.complete q outcome = step at hend ⊢
  cases hend with
  | attributed resolves found writes => rw [writes, if_pos htoken]
  | _ => rfl

/-- A lookup of a token keeps no source map and forgets none. -/
theorem maps_locate_creation (htoken : Address.isCreation q.address = true) (s : Session) :
    (s.locate q).session.maps = s.maps := by
  cases hmap : s.maps.get? (Address.key q.address) with
  | some m => rw [locate_of_map hmap]
  | none =>
      rw [locate_of_no_map hmap]
      exact (maps_complete_creation htoken _ _).trans (maps_getCode s q.address)

/-! ## What happens on the way -/

/-- What happens at the end of a lookup does not depend on what its session has kept. -/
theorem events_complete (s₁ s₂ : Session) (q : Lookup) (outcome : Except Fault LoadedCode) :
    (s₁.complete q outcome).events = (s₂.complete q outcome).events := by
  cases outcome with
  | error f => rfl
  | ok code =>
      simp only [complete, Session.identify]
      cases q.catalog.resolve with
      | error e => rfl
      | ok catalog =>
          simp only
          cases findMap q.address code.bytecode catalog with
          | mk found events => cases found <;> rfl

theorem codeOrigin_creation {token : String} (htoken : Address.isCreation token = true)
    (s : Session) :
    s.codeOrigin token =
      match s.registered.get? token with
      | some code => .registered code
      | none => .provider := by
  unfold codeOrigin
  cases s.registered.get? token <;> simp only [htoken, ↓reduceIte]

/-! ## Two sessions -/

/-- Whether two sessions were given the same for a token.  Of the provider this asks no more than
that it has the same under the token. -/
structure GivenAlike (token : String) (s₁ s₂ : Session) : Prop where
  fetch : s₁.provider.fetch token = s₂.provider.fetch token
  trace : s₁.trace = s₂.trace
  registered : s₁.registered.get? token = s₂.registered.get? token

theorem GivenAlike.served_eq {token : String} (h : GivenAlike token s₁ s₂) :
    s₁.served token = s₂.served token := by
  rw [served, served, h.registered, h.fetch]

theorem GivenAlike.uncached_eq (h : GivenAlike q.address s₁ s₂) :
    s₁.uncached q = s₂.uncached q := by
  rw [uncached, uncached, h.served_eq, h.trace]

/-- Where no source map is kept, a lookup of a token goes the same way in both sessions. -/
theorem GivenAlike.events_locate (h : GivenAlike q.address s₁ s₂)
    (htoken : Address.isCreation q.address = true)
    (h₁ : s₁.maps.get? (Address.key q.address) = none)
    (h₂ : s₂.maps.get? (Address.key q.address) = none) :
    (s₁.locate q).events = (s₂.locate q).events := by
  simp only [locate, begin, h₁, h₂, codeOrigin_creation htoken, h.registered]
  cases s₂.registered.get? q.address with
  | some code =>
      simp only [fst_keep]
      exact events_complete _ _ q _
  | none =>
      simp only [resume, fst_fetch h.fetch]
      rw [events_complete]

/-- **Lookups of creations are isolated.**  Take a lookup of a creation, and any two reachable
sessions that were given the same for its token, whatever else has happened in them.  The lookup has
the same answer in both, with the same events on the way.  And it leaves the source maps of any
session as they were. -/
theorem locate_creation_eq (q : Lookup) (htoken : Address.isCreation q.address = true) :
    (∀ s₁ s₂ : Session, s₁.Reachable → s₂.Reachable → GivenAlike q.address s₁ s₂ →
      (s₁.locate q).answer = (s₂.locate q).answer ∧
        (s₁.locate q).events = (s₂.locate q).events) ∧
      ∀ s : Session, (s.locate q).session.maps = s.maps := by
  constructor
  · intro s₁ s₂ h₁ h₂ halike
    have hanswer₁ := answer_locate_eq_uncached (h₁.wellFormed.keeps_creation htoken)
    have hanswer₂ := answer_locate_eq_uncached (h₂.wellFormed.keeps_creation htoken)
    constructor
    · rw [hanswer₁, halike.uncached_eq, ← hanswer₂]
    · exact halike.events_locate htoken (h₁.wellFormed.map_eq_none htoken)
        (h₂.wellFormed.map_eq_none htoken)
  · exact maps_locate_creation htoken

namespace Sample

/-- A session in which the token has stood for other constructors. -/
def reused : Session :=
  (Session.fresh (Provider.ofMembers codes) false).run
    [.register token (.str "0x6001600201"), .locate creation, .locate lookup,
      .loadTrace (.arr steps), .getCode "0xABC", .register token (.str "0x6002"),
      .gather [1, 0] [creation, lookup], .register token (.str "0x60016002")]

/-- A session with the last registration alone. -/
def registered : Session :=
  (Session.fresh (Provider.ofMembers codes) true).run
    [.loadTrace (.arr steps), .register token (.str "0x60016002")]

end Sample

theorem locate_creation_eq_sample :
    Address.isCreation Sample.creation.address = true ∧
      Sample.reused.Reachable ∧ Sample.registered.Reachable ∧
      GivenAlike Sample.creation.address Sample.reused Sample.registered ∧
      (Sample.reused.locate Sample.creation).answer =
        .ok { start := some 7, length := some 1, file := some 0, jump := some "-" } := by
  have htoken : Address.isCreation Sample.creation.address = true := by decide +kernel
  have hreused : Sample.reused.Reachable := (Reachable.fresh _ _).run _
  have hregistered : Sample.registered.Reachable := (Reachable.fresh _ _).run _
  have halike : GivenAlike Sample.creation.address Sample.reused Sample.registered :=
    { fetch := by with_unfolding_all rfl
      trace := by with_unfolding_all rfl
      registered := by with_unfolding_all rfl }
  refine ⟨htoken, hreused, hregistered, halike, ?_⟩
  rw [((locate_creation_eq Sample.creation htoken).1 _ _ hreused hregistered halike).1]
  decide +kernel

end Session

end EvmLocator
