import RuntimeMacro.Foundations.Links

/-!
# Transactions of several requests

A client sends the parts of a transaction one by one, and starts over when an
answer stays out. Requests of earlier attempts may still be served meanwhile. A
server whose staging is `Mine` holds a part of this transaction or nothing; a
request that `Opens` needs no such staging.
-/
namespace RuntimeMacro.Foundations.Links
open Dialogues Relation

variable {σ ρ ω φ : Type} {server : Server σ ρ ω} {Sends Opens : ρ → Prop} {Sound Mine : σ → Prop}

/-- What the server's own steps and the requests of the transaction keep. -/
structure Transaction (server : Server σ ρ ω) (Sends Opens : ρ → Prop) (Sound Mine : σ → Prop) :
    Prop where
  rested : ∀ {s s'}, server.rests s s' → (Sound s → Sound s') ∧ (Mine s → Mine s')
  served : ∀ {s request response s'}, server.serves s request response s' → Sends request →
    Sound s → (Mine s ∨ Opens request) → Sound s' ∧ (Mine s → Mine s')

/-- No request that may still be served continues a staging that is not of the
transaction. -/
structure Guarded (Sends Opens : ρ → Prop) (Sound Mine : σ → Prop) (s : Delayed σ ρ) : Prop where
  sound : Sound s.state
  sends : ∀ request ∈ s.pending, Sends request
  covered : Mine s.state ∨ ∀ request ∈ s.pending, Opens request

theorem Guarded.initially {s : σ} {key : UInt8} {answered : Bool} (sound : Sound s) :
    Guarded Sends Opens Sound Mine ⟨s, [], key, answered⟩ :=
  ⟨sound, by simp, Or.inr (by simp)⟩

namespace Transaction
variable {s s' : σ} {requests : List ρ}

theorem rests (transaction : Transaction server Sends Opens Sound Mine)
    (rested : ReflTransGen server.rests s s') : (Sound s → Sound s') ∧ (Mine s → Mine s') := by
  induction rested with
  | refl => exact ⟨id, id⟩
  | tail _ step ih =>
    obtain ⟨sound, mine⟩ := transaction.rested step
    exact ⟨sound ∘ ih.1, mine ∘ ih.2⟩

/-- Serving a list of requests, none of them foreign, keeps what is sound. If
the transaction is not open, one of them opens it before any continues it. -/
theorem drains (transaction : Transaction server Sends Opens Sound Mine)
    (drains : server.Drains s requests s') (sound : Sound s)
    (sends : ∀ request ∈ requests, Sends request)
    (covered : Mine s ∨ ∀ request ∈ requests, Opens request) :
    Sound s' ∧ (Mine s → Mine s') := by
  have kept := drains.invariant
    (fun s' => Sound s' ∧ (Mine s' ∨ ∀ request ∈ requests, Opens request) ∧ (Mine s → Mine s'))
    ⟨sound, covered, id⟩ ?_ ?_
  · exact ⟨kept.1, kept.2.2⟩
  · rintro s₁ s₂ ⟨sound, covered, mine⟩ step
    obtain ⟨still, keeps⟩ := transaction.rested step
    exact ⟨still sound, covered.imp_left keeps, keeps ∘ mine⟩
  · rintro s₁ request response s₂ member ⟨sound, covered, mine⟩ serves
    obtain ⟨still, keeps⟩ := transaction.served serves (sends request member) sound
      (covered.imp_right fun opens => opens request member)
    exact ⟨still, covered.imp_left keeps, keeps ∘ mine⟩

end Transaction

section Answers
variable {s s' : Delayed σ ρ} {request : ρ} {response : ω} {fault : φ}

/-- A request without an answer may be served later, so it stays among those
that wait. The guard then speaks of it as well. -/
theorem Guarded.failed (guarded : Guarded Sends Opens Sound Mine s)
    (transaction : Transaction server Sends Opens Sound Mine) (sends : Sends request)
    (covered : Mine s.state ∨ Opens request)
    (answered : DelayedAnswer server s request (.error fault) s') :
    Guarded Sends Opens Sound Mine s' ∧ (Mine s.state → Mine s'.state) := by
  cases answered with
  | @failed front back pending final _ split drained kept =>
    have every : ∀ other ∈ front ++ back, Sends other := by
      rw [← split]
      intro other member
      rcases List.mem_append.mp member with earlier | latest
      · exact guarded.sends other earlier
      · rw [List.mem_singleton.mp latest]
        exact sends
    have opens : Mine s.state ∨ ∀ other ∈ front ++ back, Opens other := by
      rw [← split]
      rcases guarded.covered with mine | opens
      · exact Or.inl mine
      · refine covered.imp_right fun latest other member => ?_
        rcases List.mem_append.mp member with earlier | same
        · exact opens other earlier
        · rw [List.mem_singleton.mp same]
          exact latest
    obtain ⟨sound, mine⟩ := transaction.drains drained guarded.sound
      (fun other member => every other (List.mem_append_left _ member))
      (opens.imp_right fun opens other member => opens other (List.mem_append_left _ member))
    refine ⟨⟨sound, fun other member => every other ?_, ?_⟩, mine⟩
    · exact List.mem_append_right _ (kept.subset member)
    · exact opens.imp mine fun opens other member =>
        opens other (List.mem_append_right _ (kept.subset member))

/-- An answered request was served behind all others. -/
structure Served (server : Server σ ρ ω) (Opens : ρ → Prop) (Sound Mine : σ → Prop)
    (s : Delayed σ ρ) (request : ρ) (response : ω) (s' : Delayed σ ρ) (before after : σ) :
    Prop where
  serves : server.serves before request response after
  rested : ReflTransGen server.rests after s'.state
  sound : Sound before
  mine : Mine s.state → Mine before
  covered : Mine before ∨ Opens request
  key : s'.key = server.key request
  answered : s'.answered = true
  pending : s'.pending = []

/-- An answer is given after all that waited is served, so nothing waits any
more, and the moment of serving is the last one. -/
theorem Guarded.answered (guarded : Guarded Sends Opens Sound Mine s)
    (transaction : Transaction server Sends Opens Sound Mine) (sends : Sends request)
    (covered : Mine s.state ∨ Opens request)
    (answered : @DelayedAnswer _ _ _ φ server s request (.ok response) s') :
    Guarded Sends Opens Sound Mine s' ∧
      ∃ before after, Served server Opens Sound Mine s request response s' before after := by
  cases answered with
  | @answered before after final _ drained serves rested =>
    obtain ⟨sound, mine⟩ := transaction.drains drained guarded.sound guarded.sends guarded.covered
    have opens : Mine before ∨ Opens request := covered.imp_left mine
    have served := (transaction.served serves sends sound opens).1
    constructor
    · constructor
      · exact (transaction.rests rested).1 served
      · simp
      · exact Or.inr (by simp)
    · exact ⟨before, after, serves, rested, sound, mine, opens, rfl, rfl, rfl⟩

end Answers

end RuntimeMacro.Foundations.Links
