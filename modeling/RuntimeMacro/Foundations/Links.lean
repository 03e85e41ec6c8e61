import Mathlib.Data.List.Basic
import Mathlib.Logic.Relation
import RuntimeMacro.Foundations.Dialogues

/-!
# Links between a client and a server

A server answers one request after another and takes steps of its own in
between. On a direct link a request is served and answered at once. On a lossy
link requests and responses wait in two queues from which any of them may be
lost; what the client can observe there is what the `delayed` partner answers,
which keeps no responses.
-/
namespace RuntimeMacro.Foundations.Links
open Dialogues Relation

variable {σ ρ ω φ α : Type}

/-- How a server answers a request, its own steps, and which responses a client
takes for the answer to a request: they carry its key. -/
structure Server (σ ρ ω : Type) where
  serves : σ → ρ → ω → σ → Prop
  rests : σ → σ → Prop
  fits : ω → ρ → Bool
  key : ρ → UInt8
  keyed : ∀ {s request response s' other}, serves s request response s' →
    fits response other = true → key request = key other

namespace Server
variable (server : Server σ ρ ω)

/-- A request is served after some steps of the server; a response that does
not fit is no answer. The client asks while the server is `willing`. -/
def direct (willing : σ → Prop) : Partner σ ρ (Except φ ω) where
  allows s _ := willing s
  answers s request answer s' := ∃ quiet response, ReflTransGen server.rests s quiet ∧
    server.serves quiet request response s' ∧
    ((server.fits response request = true ∧ answer = .ok response) ∨
      (server.fits response request = false ∧ ∃ fault, answer = .error fault))

/-- The requests are served in order, or lost. -/
inductive Drains : σ → List ρ → σ → Prop
  | nil (s : σ) : Drains s [] s
  | rest {s middle s' : σ} {requests : List ρ} (rested : server.rests s middle)
      (drains : Drains middle requests s') : Drains s requests s'
  | lost {s s' : σ} {requests : List ρ} (request : ρ) (drains : Drains s requests s') :
      Drains s (request :: requests) s'
  | served {s middle s' : σ} {request : ρ} {response : ω} {requests : List ρ}
      (serves : server.serves s request response middle) (drains : Drains middle requests s') :
      Drains s (request :: requests) s'

variable {server} {s s' s'' : σ} {requests front back : List ρ} {request : ρ} {response : ω}

theorem Drains.append (first : server.Drains s front s') (second : server.Drains s' back s'') :
    server.Drains s (front ++ back) s'' := by
  induction first with
  | nil => exact second
  | rest rested _ ih => exact .rest rested (ih second)
  | lost request _ ih => exact .lost request (ih second)
  | served serves _ ih => exact .served serves (ih second)

theorem Drains.of_lost (s : σ) (requests : List ρ) : server.Drains s requests s := by
  induction requests with
  | nil => exact .nil s
  | cons request requests ih => exact .lost request ih

theorem Drains.of_rests (rested : ReflTransGen server.rests s s') : server.Drains s [] s' := by
  induction rested using ReflTransGen.head_induction_on with
  | refl => exact .nil s'
  | head step _ ih => exact .rest step ih

/-- One of the requests is served and the others are lost. -/
theorem Drains.of_mem (serves : server.serves s request response s')
    (member : request ∈ requests) : server.Drains s requests s' := by
  induction requests with
  | nil => cases member
  | cons first requests ih =>
    rcases List.mem_cons.mp member with rfl | later
    · exact .served serves (.of_lost s' requests)
    · exact .lost first (ih later)

/-- Invariant rule for draining. -/
theorem Drains.invariant (drains : server.Drains s requests s') (Inv : σ → Prop)
    (initially : Inv s) (rested : ∀ s s', Inv s → server.rests s s' → Inv s')
    (served : ∀ s request response s', request ∈ requests → Inv s →
      server.serves s request response s' → Inv s') : Inv s' := by
  induction drains with
  | nil => exact initially
  | rest step _ ih => exact ih (rested _ _ initially step) served
  | lost request _ ih =>
    exact ih initially fun s other response s' member =>
      served s other response s' (List.mem_cons_of_mem _ member)
  | served serves _ ih =>
    exact ih (served _ _ _ _ List.mem_cons_self initially serves)
      fun s other response s' member => served s other response s' (List.mem_cons_of_mem _ member)

end Server

/-! ## The lossy link -/

/-- The requests and responses on their way, oldest first, under the number of
the request. -/
structure Link (σ ρ ω : Type) where
  state : σ
  requests : List (Nat × ρ)
  responses : List (Nat × ω)
  issued : Nat

namespace Link

/-- Nothing under way and nothing issued yet. -/
def idle (s : σ) : Link σ ρ ω := ⟨s, [], [], 0⟩

/-- A request goes out under the next number, behind those that are still
waiting. -/
def issue (request : ρ) (link : Link σ ρ ω) : Link σ ρ ω :=
  { link with
    requests := link.requests ++ [(link.issued, request)]
    issued := link.issued + 1 }

end Link

/-- What happens while the client waits. It also loses the responses that it
skips. -/
inductive LinkStep (server : Server σ ρ ω) (link : Link σ ρ ω) : Link σ ρ ω → Prop
  | rest {s : σ} (rested : server.rests link.state s) :
      LinkStep server link { link with state := s }
  | deliver {number : Nat} {request : ρ} {rest : List (Nat × ρ)} {response : ω} {s : σ}
      (next : link.requests = (number, request) :: rest)
      (serves : server.serves link.state request response s) :
      LinkStep server link
        ⟨s, rest, link.responses ++ [(number, response)], link.issued⟩
  | loseRequest {front back : List (Nat × ρ)} {item : Nat × ρ}
      (found : link.requests = front ++ item :: back) :
      LinkStep server link { link with requests := front ++ back }
  | loseResponse {front back : List (Nat × ω)} {item : Nat × ω}
      (found : link.responses = front ++ item :: back) :
      LinkStep server link { link with responses := front ++ back }

/-- One exchange: the client takes the first response that fits, or gives up. A
response is taken before 256 further requests are issued, or it is lost. -/
inductive Exchanged (server : Server σ ρ ω) (link : Link σ ρ ω) (request : ρ) :
    Except φ ω → Link σ ρ ω → Prop
  | answered {middle : Link σ ρ ω} {number : Nat} {response : ω} {rest : List (Nat × ω)}
      (waited : ReflTransGen (LinkStep server) (link.issue request) middle)
      (next : middle.responses = (number, response) :: rest)
      (recent : middle.issued ≤ number + 256)
      (fits : server.fits response request = true) :
      Exchanged server link request (.ok response) { middle with responses := rest }
  | failed {middle : Link σ ρ ω} (fault : φ)
      (waited : ReflTransGen (LinkStep server) (link.issue request) middle) :
      Exchanged server link request (.error fault) middle

/-- The server behind the link, as a dialogue sees it: an exchange ends with an
answer or with a loss, and every request can be made. -/
def lossy (server : Server σ ρ ω) : Partner (Link σ ρ ω) ρ (Except φ ω) where
  allows _ _ := True
  answers := Exchanged server

/-- What happens before a request is issued may as well happen after, because a
step takes requests from the front and the new one is at the back. -/
theorem LinkStep.issue {server : Server σ ρ ω} {link link' : Link σ ρ ω}
    (step : LinkStep server link link') (request : ρ) :
    LinkStep server (link.issue request) (link'.issue request) := by
  cases step with
  | rest rested => exact .rest rested
  | deliver next serves =>
    refine .deliver ?_ serves
    simp only [Link.issue, next, List.cons_append]
  | @loseRequest front back item found =>
    have split : (link.issue request).requests =
        front ++ item :: (back ++ [(link.issued, request)]) := by
      simp only [Link.issue, found, List.append_assoc, List.cons_append]
    have lost : LinkStep server (link.issue request) _ := .loseRequest split
    rw [← List.append_assoc] at lost
    exact lost
  | loseResponse found => exact .loseResponse found

theorem Exchanged.waited {server : Server σ ρ ω} {link middle link' : Link σ ρ ω} {request : ρ}
    {answer : Except φ ω} (exchanged : Exchanged server middle request answer link')
    (waits : ReflTransGen (LinkStep server) link middle) :
    Exchanged server link request answer link' := by
  have before : ReflTransGen (LinkStep server) (link.issue request) (middle.issue request) :=
    waits.lift (Link.issue request) fun _ _ step => step.issue request
  cases exchanged with
  | answered waited next recent fits =>
    exact .answered (before.trans waited) next recent fits
  | failed fault waited => exact .failed fault (before.trans waited)

section Direct
variable {server : Server σ ρ ω} {willing : σ → Prop} {s s' : σ} {request : ρ}
  {answer : Except φ ω}

/-- What is answered directly waits as a response on the link. -/
theorem delivered_of_direct (answered : (server.direct willing).answers s request answer s')
    (issued : Nat) :
    ∃ response, ReflTransGen (LinkStep server)
        ((⟨s, [], [], issued⟩ : Link σ ρ ω).issue request)
        ⟨s', [], [(issued, response)], issued + 1⟩ ∧
      ((server.fits response request = true ∧ answer = .ok response) ∨
        ∃ fault, answer = .error fault) := by
  obtain ⟨quiet, response, rested, serves, outcome⟩ := answered
  have waited : ReflTransGen (LinkStep server) ((⟨s, [], [], issued⟩ : Link σ ρ ω).issue request)
      ⟨quiet, [(issued, request)], [], issued + 1⟩ := by
    clear serves
    induction rested with
    | refl => exact .refl
    | tail _ step ih => exact ih.tail (.rest step)
  exact ⟨response, waited.tail (LinkStep.deliver rfl serves), outcome.imp_right And.right⟩

theorem exchanged_of_lost (server : Server σ ρ ω) (s : σ) (issued : Nat) (request : ρ)
    (fault : φ) : Exchanged server ⟨s, [], [], issued⟩ request (.error fault)
      ⟨s, [], [], issued + 1⟩ :=
  .failed fault (.single (@LinkStep.loseRequest _ _ _ server _ [] [] (issued, request) rfl))

/-- The server has answered, and the client does not hear it. -/
theorem exchanged_of_unheard (answered : (server.direct willing).answers s request answer s')
    (issued : Nat) (fault : φ) :
    Exchanged server ⟨s, [], [], issued⟩ request (.error fault) ⟨s', [], [], issued + 1⟩ := by
  obtain ⟨response, delivered, _⟩ := delivered_of_direct answered issued
  exact .failed fault (delivered.tail
    (@LinkStep.loseResponse _ _ _ server _ [] [] (issued, response) rfl))

/-- A link that loses nothing is a lossy one. -/
theorem exchanged_of_direct (answered : (server.direct willing).answers s request answer s')
    (issued : Nat) :
    Exchanged server ⟨s, [], [], issued⟩ request answer ⟨s', [], [], issued + 1⟩ := by
  obtain ⟨response, delivered, ⟨fits, rfl⟩ | ⟨fault, rfl⟩⟩ := delivered_of_direct answered issued
  · exact .answered delivered rfl (by simp only; omega) fits
  · exact exchanged_of_unheard answered issued fault

end Direct

/-! ## Chosen losses -/

/-- What becomes of an exchange. -/
inductive Fate where
  | answered | requestLost | answerLost

/-- The answers of `serve` on a link on which the first exchanges have these
fates, and the later ones are answered. -/
def stumbling (serve : σ → ρ → Except φ ω × σ) (fault : φ) (state : σ × List Fate)
    (request : ρ) : Except φ ω × (σ × List Fate) :=
  let (answer, s') := serve state.1 request
  match state.2 with
  | .requestLost :: fates => (.error fault, (state.1, fates))
  | .answerLost :: fates => (.error fault, (s', fates))
  | fates => (answer, (s', fates.tail))

/-- The lossy link can lose any exchanges of a dialogue: for each fate there is
an exchange that ends so. This is where the executions on the link that a
witness needs come from. -/
theorem runs_stumbling {server : Server σ ρ ω} {willing : σ → Prop}
    {serve : σ → ρ → Except φ ω × σ}
    (served : ∀ s request,
      (server.direct willing).answers s request (serve s request).1 (serve s request).2)
    (fault : φ) (dialogue : Dialogue ρ (Except φ ω) α) (s : σ) (fates : List Fate)
    (issued : Nat) :
    ∃ issued', Dialogue.Runs (lossy server).answers dialogue ⟨s, [], [], issued⟩
      (dialogue.drive (stumbling serve fault) (s, fates)).1
      (dialogue.drive (stumbling serve fault) (s, fates)).2.1
      ⟨(dialogue.drive (stumbling serve fault) (s, fates)).2.2.1, [], [], issued'⟩ := by
  induction dialogue generalizing s fates issued with
  | done value => exact ⟨issued, .done value _⟩
  | ask request next ih =>
    match fates with
    | [] =>
      obtain ⟨issued', rest⟩ := ih _ _ [] (issued + 1)
      exact ⟨issued', .ask (exchanged_of_direct (served s request) issued) rest⟩
    | .answered :: fates =>
      obtain ⟨issued', rest⟩ := ih _ _ fates (issued + 1)
      exact ⟨issued', .ask (exchanged_of_direct (served s request) issued) rest⟩
    | .requestLost :: fates =>
      obtain ⟨issued', rest⟩ := ih _ _ fates (issued + 1)
      exact ⟨issued', .ask (exchanged_of_lost server s issued request fault) rest⟩
    | .answerLost :: fates =>
      obtain ⟨issued', rest⟩ := ih _ _ fates (issued + 1)
      exact ⟨issued', .ask (exchanged_of_unheard (served s request) issued fault) rest⟩

/-! ## What the client observes -/

/-- The requests that may still be served, the key of the last one, and whether
it was answered. -/
structure Delayed (σ ρ : Type) where
  state : σ
  pending : List ρ
  key : UInt8
  answered : Bool

/-- What an exchange with a delayed server can end in: the requests left from
before are served first, in order, and this one then is answered, or waits as
one of them. -/
inductive DelayedAnswer (server : Server σ ρ ω) (s : Delayed σ ρ) (request : ρ) :
    Except φ ω → Delayed σ ρ → Prop
  | answered {before after final : σ} {response : ω}
      (drained : server.Drains s.state s.pending before)
      (serves : server.serves before request response after)
      (rested : ReflTransGen server.rests after final) :
      DelayedAnswer server s request (.ok response) ⟨final, [], server.key request, true⟩
  | failed {front back pending : List ρ} {final : σ} (fault : φ)
      (split : s.pending ++ [request] = front ++ back)
      (drained : server.Drains s.state front final) (kept : pending.Sublist back) :
      DelayedAnswer server s request (.error fault) ⟨final, pending, server.key request, false⟩

/-- A request has the next key, or after an answer the same one again. -/
def delayed (server : Server σ ρ ω) : Partner (Delayed σ ρ) ρ (Except φ ω) where
  allows s request := server.key request = s.key + 1 ∨
    (s.answered = true ∧ server.key request = s.key)
  answers := DelayedAnswer server

/-- A key of `ticket`s, counted up by one at most with every request: of the
request `number`, when `issued` requests have been issued and the last ticket
is `last`. -/
def Dated (last issued number : Nat) (key : UInt8) : Prop :=
  ∃ ticket ≤ last, key = UInt8.ofNat ticket ∧ last + number + 1 ≤ ticket + issued

/-- The same, under an earlier ticket. -/
def Older (last issued number : Nat) (key : UInt8) : Prop :=
  ∃ ticket < last, key = UInt8.ofNat ticket ∧ last + number + 1 ≤ ticket + issued

theorem Dated.older {last issued number : Nat} {key : UInt8}
    (dated : Dated last issued number key) : Older (last + 1) (issued + 1) number key := by
  obtain ⟨ticket, before, same, distance⟩ := dated
  exact ⟨ticket, by omega, same, by omega⟩

theorem Older.dated {last issued number : Nat} {key : UInt8}
    (older : Older last issued number key) : Dated last issued number key := by
  obtain ⟨ticket, before, same, distance⟩ := older
  exact ⟨ticket, by omega, same, distance⟩

/-- Within 256 requests an earlier ticket has another key. -/
theorem Older.key_ne {last issued number : Nat} {key : UInt8}
    (older : Older last issued number key) (recent : issued ≤ number + 256) :
    key ≠ UInt8.ofNat last := by
  obtain ⟨ticket, before, rfl, distance⟩ := older
  intro same
  have congruent := congrArg UInt8.toNat same
  rw [UInt8.toNat_ofNat', UInt8.toNat_ofNat'] at congruent
  omega

/-- The client sees `s` of the link. -/
structure Represents (server : Server σ ρ ω) (link : Link σ ρ ω) (last : Nat)
    (s : Delayed σ ρ) : Prop where
  state : s.state = link.state
  pending : s.pending = link.requests.map Prod.snd
  key : s.key = UInt8.ofNat last
  requests : ∀ item ∈ link.requests, Dated last link.issued item.1 (server.key item.2)
  responses : ∀ item ∈ link.responses, ∀ request, server.fits item.2 request = true →
    Dated last link.issued item.1 (server.key request)
  quiet : s.answered = true → link.requests = [] ∧ link.responses = []

/-- What has become of a request that was just issued: it is behind the older
ones that are not served yet, or it was served after all of them. -/
inductive Outstanding (server : Server σ ρ ω) (s : σ) (older : List (Nat × ρ)) (number : Nat)
    (request : ρ) (last issued : Nat) (link : Link σ ρ ω) : Prop
  | waiting {front back : List (Nat × ρ)} (split : older = front ++ back)
      (drained : server.Drains s (front.map Prod.snd) link.state)
      (requests : link.requests.Sublist (back ++ [(number, request)]))
      (responses : ∀ item ∈ link.responses, ∀ request, server.fits item.2 request = true →
        Older last issued item.1 (server.key request))
  | served {before after : σ} {response : ω} {past : List (Nat × ω)}
      (drained : server.Drains s (older.map Prod.snd) before)
      (serves : server.serves before request response after)
      (rested : ReflTransGen server.rests after link.state) (requests : link.requests = [])
      (responses : link.responses.Sublist (past ++ [(number, response)]))
      (old : ∀ item ∈ past, ∀ request, server.fits item.2 request = true →
        Older last issued item.1 (server.key request))

section Waiting
variable {server : Server σ ρ ω} {s : σ} {older : List (Nat × ρ)} {number last issued : Nat}
  {request : ρ} {link link' : Link σ ρ ω}

theorem linkStep_issued (step : LinkStep server link link') : link'.issued = link.issued := by
  cases step with
  | rest | deliver | loseRequest | loseResponse => rfl

/-- While a request is out, a step of the link serves one of those before it,
serves it, or delivers or loses something. Each is a step of the delayed
server, or none. -/
theorem Outstanding.step
    (old : ∀ item ∈ older, Older last issued item.1 (server.key item.2))
    (outstanding : Outstanding server s older number request last issued link)
    (step : LinkStep server link link') :
    Outstanding server s older number request last issued link' := by
  cases outstanding with
  | @waiting front back split drained requests responses =>
    cases step with
    | rest rested =>
      have resting := drained.append (.rest rested (.nil _))
      rw [List.append_nil] at resting
      exact .waiting split resting requests responses
    | loseRequest found =>
      rw [found] at requests
      refine Outstanding.waiting split drained ?_ responses
      exact ((List.sublist_cons_self _ _).append_left _).trans requests
    | @loseResponse front back item found =>
      refine Outstanding.waiting split drained requests fun other member => responses other ?_
      rw [found]
      rcases List.mem_append.mp member with early | late
      · exact List.mem_append_left _ early
      · exact List.mem_append_right _ (List.mem_cons_of_mem _ late)
    | @deliver next earlier rest response after head serves =>
      rw [head] at requests
      obtain ⟨first, second, whole, early, late⟩ := List.sublist_append_iff.mp requests
      cases first with
      | nil =>
        -- The request itself is next: the older ones left were lost.
        rw [List.nil_append] at whole
        rw [← whole] at late
        obtain ⟨same, nothing⟩ : (next, earlier) = (number, request) ∧ rest = [] := by
          have length := late.length_le
          have empty : rest = [] := by
            apply List.eq_nil_of_length_eq_zero
            simpa using length
          rw [empty] at late
          exact ⟨by simpa using late, empty⟩
        cases same
        have drains : server.Drains s (older.map Prod.snd) link.state := by
          rw [split, List.map_append]
          exact drained.append (.of_lost _ _)
        exact .served drains serves .refl nothing (List.Sublist.refl (link.responses ++ _))
          responses
      | cons item first =>
        rw [List.cons_append] at whole
        cases whole
        obtain ⟨skipped, remaining, rfl, member, kept⟩ := List.cons_sublist_iff.mp early
        have drains : server.Drains s ((front ++ skipped).map Prod.snd) after := by
          rw [List.map_append]
          exact drained.append (.of_mem serves (List.mem_map_of_mem member))
        have whole : older = (front ++ skipped) ++ remaining := by
          rw [split, List.append_assoc]
        apply Outstanding.waiting whole drains (kept.append late)
        intro other member' other' fits
        rcases List.mem_append.mp member' with earlier | latest
        · exact responses other earlier other' fits
        · rw [List.mem_singleton.mp latest] at fits ⊢
          rw [← server.keyed serves fits]
          apply old (next, _)
          rw [split]
          exact List.mem_append_right _ (List.mem_append_left _ member)
  | served drained serves rested requests responses old =>
    cases step with
    | rest step => exact .served drained serves (rested.tail step) requests responses old
    | loseRequest found =>
      rw [requests] at found
      simp at found
    | deliver head =>
      rw [requests] at head
      cases head
    | loseResponse found =>
      rw [found] at responses
      refine Outstanding.served drained serves rested requests ?_ old
      exact ((List.sublist_cons_self _ _).append_left _).trans responses

theorem Outstanding.run (old : ∀ item ∈ older, Older last issued item.1 (server.key item.2))
    (outstanding : Outstanding server s older number request last issued link)
    (waited : ReflTransGen (LinkStep server) link link') :
    Outstanding server s older number request last issued link' ∧ link'.issued = link.issued := by
  induction waited with
  | refl => exact ⟨outstanding, rfl⟩
  | tail _ step ih =>
    obtain ⟨still, issued⟩ := ih
    exact ⟨still.step old step, (linkStep_issued step).trans issued⟩

end Waiting

section Simulation
variable {server : Server σ ρ ω} {link link' : Link σ ρ ω} {last : Nat} {s s' : Delayed σ ρ}
  {request : ρ} {answer : Except φ ω}

/-- Under a key of its own, or with nothing else on its way, a request starts
outstanding. -/
theorem Represents.issued (represents : Represents server link last s)
    (allowed : server.key request = s.key + 1 ∨
      (s.answered = true ∧ server.key request = s.key)) :
    ∃ last', server.key request = UInt8.ofNat last' ∧
      (∀ item ∈ link.requests, Older last' (link.issued + 1) item.1 (server.key item.2)) ∧
      Outstanding server link.state link.requests link.issued request last' (link.issued + 1)
        (link.issue request) := by
  rcases allowed with fresh | ⟨answered, same⟩
  · refine ⟨last + 1, ?_, fun item member => (represents.requests item member).older, ?_⟩
    · rw [fresh, represents.key]
      simp
    · exact Outstanding.waiting (List.nil_append _).symm (.nil _) (List.Sublist.refl _)
        fun item member other fits => (represents.responses item member other fits).older
  · obtain ⟨requests, responses⟩ := represents.quiet answered
    refine ⟨last, same.trans represents.key, ?_, ?_⟩
    · rw [requests]
      simp
    · refine @Outstanding.waiting _ _ _ server _ _ _ request last _ (link.issue request) [] []
        requests (.nil _) ?_ ?_
      · simp [Link.issue, requests]
      · simp [Link.issue, responses]

/-- What the link answers, the delayed partner answers too. Responses to older
requests carry another key, as long as an answer is heard before the 256 keys
come round. -/
theorem Represents.exchanged (represents : Represents server link last s)
    (allowed : server.key request = s.key + 1 ∨
      (s.answered = true ∧ server.key request = s.key))
    (exchanged : Exchanged server link request answer link') :
    ∃ last' s', DelayedAnswer server s request answer s' ∧ Represents server link' last' s' := by
  obtain ⟨last', key, old, outstanding⟩ := represents.issued allowed
  cases exchanged with
  | @answered middle number response rest waited next recent fits =>
    obtain ⟨still, issued⟩ := outstanding.run old waited
    have count : middle.issued = link.issued + 1 := issued
    cases still with
    | waiting _ _ _ responses =>
      have older := responses (number, response) (by rw [next]; exact List.mem_cons_self) request
        fits
      rw [count] at recent
      exact absurd key (older.key_ne recent)
    | @served before after answer past drained serves rested requests responses old =>
      rw [next] at responses
      obtain ⟨first, second, whole, early, late⟩ := List.sublist_append_iff.mp responses
      cases first with
      | cons item first =>
        cases whole
        have older := old (number, response) (early.subset List.mem_cons_self) request fits
        rw [count] at recent
        exact absurd key (older.key_ne recent)
      | nil =>
        rw [List.nil_append] at whole
        rw [← whole] at late
        have nothing : rest = [] := by
          apply List.eq_nil_of_length_eq_zero
          simpa using late.length_le
        rw [nothing] at late
        have same : (number, response) = (link.issued, answer) := by simpa using late
        cases same
        refine ⟨last', _, .answered (by rw [represents.state, represents.pending]; exact drained)
          serves rested, ?_⟩
        constructor
        · rfl
        · simp [requests]
        · exact key
        · simp [requests]
        · simp [nothing]
        · exact fun _ => ⟨requests, nothing⟩
  | failed fault waited =>
    obtain ⟨still, count⟩ := outstanding.run old waited
    have issued : link'.issued = link.issued + 1 := count
    cases still with
    | @waiting front back split drained requests responses =>
      refine ⟨last', ⟨link'.state, link'.requests.map Prod.snd, server.key request, false⟩,
        @DelayedAnswer.failed _ _ _ _ server s request (front.map Prod.snd)
          (back.map Prod.snd ++ [request]) _ _ fault ?_ ?_ ?_, ?_⟩
      · rw [represents.pending, split, List.map_append, List.append_assoc]
      · rw [represents.state]
        exact drained
      · simpa using requests.map Prod.snd
      · constructor
        · rfl
        · rfl
        · exact key
        · intro item member
          rw [issued]
          rcases List.mem_append.mp (requests.subset member) with early | late
          · apply Older.dated
            apply old
            rw [split]
            exact List.mem_append_right _ early
          · rw [List.mem_singleton.mp late]
            exact ⟨last', Nat.le_refl _, key, by omega⟩
        · intro item member other fits
          rw [issued]
          exact (responses item member other fits).dated
        · intro impossible
          cases impossible
    | @served before after response past drained serves rested requests responses past_old =>
      have wholly : server.Drains s.state (s.pending ++ [request]) link'.state := by
        rw [represents.state, represents.pending]
        exact drained.append (.served serves (.of_rests rested))
      refine ⟨last', ⟨link'.state, [], server.key request, false⟩,
        .failed fault (List.append_nil _).symm wholly (List.Sublist.refl _), ?_⟩
      constructor
      · rfl
      · simp [requests]
      · exact key
      · simp [requests]
      · intro item member other fits
        rw [issued]
        rcases List.mem_append.mp (responses.subset member) with early | late
        · exact (past_old item early other fits).dated
        · rw [List.mem_singleton.mp late] at fits ⊢
          rw [← server.keyed serves fits]
          exact ⟨last', Nat.le_refl _, key, by omega⟩
      · intro impossible
        cases impossible

/-- Refinement rule: what is ensured against the delayed partner is ensured on
the link. -/
theorem ensures_lossy {dialogue : Dialogue ρ (Except φ ω) α}
    {lawful : List (ρ × Except φ ω) → ρ → Prop}
    {wanted : α → Delayed σ ρ × List (ρ × Except φ ω) → Prop} {past : List (ρ × Except φ ω)}
    (ensures : dialogue.Ensures ((delayed server).recorded lawful) wanted (s, past))
    (represents : Represents server link last s) :
    dialogue.Ensures ((lossy server).recorded lawful)
      (fun value final => ∃ last' s', Represents server final.1 last' s' ∧
        wanted value (s', final.2)) (link, past) := by
  have simulated := @Dialogue.Ensures.simulated _ _ _ _ _ _ ((lossy server).recorded lawful) _ _ _
    (link, past) (fun t s => (∃ last, Represents server t.1 last s.1) ∧ t.2 = s.2) ensures
    ⟨⟨last, represents⟩, rfl⟩
    (by
      rintro t s request ⟨_, same⟩ allowed
      refine ⟨trivial, ?_⟩
      rw [same]
      exact allowed.2)
    (by
      rintro t s request answer t' ⟨⟨last, represents⟩, same⟩ allowed ⟨exchanged, record⟩
      obtain ⟨last', s', answered, represents'⟩ := represents.exchanged allowed.1 exchanged
      refine ⟨(s', t'.2), ⟨answered, ?_⟩, ⟨last', represents'⟩, rfl⟩
      rw [record, same])
  apply simulated.mono
  rintro value final ⟨s', ⟨⟨last', represents'⟩, same⟩, holds⟩
  refine ⟨last', s'.1, represents', ?_⟩
  rw [same]
  exact holds

/-- An empty link, with any key for the last. -/
theorem represents_empty (server : Server σ ρ ω) (state : σ) (issued : Nat) (key : UInt8) :
    Represents server ⟨state, [], [], issued⟩ key.toNat ⟨state, [], key, false⟩ := by
  constructor
  · rfl
  · rfl
  · simp
  · simp
  · simp
  · exact fun impossible => (by cases impossible)

end Simulation

end RuntimeMacro.Foundations.Links
