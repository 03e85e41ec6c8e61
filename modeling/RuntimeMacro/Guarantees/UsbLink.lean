import RuntimeMacro.Foundations.Asking
import RuntimeMacro.Foundations.Implementations
import RuntimeMacro.Source.UsbService

/-!
# The USB transport is a lossy link

runtime_macro_usb_hid.c:236-408; tools/runtime_macro_cli.py:446-463. Between
two lifecycle resets, whatever the callbacks, the work handler and the host do
in between, a client hears over the transport only what it could hear over a
lossy first-in first-out link to the protocol: what it may rely on there it may
rely on here.
-/
namespace RuntimeMacro.Guarantees.UsbLink
open Source Source.UsbHid Foundations.Links Foundations.Runs
open Foundations.Dialogues Foundations.Dialogues.Dialogue
open HidTransport (Seconds Turn Stale Decides awaitResponse exchange inputReport)
open RuntimeMacroClient (Answer ClientError answersTo)
open AuthCore (Hmac)
open Relation

variable {cfg : Config} {hmac : Hmac} {timeoutMs : Int} {b b' : Bus} {s : Transport}
  {link : Link Station Frame Frame} {request : Frame} {deadline : Seconds} {turn : Turn}
  {turns : List Turn} {outcome : Except ClientError Frame} {α : Type}

/-- A transport at rest mirrors a link with nothing under way. -/
theorem atRest_mirrors (rest : AtRest s) (issued : Nat) :
    Mirrors ⟨.fresh s.world, [], [], issued⟩ (resting s issued) := by
  obtain ⟨online, unreset, handler, queue, report, readies, permit, flag⟩ := rest
  have empty : waiting s = [] := by
    rw [waiting, handler, queue]
    rfl
  have line : pipeline s = [] := by
    rw [pipeline, empty, report]
    rfl
  have quiet : s.Quiet := fun caller completed => by cases (readies caller).symm.trans completed
  refine ⟨⟨⟨online, unreset, ?_, .of_unlocked ?_, ?_, ?_⟩, .free permit flag rfl ?_ quiet, ?_,
    ?_⟩, rfl, ?_, rfl, rfl, rfl⟩
  · simp [settled, handler]
  · rw [show (settled s issued []).transport.handler = _ from handler]
    rfl
  · simp [settled, empty]
  · simp [settled, report]
  · rw [show (settled s issued []).transport.handler = _ from handler]
    rfl
  · simp [settled, line]
  · simp [settled, handler, HandlerPhase.answers]
  · simp [settled]

/-! ## One exchange -/

theorem waits_mirrored (waits : ReflTransGen (BusStep cfg hmac) b b') (mirrors : Mirrors link b) :
    ∃ link', ReflTransGen (LinkStep (device cfg hmac usbContext)) link link' ∧
      Mirrors link' b' := by
  induction waits with
  | refl => exact ⟨link, .refl, mirrors⟩
  | tail _ step ih =>
    obtain ⟨middle, earlier, mirrors⟩ := ih
    obtain ⟨link', later, mirrors'⟩ := mirrors.step step
    exact ⟨link', earlier.trans later, mirrors'⟩

/-- A report that is written is a request on the link; one that does not arrive
is lost there. -/
theorem write_mirrored (cfg : Config) (hmac : Hmac) (arrives : Bool) (request : Frame)
    (mirrors : Mirrors link b) :
    ∃ link', ReflTransGen (LinkStep (device cfg hmac usbContext)) (link.issue request) link' ∧
      Mirrors link' (b.write arrives request) := by
  obtain ⟨connected, state, requests, responses, issued, served⟩ := mirrors
  obtain ⟨steady, permit, length, answering⟩ := connected
  cases arrives with
  | true =>
    refine ⟨_, .refl, ⟨steady, permit, length, answering⟩, state, ?_, responses, ?_, served⟩
    · simp [Link.issue, Bus.write, requests, issued]
    · simp [Link.issue, Bus.write, issued]
  | false =>
    have last : (link.issue request).requests = link.requests ++ (link.issued, request) :: [] := rfl
    refine ⟨_, .single (.loseRequest last), ⟨steady, permit, length, answering⟩, state, ?_,
      responses, ?_, served⟩
    · simp [Bus.write, requests]
    · simp [Link.issue, Bus.write, issued]

/-- How a wait of the client ends on the link. -/
inductive Waited (cfg : Config) (hmac : Hmac) (request : Frame) (link : Link Station Frame Frame) :
    Answer → Link Station Frame Frame → Prop
  | answered {middle : Link Station Frame Frame} {number : Nat} {response : Frame}
      {rest : List (Nat × Frame)}
      (waited : ReflTransGen (LinkStep (device cfg hmac usbContext)) link middle)
      (next : middle.responses = (number, response) :: rest)
      (recent : middle.issued ≤ number + 256) (fits : answersTo response request = true) :
      Waited cfg hmac request link (.ok response) { middle with responses := rest }
  | failed {middle : Link Station Frame Frame} (fault : RuntimeMacroClient.TransportFault)
      (waited : ReflTransGen (LinkStep (device cfg hmac usbContext)) link middle) :
      Waited cfg hmac request link (.error fault) middle

theorem Waited.after {answer : Answer} {middle link' : Link Station Frame Frame}
    (waited : Waited cfg hmac request middle answer link')
    (before : ReflTransGen (LinkStep (device cfg hmac usbContext)) link middle) :
    Waited cfg hmac request link answer link' := by
  cases waited with
  | answered waited next recent fits => exact .answered (before.trans waited) next recent fits
  | failed fault waited => exact .failed fault (before.trans waited)

theorem Mirrors.hears {number : Nat} {frame : Frame} {rest : List (Nat × Frame)}
    (mirrors : Mirrors link b) (first : b.incoming = (number, frame) :: rest) :
    link.responses = (number, frame) :: (rest ++ b.answered) ∧
      Mirrors { link with responses := rest ++ b.answered } { b with incoming := rest } := by
  obtain ⟨connected, state, requests, responses, issued, served⟩ := mirrors
  obtain ⟨steady, permit, length, answering⟩ := connected
  refine ⟨by rw [responses, first]; rfl, ?_⟩
  exact ⟨⟨steady, permit, length, answering⟩, state, requests, rfl, issued, served⟩

/-- A turn loses at most the report that it reads. -/
theorem read_mirrored (reads : BusRead request deadline b turn b') (mirrors : Mirrors link b) :
    ∃ link', ReflTransGen (LinkStep (device cfg hmac usbContext)) link link' ∧
      Mirrors link' b' := by
  cases reads with
  | late | silent | broken => exact ⟨link, .refl, mirrors⟩
  | heard first =>
    obtain ⟨responses, mirrors'⟩ := Mirrors.hears mirrors first
    rw [← List.nil_append (_ :: _)] at responses
    exact ⟨_, .single (.loseResponse responses), mirrors'⟩

/-- A report that is read is a frame, whichever form it has. -/
theorem readFrame_heard {data : List Int} {frame : Frame}
    (report : data = inputReport frame ∨ data = 0 :: inputReport frame) :
    HidTransport.readFrame (.returned data) = .ok frame := by
  apply HidTransport.readFrame_eq_ok_iff.mpr
  rcases report with rfl | rfl
  · exact Or.inl rfl
  · exact Or.inr rfl

/-- A stale turn loses what it reads, and the turn that decides takes the
answer or gives up. -/
theorem turns_mirrored (run : BusTurns cfg hmac request deadline b turns b')
    (ended : awaitResponse request deadline turns = some (outcome, []))
    (mirrors : Mirrors link b) :
    ∃ answer link', outcome = outcomeOf answer ∧ Waited cfg hmac request link answer link' ∧
      Mirrors link' b' := by
  induction run generalizing link with
  | nil => cases ended
  | @turn b waited heard b' turn turns waits reads rest ih =>
    obtain ⟨middle, before, mirrors⟩ := waits_mirrored waits mirrors
    obtain ⟨left, lost, mirrors'⟩ := read_mirrored reads mirrors
    rcases HidTransport.stale_or_decides request deadline turn with stale | ⟨outcome', decides⟩
    · rw [HidTransport.awaitResponse_stale stale] at ended
      obtain ⟨answer, link', same, waited, mirrors''⟩ := ih ended mirrors'
      exact ⟨answer, link', same, waited.after (before.trans lost), mirrors''⟩
    · rw [HidTransport.awaitResponse_decides decides] at ended
      cases ended
      cases rest
      cases decides with
      | late past =>
        exact ⟨.error .timeoutError, left, rfl, .failed _ (before.trans lost), mirrors'⟩
      | failed early raised =>
        cases reads with
        | late past => exact absurd early (not_lt.mpr past)
        | silent =>
          cases raised
          exact ⟨.error .timeoutError, left, rfl, .failed _ (before.trans lost), mirrors'⟩
        | broken =>
          cases raised
          exact ⟨.error .broken, left, rfl, .failed _ (before.trans lost), mirrors'⟩
        | heard _ _ report => cases (readFrame_heard report).symm.trans raised
      | answered early read fits =>
        cases reads with
        | late past => exact absurd early (not_lt.mpr past)
        | silent | broken => cases read
        | heard first recent report =>
          cases (readFrame_heard report).symm.trans read
          obtain ⟨responses, taken⟩ := Mirrors.hears mirrors first
          refine ⟨.ok _, _, rfl, .answered before responses ?_ fits, taken⟩
          rw [mirrors.issued]
          exact recent fits

/-- An exchange on the bus is an exchange on the link: the write issues it, and
each turn of the loop delivers or discards. -/
theorem exchange_mirrored
    (exchanged : BusExchanged cfg hmac timeoutMs b request outcome b') (mirrors : Mirrors link b) :
    ∃ answer link', outcome = outcomeOf answer ∧
      Exchanged (device cfg hmac usbContext) link request answer link' ∧ Mirrors link' b' := by
  obtain ⟨before, arrives, written, start, turns, waits, ended, run⟩ := exchanged
  obtain ⟨middle, earlier, mirrors⟩ := waits_mirrored waits mirrors
  obtain ⟨issued, sent, mirrors⟩ := write_mirrored cfg hmac arrives request mirrors
  rw [exchange] at ended
  cases success : HidTransport.writeFrame written with
  | error error =>
    simp only [success, Option.some.injEq, Prod.mk.injEq] at ended
    obtain ⟨rfl, rfl⟩ := ended
    cases run
    rw [HidTransport.writeFrame_error success]
    exact ⟨.error .broken, issued, rfl, Exchanged.waited (.failed _ sent) earlier, mirrors⟩
  | ok sent' =>
    rw [success] at ended
    obtain ⟨answer, link', same, waited, mirrors'⟩ := turns_mirrored run ended mirrors
    refine ⟨answer, link', same, Exchanged.waited ?_ earlier, mirrors'⟩
    cases waited with
    | answered waited next recent fits => exact .answered (sent.trans waited) next recent fits
    | failed fault waited => exact .failed fault (sent.trans waited)

/-! ## Every conversation -/

/-- What a call may hear over the transport. -/
def hears (cfg : Config) (hmac : Hmac) (timeoutMs : Int) (b : Bus) (request : Frame)
    (answer : Answer) (b' : Bus) : Prop :=
  BusExchanged cfg hmac timeoutMs b request (outcomeOf answer) b'

theorem outcomeOf_inj {answer answer' : Answer} (same : outcomeOf answer = outcomeOf answer') :
    answer = answer' := by
  cases answer with
  | ok response =>
    cases answer' with
    | ok response' =>
      cases same
      rfl
    | error fault => cases same
  | error fault =>
    cases answer' with
    | ok response => cases same
    | error fault' =>
      cases same
      rfl

theorem runs_mirrored {dialogue : Dialogue Frame Answer α} {talk : List (Frame × Answer)}
    {value : α} (runs : Runs (hears cfg hmac timeoutMs) dialogue b talk value b')
    (mirrors : Mirrors link b) :
    ∃ link', Runs (lossy (device cfg hmac usbContext)).answers dialogue link talk value link' ∧
      Mirrors link' b' := by
  refine runs.simulated (fun b link => Mirrors link b) ?_ mirrors
  intro b link request answer b' mirrors exchanged
  obtain ⟨heard, link', same, exchanged, mirrors'⟩ := exchange_mirrored exchanged mirrors
  cases outcomeOf_inj same
  exact ⟨link', exchanged, mirrors'⟩

/-! ## Calls over USB -/

/-- What a call meets on a lossy link it meets over USB. The bus starts at
rest, so nothing waits on the link. -/
theorem ends (rest : AtRest s) {lawful : Talk → Frame → Prop} {ε : Type}
    {procedure : Procedure Frame Answer UInt8 ε α}
    {wanted : α → UInt8 → Delayed Station Frame × Talk → Prop}
    {raised : ε → UInt8 → Delayed Station Frame × Talk → Prop}
    {next : UInt8} {issued : Nat} {talk : Talk} {outcome : Except ε α × UInt8}
    (meets : procedure.Meets (RuntimeMacroClient.delayedLink cfg hmac usbContext
      (fun _ _ => True) lawful) wanted raised next (⟨.fresh s.world, [], next - 1, false⟩, []))
    (runs : Runs (hears cfg hmac timeoutMs) (procedure.dialogue next) (resting s issued) talk
      outcome b) :
    ∃ t, t.1.state = ⟨b.transport.world, b.served⟩ ∧
      match outcome with
      | (.ok value, next') => wanted value next' t
      | (.error error, next') => raised error next' t := by
  obtain ⟨final, runs, mirrors⟩ := runs_mirrored runs (atRest_mirrors rest issued)
  have simulated := ensures_lossy meets
    (represents_empty (device cfg hmac usbContext) (Station.fresh s.world) issued (next - 1))
  obtain ⟨_, d, delayed, ended⟩ := (Ensures.recorded simulated runs).1
  have same : d.state = ⟨b.transport.world, b.served⟩ := by
    rw [delayed.state]
    exact mirrors.station
  refine ⟨(d, [] ++ talk), same, ?_⟩
  obtain ⟨value | error, next'⟩ := outcome
  · exact ended
  · exact ended

/-- Frame rule over USB: what a call does not send it does not cause. -/
theorem framed (rest : AtRest s) {sends : Frame → Prop} {ε : Type} {raises : ε → Prop}
    {procedure : Procedure Frame Answer UInt8 ε α} (asks : procedure.Asks sends raises)
    {next : UInt8} {issued : Nat} {talk : Talk} {outcome : Except ε α × UInt8}
    (runs : Runs (hears cfg hmac timeoutMs) (procedure.dialogue next) (resting s issued) talk
      outcome b)
    (Inv : World → Prop) (initially : Inv s.world)
    (rested : ∀ t t' : Station, Inv t.world → t.Rests cfg hmac t' → Inv t'.world)
    (served : ∀ w exchange w', sends exchange.request → Inv w → FrameStep cfg hmac w exchange w' →
      Inv w') : Inv b.transport.world := by
  obtain ⟨final, runs, mirrors⟩ := runs_mirrored runs (atRest_mirrors rest issued)
  have start : Framed sends (fun t : Station => Inv t.world)
      (⟨.fresh s.world, [], [], issued⟩ : Link Station Frame Frame) := ⟨initially, by simp⟩
  have kept := start.runs (fun t t' holds => rested t t' holds)
    (fun t request response t' sent holds serves => by
      obtain ⟨env, w', _, step, rfl⟩ := serves
      exact served _ _ _ sent holds step) asks runs
  have holds := kept.state
  rw [mirrors.state] at holds
  exact holds

section Implementations
variable {σ ρ' ω' : Type} {call : ρ' → RuntimeMacroClient.Client ω'}
  {answers : σ → ρ' → ω' → σ → Prop}
  {Represents : σ → UInt8 → Delayed Station Frame × Talk → Prop}
  {Left : σ → Delayed Station Frame × Talk → Prop}

/-- What the calls of a program implement on a lossy link they implement over
USB. -/
theorem implemented (rest : AtRest s) {next : UInt8} {issued : Nat} {initial : σ}
    (implements : Implements (RuntimeMacroClient.delayedLink cfg hmac usbContext
      (fun _ _ => True) fun _ _ => True) call answers Represents Left)
    (represents : Represents initial next (⟨.fresh s.world, [], next - 1, false⟩, []))
    {program : Dialogue ρ' ω' α} {talk : List (Frame × Answer)}
    {outcome : Except ClientError α × UInt8}
    (runs : Runs (hears cfg hmac timeoutMs) ((program.carriedOut call).dialogue next)
      (resting s issued) talk outcome b) :
    ∃ t : Delayed Station Frame × Talk,
      t.1.state = ⟨b.transport.world, b.served⟩ ∧
      ((∃ error calls state, outcome.1 = .error error ∧
          Begun answers program initial calls state ∧ Left state t) ∨
        ∃ value calls state, outcome.1 = .ok value ∧
          Runs answers program initial calls value state ∧ Represents state outcome.2 t) := by
  obtain ⟨t, same, ended⟩ := ends rest (implements.meets program represents) runs
  refine ⟨t, same, ?_⟩
  obtain ⟨value | error, next'⟩ := outcome
  · obtain ⟨calls, state, begun, left⟩ := ended
    exact Or.inl ⟨_, calls, state, rfl, begun, left⟩
  · obtain ⟨calls, state, run, represents'⟩ := ended
    exact Or.inr ⟨_, calls, state, rfl, run, represents'⟩

end Implementations

/-- The protocol as it answers a client that nothing disturbs. -/
def protocolAnswer (cfg : Config) (hmac : Hmac) (env : Env) (w : World) (request : Frame) :
    Answer × World :=
  let (response, w') := Protocol.processFrame cfg hmac env usbContext request w
  (.ok response, w')

/-- An undisturbed transport lets a client have the conversation that it would
have with the protocol itself. -/
theorem converses (cfg : Config) (hmac : Hmac) (env : Env) (issued : Nat)
    (log : List (Moment World Exchange)) (rest : AtRest s) (bound : s.bound = true)
    (positive : 0 < timeoutMs) (dialogue : Dialogue Frame Answer α) :
    ∃ s' issued' log', Runs (hears cfg hmac timeoutMs) dialogue (settled s issued log)
        (dialogue.drive (protocolAnswer cfg hmac env) s.world).1
        (dialogue.drive (protocolAnswer cfg hmac env) s.world).2.1 (settled s' issued' log') ∧
      s'.world = (dialogue.drive (protocolAnswer cfg hmac env) s.world).2.2 := by
  induction dialogue generalizing s issued log with
  | done value => exact ⟨s, issued, log, .done value _, rfl⟩
  | ask request next ih =>
    obtain ⟨middle, exchanged, rest', bound', world⟩ :=
      bus_exchanges cfg hmac env request issued log rest bound positive
    obtain ⟨s', issued', log', runs, final⟩ := ih _ (issued + 1) _ rest' bound'
    rw [world] at runs final
    exact ⟨s', issued', log', .ask exchanged runs, final⟩

/-- The protocol as it answers a client when the first exchanges have these
fates and the others are answered. -/
abbrev stumblingAnswer (cfg : Config) (hmac : Hmac) (env : Env) :
    World × List Fate → Frame → Answer × (World × List Fate) :=
  stumbling (protocolAnswer cfg hmac env) .timeoutError

/-- The transport can lose any exchanges of a conversation. -/
theorem stumbles (cfg : Config) (hmac : Hmac) (env : Env) (fates : List Fate) (issued : Nat)
    (log : List (Moment World Exchange)) (rest : AtRest s) (bound : s.bound = true)
    (positive : 0 < timeoutMs) (dialogue : Dialogue Frame Answer α) :
    ∃ s' issued' log', Runs (hears cfg hmac timeoutMs) dialogue (settled s issued log)
        (dialogue.drive (stumblingAnswer cfg hmac env) (s.world, fates)).1
        (dialogue.drive (stumblingAnswer cfg hmac env) (s.world, fates)).2.1
        (settled s' issued' log') ∧
      s'.world = (dialogue.drive (stumblingAnswer cfg hmac env) (s.world, fates)).2.2.1 := by
  induction dialogue generalizing s issued log fates with
  | done value => exact ⟨s, issued, log, .done value _, rfl⟩
  | ask request next ih =>
    have answered : ∀ fates', stumblingAnswer cfg hmac env (s.world, fates) request =
        (.ok (Protocol.processFrame cfg hmac env usbContext request s.world).1,
          ((Protocol.processFrame cfg hmac env usbContext request s.world).2, fates')) →
        ∃ s' issued' log', Runs (hears cfg hmac timeoutMs) (.ask request next)
            (settled s issued log)
            (Dialogue.drive (stumblingAnswer cfg hmac env) (.ask request next) (s.world, fates)).1
            (Dialogue.drive (stumblingAnswer cfg hmac env) (.ask request next)
              (s.world, fates)).2.1
            (settled s' issued' log') ∧
          s'.world = (Dialogue.drive (stumblingAnswer cfg hmac env) (.ask request next)
            (s.world, fates)).2.2.1 := by
      intro fates' answer
      obtain ⟨middle, exchanged, rest', bound', world⟩ :=
        bus_exchanges cfg hmac env request issued log rest bound positive
      obtain ⟨s', issued', log', runs, final⟩ := ih _ fates' (issued + 1) _ rest' bound'
      rw [world] at runs final
      simp only [Dialogue.drive, answer]
      exact ⟨s', issued', log', .ask exchanged runs, final⟩
    match fates with
    | [] => exact answered [] rfl
    | .answered :: fates => exact answered fates rfl
    | .requestLost :: fates =>
      have exchanged := bus_loses_request cfg hmac request s issued log positive
      obtain ⟨s', issued', log', runs, final⟩ := ih _ fates (issued + 1) _ rest bound
      exact ⟨s', issued', log', .ask exchanged runs, final⟩
    | .answerLost :: fates =>
      obtain ⟨middle, exchanged, rest', bound', world⟩ :=
        bus_loses_answer cfg hmac env request issued log rest bound positive
      obtain ⟨s', issued', log', runs, final⟩ := ih _ fates (issued + 1) _ rest' bound'
      rw [world] at runs final
      exact ⟨s', issued', log', .ask exchanged runs, final⟩

/-- Whatever a program of the client says and hears over the USB transport, it
could have said and heard over the lossy link to the protocol, with the same
effect on the firmware, and no exchange on the way ends in anything but a frame
or a transport error. It can also have the conversation that it would have with
the protocol itself. -/
theorem usb_is_lossy_link (cfg : Config) (hmac : Hmac) (timeoutMs : Int) (s : Transport)
    (issued : Nat) (rest : AtRest s) (dialogue : Dialogue Frame Answer α) :
    (∀ talk value b, Runs (hears cfg hmac timeoutMs) dialogue (resting s issued) talk value b →
      (∃ link, Runs (lossy (device cfg hmac usbContext)).answers dialogue
        ⟨.fresh s.world, [], [], issued⟩ talk value link ∧
        link.state = ⟨b.transport.world, b.served⟩) ∧
      ∀ request outcome b', BusExchanged cfg hmac timeoutMs b request outcome b' →
        ∃ answer, outcome = outcomeOf answer) ∧
    (s.bound = true → 0 < timeoutMs → ∀ env, ∃ s' issued' log,
      Runs (hears cfg hmac timeoutMs) dialogue (resting s issued)
        (dialogue.drive (protocolAnswer cfg hmac env) s.world).1
        (dialogue.drive (protocolAnswer cfg hmac env) s.world).2.1 (settled s' issued' log) ∧
      s'.world = (dialogue.drive (protocolAnswer cfg hmac env) s.world).2.2) := by
  constructor
  · intro talk value b runs
    obtain ⟨link, onLink, mirrors⟩ := runs_mirrored runs (atRest_mirrors rest issued)
    refine ⟨⟨link, onLink, mirrors.station⟩, ?_⟩
    intro request outcome b' exchanged
    obtain ⟨answer, _, same, _⟩ := exchange_mirrored exchanged mirrors
    exact ⟨answer, same⟩
  · intro bound positive env
    exact converses cfg hmac env issued [] rest bound positive dialogue

/-- `list_slots` over the transport. -/
theorem usb_is_lossy_link_sample :
    ∃ s' issued' log, Runs (hears .default AuthCore.sampleHmac 1000)
      ((RuntimeMacroClient.listSlots 2).dialogue 0) (resting connected 0)
      (((RuntimeMacroClient.listSlots 2).dialogue 0).drive
        (protocolAnswer .default AuthCore.sampleHmac (.still 0)) connected.world).1
      (((RuntimeMacroClient.listSlots 2).dialogue 0).drive
        (protocolAnswer .default AuthCore.sampleHmac (.still 0)) connected.world).2.1
      (settled s' issued' log) ∧
      s'.world = (((RuntimeMacroClient.listSlots 2).dialogue 0).drive
        (protocolAnswer .default AuthCore.sampleHmac (.still 0)) connected.world).2.2 :=
  (usb_is_lossy_link .default AuthCore.sampleHmac 1000 connected 0 connected_atRest
    ((RuntimeMacroClient.listSlots 2).dialogue 0)).2 rfl (by decide) (.still 0)

end RuntimeMacro.Guarantees.UsbLink
