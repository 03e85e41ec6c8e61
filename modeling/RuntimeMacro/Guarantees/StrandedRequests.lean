import RuntimeMacro.Guarantees.ResponseBuffer

/-!
# No queued request is left behind

runtime_macro_usb_hid.c:329-408. A request of the current connection that waits
while the IN permit is free is waiting for the work item, which is pending. A
request that the handler gives up, because there is no device or the write
fails, breaks this for the requests behind it: those paths free the permit
without submitting the work again.
-/
namespace RuntimeMacro.Guarantees.StrandedRequests
open Source Source.UsbHid Foundations.Runs
open AuthCore (Hmac)

variable {cfg : Config} {hmac : Hmac} {settings : Settings} {s s' : Transport} {event : Event}
  {moments : List (Moment Transport Event)} {caller : Caller}

/-- A request of the current generation is in the queue. -/
def Waits (s : Transport) : Prop := ∃ request ∈ s.queue, request.generation = s.generation

/-- The work is pending, or a callback is on its way to submit it. -/
def Attended (s : Transport) : Prop :=
  s.workPending = true ∨ (∃ caller, s.reports caller = .queued) ∨
    ∃ caller, s.readies caller ≠ .idle

/-- No handler, callback or reset is in the middle of its run. -/
structure Quiescent (s : Transport) : Prop where
  handler : s.handler = .idle
  reports : ∀ caller, s.reports caller = .idle
  readies : ∀ caller, s.readies caller = .idle
  reset : s.reset = none

/-- In a quiescent state a waiting request has the work pending, if it can be
served at all. -/
def Served (s : Transport) : Prop :=
  Quiescent s → s.online = true → s.bound = true → s.inSem ≠ 0 → Waits s → s.workPending = true

/-- `k_work_submit` succeeds. -/
def Submits : Event → Prop
  | .report _ (.submit err) | .ready _ (.submit err) | .handler (.submit err) => 0 ≤ err
  | _ => True

/-- The handler gives its request up: there is no device, or the write
fails. -/
def givesUp : Event → Bool
  | .handler .checkDevice => true
  | .handler (.write err) => err != 0
  | _ => false

/-- The handler gives a request up only while no other waits or the others are
attended to, and no reset moves the generation to one that a callback still
carries past its online check. -/
structure Careful (s : Transport) (event : Event) : Prop where
  attended : givesUp event = true → Waits s → Attended s
  unwrapped : event = .reset .advance →
    ∀ caller frame, s.reports caller ≠ .checked frame (s.generation + 1)

/-! ## What attends to the queue -/

theorem Attended.of_kept (attended : Attended s)
    (pending : s.workPending = true → s'.workPending = true)
    (reports : ∀ caller, s.reports caller = .queued → s'.reports caller = .queued)
    (readies : ∀ caller, s.readies caller ≠ .idle → s'.readies caller ≠ .idle) : Attended s' := by
  rcases attended with submitted | ⟨caller, queued⟩ | ⟨caller, busy⟩
  · exact Or.inl (pending submitted)
  · exact Or.inr (Or.inl ⟨caller, reports caller queued⟩)
  · exact Or.inr (Or.inr ⟨caller, readies caller busy⟩)

theorem reporting_queued {phase : ReportPhase} (before : s.reports caller ≠ .queued)
    (other : Caller) (queued : s.reports other = .queued) :
    (s.reporting caller phase).reports other = .queued := by
  by_cases same : other = caller
  · subst same
    exact absurd queued before
  · rw [Transport.reporting_reports_of_ne same]
    exact queued

theorem readying_busy {phase : ReadyPhase} (after : phase ≠ .idle) (other : Caller)
    (busy : s.readies other ≠ .idle) : (s.readying caller phase).readies other ≠ .idle := by
  by_cases same : other = caller
  · subst same
    simpa [Transport.readying] using after
  · simpa [Transport.readying, same] using busy

theorem submit_pending {err : Int} (success : 0 ≤ err) (s : Transport) :
    (s.submit err).workPending = true := by
  simp [Transport.submit, success]

/-- Online, nothing but the start of a handler run ends the attention. A
callback that is done has submitted the work. -/
theorem Attended.step (attended : Attended s) (step : Step cfg hmac s event s')
    (submits : Submits event) (up : s.online = true) (other : event ≠ .handler .take) :
    Attended s' := by
  cases step with
  | @report owner _ _ step =>
    cases step with
    | refuse => exact attended
    | sample phase | offline phase | online phase | unqueued phase | queued phase =>
      have free : s.reports owner ≠ .queued := by
        rw [phase]
        simp
      exact attended.of_kept id (reporting_queued free) fun _ => id
    | submit => exact Or.inl (submit_pending submits s)
  | ready step =>
    cases step with
    | late => exact attended
    | complete | give | online =>
      exact attended.of_kept id (fun _ => id) (readying_busy (by decide))
    | offline _ down => exact absurd (up.symm.trans down) (by decide)
    | submit => exact Or.inl (submit_pending submits s)
  | handler step =>
    cases step with
    | busy | take => exact absurd rfl other
    | submit => exact Or.inl (submit_pending submits s)
    | _ => exact attended.of_kept id (fun _ => id) fun _ => id
  | reset step => cases step <;> exact attended.of_kept id (fun _ => id) fun _ => id
  | outside | bind => exact attended.of_kept id (fun _ => id) fun _ => id

/-- A request begins to wait when a callback queues it, unless the generation
moves. Its stamp is the generation then. -/
theorem waits_of_step (step : Step cfg hmac s event s') (unmoved : event.isAdvance = false)
    (waits : Waits s') :
    Waits s ∨ ∃ caller frame, s.reports caller = .checked frame s.generation ∧
      s'.reports caller = .queued := by
  cases step with
  | @report owner _ _ step =>
    cases step with
    | @queued frame generation phase room =>
      obtain ⟨request, member, same⟩ := waits
      rcases List.mem_append.mp member with before | last
      · exact Or.inl ⟨request, before, same⟩
      · rw [List.mem_singleton.mp last] at same
        have current : generation = s.generation := same
        subst current
        exact Or.inr ⟨owner, frame, phase, by simp⟩
    | _ => exact Or.inl waits
  | ready step => cases step <;> exact Or.inl waits
  | handler step =>
    cases step with
    | purge =>
      obtain ⟨_, member, _⟩ := waits
      cases member
    | get _ first =>
      obtain ⟨request, member, same⟩ := waits
      refine Or.inl ⟨request, ?_, same⟩
      rw [first]
      exact List.mem_cons_of_mem _ member
    | _ => exact Or.inl waits
  | reset step =>
    cases step with
    | advance => cases unmoved
    | purge =>
      obtain ⟨_, member, _⟩ := waits
      cases member
    | _ => exact Or.inl waits
  | outside | bind => exact Or.inl waits

/-! ## The invariant -/

/-- The connection is up, or a reset has just taken it down and not yet moved
the generation. -/
def Connected (s : Transport) : Prop :=
  s.online = true ∨ ∃ reset, s.reset = some reset ∧ reset.point = .offline

/-- A reset has moved the generation and has the queue still to purge. -/
def Purging (s : Transport) : Prop :=
  ∃ reset, s.reset = some reset ∧
    (reset.point = .advanced ∨ reset.point = .authReset ∨ reset.point = .discarded)

/-- The handler is on its way to the queue, or to submit the work again. -/
def looks : HandlerPhase → Bool
  | .permitted | .entered | .sampled _ | .offline | .online _ => true
  | .releasing resubmit | .unlocking resubmit => resubmit
  | .resubmitting => true
  | _ => false

/-- The handler is about to give the permit back and be done. -/
def yields : HandlerPhase → Bool
  | .withdrawing => true
  | .releasing resubmit => !resubmit
  | _ => false

/-- Somebody will see to the queue: a callback, the handler, or whoever gives
the permit back. -/
def Owed (s : Transport) : Prop :=
  Attended s ∨ looks s.handler = true ∨ (s.inSem = 0 ∧ yields s.handler = false)

/-- The invariant of the transport: the semaphore is binary, a reset under way
keeps the endpoint offline, a queued request is connected or about to be
purged, and what waits online is owed a turn. -/
structure Sound (s : Transport) : Prop where
  permits : s.inSem ≤ 1
  down : ∀ reset, s.reset = some reset → 1 ≤ reset.point.rank → reset.point.rank ≤ 10 →
    s.online = false
  checked : ∀ caller frame, s.reports caller = .checked frame s.generation → Connected s
  queued : Waits s → Connected s ∨ Purging s
  held : s.online = true → s.handler.holds = true → s.inSem ≠ 0 → Waits s → Attended s
  owed : s.online = true → Waits s → Owed s

theorem Sound.boot : Sound (.boot cfg settings) := by
  have empty : ¬ Waits (.boot cfg settings) := by
    rintro ⟨_, member, _⟩
    cases member
  constructor
  · exact Nat.le_refl 1
  · intro reset held
    cases held
  · intro caller frame phase
    cases phase
  · exact fun waits => absurd waits empty
  · exact fun _ _ _ waits => absurd waits empty
  · exact fun _ waits => absurd waits empty

theorem giveIn_le (s : Transport) : s.giveIn.inSem ≤ 1 := Nat.le_of_eq (giveIn_inSem s)

/-- `k_sem_give` stops at the limit of the semaphore, so there are never two
permits. -/
theorem step_permits (permits : s.inSem ≤ 1) (step : Step cfg hmac s event s') : s'.inSem ≤ 1 := by
  cases step with
  | report step => cases step <;> exact permits
  | ready step =>
    cases step with
    | give => exact giveIn_le s
    | _ => exact permits
  | handler step =>
    cases step with
    | give => exact giveIn_le s
    | take => exact Nat.le_trans (Nat.sub_le _ _) permits
    | _ => exact permits
  | reset step =>
    cases step with
    | give => exact giveIn_le s
    | empty => exact Nat.zero_le 1
    | _ => exact permits
  | outside | bind => exact permits

/-- A reset takes the transport offline first and online last. -/
theorem step_down (down : ∀ reset, s.reset = some reset → 1 ≤ reset.point.rank →
      reset.point.rank ≤ 10 → s.online = false) (step : Step cfg hmac s event s') :
    ∀ reset, s'.reset = some reset → 1 ≤ reset.point.rank → reset.point.rank ≤ 10 →
      s'.online = false := by
  cases step with
  | report step => cases step <;> exact down
  | ready step => cases step <;> exact down
  | handler step => cases step <;> exact down
  | outside | bind => exact down
  | reset step =>
    cases step with
    | lock =>
      intro reset held low
      cases held
      simp [ResetPoint.rank] at low
    | setOffline => exact fun _ _ _ _ => rfl
    | publish =>
      intro reset held _ high
      cases held
      simp [Reset.goes, ResetPoint.rank] at high
    | unlock =>
      intro reset held
      cases held
    | advance held point | authReset held point | discard held point | purge held point
    | readStatus held point | unflag held point | empty held point | give held point
    | keep held point | clear held point =>
      intro _ _ _ _
      apply down _ held
      · rw [point]
        simp [ResetPoint.rank]
      · rw [point]
        simp [ResetPoint.rank]

/-- A connection ends when a reset moves the generation, and in no other
step. -/
theorem step_connected (connected : Connected s) (unmoved : event.isAdvance = false)
    (step : Step cfg hmac s event s') : Connected s' := by
  rcases connected with up | ⟨reset, held, point⟩
  · cases step with
    | report step => cases step <;> exact Or.inl up
    | ready step => cases step <;> exact Or.inl up
    | handler step => cases step <;> exact Or.inl up
    | outside | bind => exact Or.inl up
    | reset step =>
      cases step with
      | setOffline => exact Or.inr ⟨_, rfl, rfl⟩
      | publish =>
        apply Or.inl
        simp [Transport.resetting, up]
      | _ => exact Or.inl up
  · have kept : s'.reset = s.reset → Connected s' := fun same =>
      Or.inr ⟨reset, same.trans held, point⟩
    cases step with
    | report step => cases step <;> exact kept rfl
    | ready step => cases step <;> exact kept rfl
    | handler step => cases step <;> exact kept rfl
    | outside | bind => exact kept rfl
    | reset step =>
      cases step with
      | lock free =>
        rw [free.1] at held
        cases held
      | advance => cases unmoved
      | setOffline held' point' | authReset held' point' | discard held' point'
      | purge held' point' | readStatus held' point' | unflag held' point' | empty held' point'
      | give held' point' | keep held' point' | clear held' point' | publish held' point'
      | unlock held' point' =>
        rw [held, Option.some.injEq] at held'
        subst held'
        cases point.symm.trans point'

theorem step_checked (sound : Sound s) (careful : Careful s event)
    (step : Step cfg hmac s event s') (frame : Frame)
    (phase : s'.reports caller = .checked frame s'.generation) : Connected s' := by
  have generation := step_generation step
  by_cases moves : event.isAdvance = true
  · -- The callback would carry the new generation from before the reset.
    cases event with
    | reset event =>
      cases event with
      | advance =>
        rw [step_reports_of_ne step (by simp [Event.reporter]), generation] at phase
        exact absurd phase (careful.unwrapped rfl caller frame)
      | _ => cases moves
    | _ => cases moves
  · rw [Bool.not_eq_true] at moves
    rw [moves] at generation
    by_cases acting : event.reporter = some caller
    · cases step with
      | @report owner _ _ step =>
        cases acting
        cases step with
        | refuse => exact sound.checked caller frame phase
        | online _ up => exact Or.inl up
        | sample | offline | unqueued | queued | submit =>
          simp at phase
      | _ => cases acting
    · rw [step_reports_of_ne step acting, generation] at phase
      exact step_connected (sound.checked caller frame phase) moves step

theorem step_queued (sound : Sound s) (step : Step cfg hmac s event s') (waits : Waits s') :
    Connected s' ∨ Purging s' := by
  by_cases moves : event.isAdvance = true
  · cases step with
    | reset step =>
      cases step with
      | advance => exact Or.inr ⟨_, rfl, Or.inl rfl⟩
      | _ => cases moves
    | _ => cases moves
  · rw [Bool.not_eq_true] at moves
    rcases waits_of_step step moves waits with before | ⟨caller, frame, phase, _⟩
    · rcases sound.queued before with connected | ⟨reset, held, points⟩
      · exact Or.inl (step_connected connected moves step)
      · have kept : s'.reset = s.reset → Connected s' ∨ Purging s' := fun same =>
          Or.inr ⟨reset, same.trans held, points⟩
        cases step with
        | report step => cases step <;> exact kept rfl
        | ready step => cases step <;> exact kept rfl
        | handler step => cases step <;> exact kept rfl
        | outside | bind => exact kept rfl
        | reset step =>
          cases step with
          | lock free =>
            rw [free.1] at held
            cases held
          | advance => cases moves
          | purge =>
            obtain ⟨_, member, _⟩ := waits
            cases member
          | authReset => exact Or.inr ⟨_, rfl, Or.inr (Or.inl rfl)⟩
          | discard => exact Or.inr ⟨_, rfl, Or.inr (Or.inr rfl)⟩
          | setOffline held' point | readStatus held' point | unflag held' point
          | empty held' point | give held' point | keep held' point | clear held' point
          | publish held' point | unlock held' point =>
            rw [held, Option.some.injEq] at held'
            subst held'
            rw [point] at points
            simp at points
    · exact Or.inl (step_connected (sound.checked caller frame phase) moves step)

/-- A request that waits online waited online before, or its callback has yet
to submit. -/
theorem step_waits (sound : Sound s) (step : Step cfg hmac s event s') (up : s'.online = true)
    (waits : Waits s') : s.online = true ∧ (Waits s ∨ Attended s') := by
  by_cases moves : event.isAdvance = true
  · cases step with
    | reset step =>
      cases step with
      | advance held point =>
        have down := sound.down _ held (by rw [point]; decide) (by rw [point]; decide)
        exact absurd (down.symm.trans up) (by decide)
      | _ => cases moves
    | _ => cases moves
  · rw [Bool.not_eq_true] at moves
    have before : Waits s ∨ Attended s' := by
      rcases waits_of_step step moves waits with before | ⟨caller, _, _, queued⟩
      · exact Or.inl before
      · exact Or.inr (Or.inr (Or.inl ⟨caller, queued⟩))
    refine ⟨?_, before⟩
    cases step with
    | report step => cases step <;> exact up
    | ready step => cases step <;> exact up
    | handler step => cases step <;> exact up
    | outside | bind => exact up
    | reset step =>
      cases step with
      | setOffline => cases up
      | publish held point =>
        -- Nothing has been queued between the purge and the publication.
        rcases sound.queued waits with connected | ⟨reset, held', points⟩
        · rcases connected with online | ⟨reset, held', offline⟩
          · exact online
          · rw [held, Option.some.injEq] at held'
            subst held'
            cases point.symm.trans offline
        · rw [held, Option.some.injEq] at held'
          subst held'
          rw [point] at points
          simp at points
      | _ => exact up

/-- While a reset gives the permit back the transport is offline. -/
theorem offline_of_give (sound : Sound s) (step : ResetStep cfg s .give s') : s.online = false := by
  cases step with
  | give held point =>
    apply sound.down _ held
    · rw [point]
      simp [ResetPoint.rank]
    · rw [point]
      simp [ResetPoint.rank]

/-- The handler takes hold of the permit at the start of its run only. -/
theorem step_holds (guarded : Guarded s) (step : Step cfg hmac s event s')
    (other : event ≠ .handler .take)
    (holds : s'.handler.holds = true) : s.handler.holds = true := by
  cases step with
  | report step => cases step <;> exact holds
  | ready step => cases step <;> exact holds
  | reset step => cases step <;> exact holds
  | outside | bind => exact holds
  | handler step =>
    cases step with
    | busy | take => exact absurd rfl other
    | unlock =>
      dsimp only [Transport.handling] at holds
      split at holds
      · cases holds
      · cases holds
    | written | sent | give | submit => cases holds
    | lock here | sampleGeneration here | offline here | online here | purge here | empty here
    | get here | stale here | current here | unbound here | process here | mark here
    | unwritten here | withdraw here =>
      rw [here]
      rfl
    | moved here moved => exact absurd (guarded.stamp _ (by rw [here]; rfl)) moved

theorem step_held (sound : Sound s) (guarded : Guarded s) (submits : Submits event)
    (step : Step cfg hmac s event s') (up : s'.online = true)
    (holds : s'.handler.holds = true) (free : s'.inSem ≠ 0) (waits : Waits s') :
    Attended s' := by
  obtain ⟨online, before | attended⟩ := step_waits sound step up waits
  · by_cases starts : event = .handler .take
    · subst starts
      cases step with
      | handler step =>
        cases step with
        | busy idle =>
          rw [show s.handler = .idle from idle] at holds
          cases holds
        | take =>
          have permits := sound.permits
          change s.inSem - 1 ≠ 0 at free
          omega
    · have holding := step_holds guarded step starts holds
      by_cases taken : s.inSem = 0
      · -- The permit came back in this step.
        cases step with
        | report step => cases step <;> exact absurd taken free
        | outside | bind => exact absurd taken free
        | @ready owner _ _ step =>
          cases step with
          | give => exact Or.inr (Or.inr ⟨owner, by simp [Transport.readying]⟩)
          | _ => exact absurd taken free
        | handler step =>
          cases step with
          | give => cases holds
          | take => exact absurd rfl starts
          | _ => exact absurd taken free
        | reset step =>
          cases step with
          | give held point =>
            have given : ResetStep cfg s .give _ := .give held point
            have down := offline_of_give sound given
            exact absurd (down.symm.trans online) (by decide)
          | empty => exact absurd rfl free
          | _ => exact absurd taken free
      · exact (sound.held online holding taken before).step step submits online starts
  · exact attended

theorem step_owed (sound : Sound s) (guarded : Guarded s) (submits : Submits event)
    (careful : Careful s event) (step : Step cfg hmac s event s') (up : s'.online = true)
    (waits : Waits s') : Owed s' := by
  obtain ⟨online, before | attended⟩ := step_waits sound step up waits
  · have attends : event ≠ .handler .take → Attended s → Owed s' := fun starts attended =>
      Or.inl (attended.step step submits online starts)
    have stays : event ≠ .handler .take → looks s'.handler = looks s.handler →
        yields s'.handler = yields s.handler → (s.inSem = 0 → s'.inSem = 0) → Owed s' := by
      intro starts same done permit
      rcases sound.owed online before with attended | looking | ⟨taken, keeps⟩
      · exact attends starts attended
      · exact Or.inr (Or.inl (same.trans looking))
      · exact Or.inr (Or.inr ⟨permit taken, done.trans keeps⟩)
    cases step with
    | report step => cases step <;> exact stays (by simp) rfl rfl id
    | outside | bind => exact stays (by simp) rfl rfl id
    | @ready owner _ _ step =>
      cases step with
      | give => exact Or.inl (Or.inr (Or.inr ⟨owner, by simp [Transport.readying]⟩))
      | _ => exact stays (by simp) rfl rfl id
    | reset step =>
      cases step with
      | give held point =>
        have given : ResetStep cfg s .give _ := .give held point
        have down := offline_of_give sound given
        exact absurd (down.symm.trans online) (by decide)
      | empty => exact stays (by simp) rfl rfl fun _ => rfl
      | _ => exact stays (by simp) rfl rfl id
    | handler step =>
      cases step with
      | busy idle pending taken => exact Or.inr (Or.inr ⟨taken, by rw [idle]; rfl⟩)
      | take | lock | sampleGeneration | offline | online | stale => exact Or.inr (Or.inl rfl)
      | purge =>
        obtain ⟨_, member, _⟩ := waits
        cases member
      | empty _ drained =>
        obtain ⟨_, member, _⟩ := before
        rw [drained] at member
        cases member
      | get here =>
        by_cases taken : s.inSem = 0
        · exact Or.inr (Or.inr ⟨taken, rfl⟩)
        · exact attends (by simp) (sound.held online (by rw [here]; rfl) taken before)
      | unbound => exact attends (by simp) (careful.attended rfl before)
      | unwritten _ failed =>
        exact attends (by simp) (careful.attended (by simpa [givesUp] using failed) before)
      | moved here moved => exact absurd (guarded.stamp _ (by rw [here]; rfl)) moved
      | current here | process here | mark here | written here | sent here | withdraw here =>
        exact stays (by simp) (by rw [here]; rfl) (by rw [here]; rfl) id
      | @give resubmit here =>
        cases resubmit with
        | true => exact Or.inr (Or.inl rfl)
        | false =>
          rcases sound.owed online before with attended | looking | ⟨_, keeps⟩
          · exact attends (by simp) attended
          · rw [here] at looking
            cases looking
          · rw [here] at keeps
            cases keeps
      | @unlock resubmit here =>
        cases resubmit with
        | true => exact Or.inr (Or.inl rfl)
        | false => exact stays (by simp) (by rw [here]; rfl) (by rw [here]; rfl) id
      | submit => exact Or.inl (Or.inl (submit_pending submits s))
  · exact Or.inl attended

theorem Sound.step (sound : Sound s) (guarded : Guarded s) (submits : Submits event)
    (careful : Careful s event) (step : Step cfg hmac s event s') : Sound s' := by
  constructor
  · exact step_permits sound.permits step
  · exact step_down sound.down step
  · exact fun caller frame => step_checked sound careful step frame
  · exact step_queued sound step
  · exact step_held sound guarded submits step
  · exact step_owed sound guarded submits careful step

/-! ## Runs -/

theorem Sound.served (sound : Sound s) : Served s := by
  intro quiescent online _ free waits
  rcases sound.owed online waits with attended | looking | ⟨taken, _⟩
  · rcases attended with pending | ⟨caller, queued⟩ | ⟨caller, busy⟩
    · exact pending
    · cases queued.symm.trans (quiescent.reports caller)
    · exact absurd (quiescent.readies caller) busy
  · rw [quiescent.handler] at looking
    cases looking
  · exact absurd taken free

/-- In a run whose steps are all careful and whose submissions all succeed, a
request that waits in a quiescent state while it could be served has the work
pending. -/
theorem requests_served (run : Run (Traced (Step cfg hmac)) (.boot cfg settings) moments s)
    (submits : ∀ moment ∈ moments, Submits moment.event)
    (careful : ∀ moment ∈ moments, Careful moment.before moment.event) : Served s := by
  have sound : Sound s := by
    apply run.history_of (fun _ s => Sound s)
      (fun past => (∀ moment ∈ past, Submits moment.event) ∧
        ∀ moment ∈ past, Careful moment.before moment.event) ⟨submits, careful⟩
    · intro past moment both
      exact ⟨fun earlier member => both.1 earlier (List.mem_append_left _ member),
        fun earlier member => both.2 earlier (List.mem_append_left _ member)⟩
    · exact Sound.boot
    · intro past before moment after both earlier sound taken
      obtain ⟨rfl, rfl, step⟩ := taken
      exact sound.step (run_sound earlier.untraced).1 (both.1 moment (by simp))
        (both.2 moment (by simp)) step
  exact sound.served

/-! ## A write that fails -/

open ResponseBuffer (reportEvents fetchEvents processEvent sampleReport sampleWorld)

/-- The write of the response fails, and the handler run ends. -/
def failureEvents : List Event :=
  [.handler .mark, .handler (.write (-5)), .handler .withdraw, .handler .give, .handler .unlock]

/-- Two frames are queued before the handler runs. -/
def strandingEvents : List Event :=
  .bind :: (reportEvents ++ (reportEvents ++ .handler .take :: (fetchEvents ++
    processEvent sampleWorld :: failureEvents)))

/-- Two frames are queued before the device is known, and the handler drops the
first. -/
def missingEvents : List Event :=
  reportEvents ++ (reportEvents ++ .handler .take :: (fetchEvents ++
    [.handler .checkDevice, .handler .give, .handler .unlock, .bind]))

/-- The second of two frames waits while the device is bound, the permit is
free and nothing is pending, after the write for the first has failed and after
the first was dropped for want of a device. -/
theorem second_frame_stranded :
    (∃ s, Run (Step .default AuthCore.sampleHmac) (.boot .default .empty) strandingEvents s ∧
      (∀ event ∈ strandingEvents, Submits event) ∧ ¬ Served s) ∧
    ∃ s, Run (Step .default AuthCore.sampleHmac) (.boot .default .empty) missingEvents s ∧
      (∀ event ∈ missingEvents, Submits event) ∧ ¬ Served s := by
  constructor
  · refine ⟨_, .cons .bind <|
      .cons (.report (.sample rfl rfl)) <| .cons (.report (.online rfl rfl)) <|
      .cons (.report (.queued rfl (by decide))) <| .cons (.report (.submit rfl)) <|
      .cons (.report (.sample rfl rfl)) <| .cons (.report (.online rfl rfl)) <|
      .cons (.report (.queued rfl (by decide))) <| .cons (.report (.submit rfl)) <|
      .cons (.handler (.take rfl rfl (by decide))) <|
      .cons (.handler (.lock rfl rfl)) <| .cons (.handler (.sampleGeneration rfl)) <|
      .cons (.handler (.online rfl rfl)) <| .cons (.handler (.get rfl rfl)) <|
      .cons (.handler (.current rfl rfl)) <| .cons (.handler (.process rfl rfl rfl rfl rfl)) <|
      .cons (.handler (.mark rfl)) <| .cons (.handler (.unwritten rfl (by decide))) <|
      .cons (.handler (.withdraw rfl)) <| .cons (.handler (.give rfl)) <|
      .cons (.handler (.unlock rfl)) <| .nil _, ?_, ?_⟩
    · simp [strandingEvents, reportEvents, fetchEvents, processEvent, failureEvents, Submits]
    · intro served
      have pending := served ⟨rfl, fun caller => by simp [Transport.reporting, Transport.handling,
        Transport.giveIn, Transport.submit, Transport.put, Transport.boot], fun _ => rfl, rfl⟩
        rfl rfl (by decide) ⟨_, List.mem_cons_self, rfl⟩
      cases pending
  · refine ⟨_,
      .cons (.report (.sample rfl rfl)) <| .cons (.report (.online rfl rfl)) <|
      .cons (.report (.queued rfl (by decide))) <| .cons (.report (.submit rfl)) <|
      .cons (.report (.sample rfl rfl)) <| .cons (.report (.online rfl rfl)) <|
      .cons (.report (.queued rfl (by decide))) <| .cons (.report (.submit rfl)) <|
      .cons (.handler (.take rfl rfl (by decide))) <|
      .cons (.handler (.lock rfl rfl)) <| .cons (.handler (.sampleGeneration rfl)) <|
      .cons (.handler (.online rfl rfl)) <| .cons (.handler (.get rfl rfl)) <|
      .cons (.handler (.current rfl rfl)) <| .cons (.handler (.unbound rfl rfl)) <|
      .cons (.handler (.give rfl)) <| .cons (.handler (.unlock rfl)) <|
      .cons .bind <| .nil _, ?_, ?_⟩
    · simp [missingEvents, reportEvents, fetchEvents, Submits]
    · intro served
      have pending := served ⟨rfl, fun caller => by simp [Transport.reporting, Transport.handling,
        Transport.giveIn, Transport.submit, Transport.put, Transport.boot], fun _ => rfl, rfl⟩
        rfl rfl (by decide) ⟨_, List.mem_cons_self, rfl⟩
      cases pending

/-- The write for the only frame fails, and another frame is queued
afterwards. -/
def recoveredFront : List Event :=
  .bind :: (reportEvents ++ .handler .take :: (fetchEvents ++
    [processEvent sampleWorld, .handler .mark]))

/-- The write fails, the permit comes back, and the next report is served. -/
def recoveredBack : List Event :=
  [.handler .withdraw, .handler .give, .handler .unlock] ++ reportEvents

theorem recovered_run : ∃ before after s,
    Run (Step .default AuthCore.sampleHmac) (.boot .default .empty) recoveredFront before ∧
      Step .default AuthCore.sampleHmac before (.handler (.write (-5))) after ∧
      Run (Step .default AuthCore.sampleHmac) after recoveredBack s ∧ ¬ Waits before ∧
      Quiescent s ∧ s.online = true ∧ s.bound = true ∧ s.inSem ≠ 0 ∧ Waits s := by
  refine ⟨_, _, _, .cons .bind <|
    .cons (.report (.sample rfl rfl)) <| .cons (.report (.online rfl rfl)) <|
    .cons (.report (.queued rfl (by decide))) <| .cons (.report (.submit rfl)) <|
    .cons (.handler (.take rfl rfl (by decide))) <|
    .cons (.handler (.lock rfl rfl)) <| .cons (.handler (.sampleGeneration rfl)) <|
    .cons (.handler (.online rfl rfl)) <| .cons (.handler (.get rfl rfl)) <|
    .cons (.handler (.current rfl rfl)) <| .cons (.handler (.process rfl rfl rfl rfl rfl)) <|
    .cons (.handler (.mark rfl)) <| .nil _, .handler (.unwritten rfl (by decide)),
    .cons (.handler (.withdraw rfl)) <| .cons (.handler (.give rfl)) <|
    .cons (.handler (.unlock rfl)) <|
    .cons (.report (.sample rfl rfl)) <| .cons (.report (.online rfl rfl)) <|
    .cons (.report (.queued rfl (by decide))) <| .cons (.report (.submit rfl)) <| .nil _,
    ?_, ⟨rfl, fun caller => ?_, fun _ => rfl, rfl⟩, rfl, rfl, by decide,
    ⟨_, List.mem_cons_self, rfl⟩⟩
  · rintro ⟨_, member, _⟩
    cases member
  · simp [Transport.reporting, Transport.handling, Transport.giveIn, Transport.submit,
      Transport.put, Transport.boot]

/-- The write for the only frame fails with no other request waiting, so the
step is careful, and the next report wakes the handler. -/
theorem requests_served_sample : ∃ moments s,
    Run (Traced (Step .default AuthCore.sampleHmac)) (.boot .default .empty) moments s ∧
      moments.map Moment.event = recoveredFront ++ .handler (.write (-5)) :: recoveredBack ∧
      Waits s ∧ s.workPending = true := by
  obtain ⟨before, after, s, front, failing, back, alone, quiescent, online, bound, free, waits⟩ :=
    recovered_run
  obtain ⟨early, earlyEvents, first⟩ := front.traced
  obtain ⟨late, lateEvents, last⟩ := back.traced
  have middle : Traced (Step .default AuthCore.sampleHmac) before
      ⟨before, .handler (.write (-5)), after⟩ after := ⟨rfl, rfl, failing⟩
  have traced := first.append (Run.cons middle last)
  have quiet : ∀ {moments : List (Moment Transport Event)} {events : List Event},
      moments.map Moment.event = events → (∀ event ∈ events, givesUp event = false ∧
        event ≠ .reset .advance ∧ Submits event) →
      ∀ moment ∈ moments, Submits moment.event ∧ Careful moment.before moment.event := by
    rintro moments events rfl silent moment member
    obtain ⟨keeps, still, submits⟩ := silent _ (List.mem_map_of_mem member)
    exact ⟨submits, fun gives => absurd (keeps.symm.trans gives) (by decide),
      fun moves => absurd moves still⟩
  have frontQuiet := quiet earlyEvents (by
    simp [recoveredFront, reportEvents, fetchEvents, processEvent, Submits, givesUp])
  have backQuiet := quiet lateEvents (by
    simp [recoveredBack, reportEvents, Submits, givesUp])
  have here : Submits (.handler (.write (-5))) ∧ Careful before (.handler (.write (-5))) :=
    ⟨trivial, fun _ waiting => absurd waiting alone, fun moves => (by cases moves)⟩
  have all : ∀ moment ∈ early ++ ⟨before, .handler (.write (-5)), after⟩ :: late,
      Submits moment.event ∧ Careful moment.before moment.event := by
    intro moment member
    rcases List.mem_append.mp member with earlier | later
    · exact frontQuiet moment earlier
    · rcases List.mem_cons.mp later with rfl | later
      · exact here
      · exact backQuiet moment later
  refine ⟨_, s, traced, by simp [earlyEvents, lateEvents], waits, ?_⟩
  exact requests_served traced (fun moment member => (all moment member).1)
    (fun moment member => (all moment member).2) quiescent online bound free waits

end RuntimeMacro.Guarantees.StrandedRequests
