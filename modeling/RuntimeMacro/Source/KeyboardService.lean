import RuntimeMacro.Source.KeyboardRuns
import RuntimeMacro.Source.UsbService

/-!
# An undisturbed request at the keyboard

runtime_macro_usb_hid.c:236-408. What the transport does while it serves a
request (`UsbService`) is a run of the keyboard, and the request is the only
frame of it that reaches the protocol.
-/
namespace RuntimeMacro.Source
open Foundations.Runs
open AuthCore (Hmac)
open UsbHid (Transport Bus AtRest usbContext)

variable {cfg : Config} {hmac : Hmac} {s : Transport}

/-- The bus has served the frame of the step, if there is one. -/
theorem follow_served (event : UsbHid.Event) (after : Transport) (b : Bus) :
    (b.follow event after).served.map Moment.event =
      b.served.map Moment.event ++ (frameOf ⟨b.transport, .usb event, after⟩).toList := by
  have unserved : ∀ {b' : Bus}, b'.served = b.served →
      b'.served.map Moment.event = b.served.map Moment.event ++ [] := by
    intro b' same
    rw [same, List.append_nil]
  cases event with
  | report caller call => cases call <;> exact unserved rfl
  | ready caller call => cases call <;> exact unserved rfl
  | handler call =>
    cases call with
    | process exchange => simp [UsbHid.Bus.follow, frameOf]
    | write err =>
      apply unserved
      simp only [UsbHid.Bus.follow]
      split <;> rfl
    | _ => exact unserved rfl
  | reset | outside | bind => exact unserved rfl

/-- While the transport serves a request, so does the keyboard. -/
theorem service_run {b b' : Bus}
    (serves : Relation.ReflTransGen (UsbHid.ServiceStep cfg hmac) b b') :
    ∃ moments, Run (Traced (KeyboardStep cfg hmac)) b.transport moments b'.transport ∧
      (∀ moment ∈ moments, ∃ event, moment.event = .usb event) ∧
      b'.served.map Moment.event = b.served.map Moment.event ++ framesOf moments := by
  induction serves with
  | refl => exact ⟨[], .nil _, by simp, by simp [framesOf]⟩
  | @tail middle _ _ step ih =>
    obtain ⟨moments, run, usb, served⟩ := ih
    cases step with
    | @device event after own _ step =>
      have next : Traced (KeyboardStep cfg hmac) middle.transport
          ⟨middle.transport, .usb event, after⟩ after := ⟨rfl, rfl, own, step⟩
      rw [UsbHid.Bus.follow_transport]
      refine ⟨_, run.snoc next, ?_, ?_⟩
      · intro moment member
        rcases List.mem_append.mp member with earlier | latest
        · exact usb moment earlier
        · exact ⟨event, by rw [List.mem_singleton.mp latest]⟩
      · rw [follow_served, served, framesOf_snoc, List.append_assoc]
    | fetch => exact ⟨moments, run, usb, served⟩

/-- A keyboard at rest answers a request and is at rest again. -/
theorem keyboard_serves (cfg : Config) (hmac : Hmac) (env : Env) (request : Frame)
    (rest : AtRest s) (bound : s.bound = true) :
    ∃ moments s', Run (Traced (KeyboardStep cfg hmac)) s moments s' ∧
      (∀ moment ∈ moments, ∃ event, moment.event = .usb event) ∧
      framesOf moments = [exchangeOf cfg hmac usbContext env request s.world] ∧
      AtRest s' ∧ s'.bound = true ∧
      s'.world = (Protocol.processFrame cfg hmac env usbContext request s.world).2 := by
  obtain ⟨s', serves, rest', bound', world⟩ :=
    UsbHid.bus_serves cfg hmac env request 0 [] rest bound
  obtain ⟨moments, run, usb, served⟩ := service_run serves
  exact ⟨moments, s', run, usb, served.symm, rest', bound', world⟩

end RuntimeMacro.Source
