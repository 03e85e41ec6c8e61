import RuntimeMacro.Source.Keyboard
import RuntimeMacro.Source.SlotBoots

/-!
# The keyboard boots

runtime_macro.c:209-328; runtime_macro_auth.c:469-540. The settings callbacks
of a boot, as events of the keyboard: one for every stored key, in an order of
the backend's choice, and the commit. They load what the boot of the slots and
of the authentication core loads.
-/
namespace RuntimeMacro.Source
open Foundations Foundations.Runs
open AuthCore (Hmac)
open UsbHid (Transport)

/-- The callback of one stored key. -/
def loadEvent (settings : Settings) (key : Name) : Option KeyboardEvent :=
  match settings.values key, settingsNameSteq key (ascii "runtime_macro") with
  | some value, some name => some (.settingsSet name value.length (some (readerOf value)))
  | _, _ => none

/-- The events of a boot. -/
def loadEvents (settings : Settings) (order : List Name) (saveErr : Name → Int) :
    List KeyboardEvent :=
  order.filterMap (loadEvent settings) ++ [.settingsCommit saveErr]

/-- What is loaded and what is stored. -/
def World.device (w : World) : Device := ⟨w.auth, w.slots, w.settings⟩

variable {cfg : Config} {hmac : Hmac} {settings : Settings} {s s' : Transport}
  {moments : List KeyMoment} {order : List Name} {saveErr : Name → Int}

/-- The callbacks deliver the stored keys. -/
theorem load_run (run : Run (Traced (KeyboardStep cfg hmac)) s moments s')
    (events : moments.map Moment.event = order.filterMap (loadEvent settings)) :
    (s'.world.auth, s'.world.slots) =
        order.foldl (deliverKey cfg settings) (s.world.auth, s.world.slots) ∧
      s'.world.settings = s.world.settings := by
  induction order generalizing s moments with
  | nil =>
    cases List.map_eq_nil_iff.mp events
    cases run.nil_inv
    exact ⟨rfl, rfl⟩
  | cons key order ih =>
    rw [List.foldl_cons]
    cases delivered : loadEvent settings key with
    | none =>
      rw [List.filterMap_cons_none delivered] at events
      have same : deliverKey cfg settings (s.world.auth, s.world.slots) key =
          (s.world.auth, s.world.slots) := by
        cases stored : settings.values key with
        | none => simp only [deliverKey, stored]
        | some value =>
          cases behind : settingsNameSteq key (ascii "runtime_macro") with
          | none => simp only [deliverKey, stored, behind]
          | some name =>
            simp only [loadEvent, stored, behind] at delivered
            cases delivered
      rw [same]
      exact ih run events
    | some event =>
      rw [List.filterMap_cons_some delivered] at events
      obtain ⟨moment, rest, rfl, first, later⟩ := List.map_eq_cons_iff.mp events
      obtain ⟨middle, ⟨rfl, rfl, step⟩, run⟩ := run.cons_inv
      obtain ⟨loaded, kept⟩ := ih run later
      unfold loadEvent at delivered
      split at delivered
      next value name stored behind =>
        cases delivered
        rw [first] at step
        have world : moment.after.world = moment.before.world.settingsSet cfg name value.length
          (some (readerOf value)) := congrArg Transport.world step
        rw [world] at loaded kept
        refine ⟨?_, kept⟩
        rw [loaded]
        unfold deliverKey
        rw [stored, behind]
        rfl
      · cases delivered

/-- A boot of the keyboard is a boot of the slots and the core. -/
theorem boot_run
    (run : Run (Traced (KeyboardStep cfg hmac)) (.boot cfg settings) moments s)
    (events : moments.map Moment.event = loadEvents settings order saveErr) :
    s.world.device = .boot cfg order saveErr settings := by
  obtain ⟨loading, committing, rfl, loads, commits⟩ := List.map_eq_append_iff.mp events
  obtain ⟨commit, nothing, rfl, last, ended⟩ := List.map_eq_cons_iff.mp commits
  cases List.map_eq_nil_iff.mp ended
  obtain ⟨middle, first, rest⟩ := Run.split loading [commit] run
  obtain ⟨after, ⟨rfl, rfl, step⟩, run⟩ := rest.cons_inv
  cases run.nil_inv
  obtain ⟨loaded, kept⟩ := load_run first loads
  rw [last] at step
  have world : commit.after.world = commit.before.world.settingsCommit cfg saveErr :=
    congrArg Transport.world step
  have keys : (commit.before.world.auth, commit.before.world.slots) =
      loadKeys cfg settings order := loaded
  have stored : commit.before.world.settings = settings := kept
  rw [world, World.device, World.settingsCommit, Device.boot, ← keys, stored]

end RuntimeMacro.Source
