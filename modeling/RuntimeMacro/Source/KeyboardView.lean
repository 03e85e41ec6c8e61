import RuntimeMacro.Source.CommandLine
import RuntimeMacro.Source.Device
import RuntimeMacro.Source.SlotArray

/-!
# The keyboard behind the command line tool

tools/runtime_macro_cli.py:1376-1487. What the actions of the tool are to its
user: each changes the texts, the vault of dynamic texts, the password or the
session, and what it prints is so.
-/
namespace RuntimeMacro.Source
open CommandLine RuntimeMacroClient
open AuthCore (Credential)

/-- What a user of the tool can tell of a keyboard. -/
structure View where
  texts : SlotTexts
  vault : Vault
  protection : Option Credential
  session : Bool

/-- What its owner can tell of a keyboard: the texts, the vault, whether a
password protects them, and whether a session is open. -/
def World.view (w : World) : View where
  texts := SlotStore.textOf w.slots
  vault := w.dynamic.vault
  protection := if w.auth.state = .stateProtected then some w.auth.credential else none
  session := w.auth.sessionActive

/-- Dynamic texts and the session may be gone. -/
structure View.Fades (v v' : View) : Prop where
  texts : v'.texts = v.texts
  vault : v.vault.Fades v'.vault
  protection : v'.protection = v.protection
  session : v'.session = true → v.session = true

/-- The credential of `set-password`. -/
def passwordCredential (host : Host) (password : String) (salt : Vector UInt8 16) : Credential :=
  ⟨authIterationsDefault, salt,
    host.pbkdf2 (host.normalize password) salt.toList authIterationsDefault⟩

/-- What an action that is carried out makes of a keyboard; the TTL of an
upload counts from `nowMs`. -/
def View.after (cfg : Config) (host : Host) (nowMs : Int) (v : View) : Action → View
  | .list | .get _ _ | .authInfo | .capabilities => v
  | .set slot data => { v with texts := Function.update v.texts slot data }
  | .clear slot => { v with texts := Function.update v.texts slot [] }
  | .login _ => { v with session := true }
  | .setPassword password salt =>
    { v with protection := some (passwordCredential host password salt), session := true }
  | .lock => { v with session := false }
  | .dynamicSet slot data ttl keepAfterExecute =>
    { v with
      vault := Function.update v.vault slot (some (uploaded data ttl keepAfterExecute nowMs)) }
  | .dynamicClear slot => { v with vault := Function.update v.vault slot none }
  | .dynamicClearAll =>
    { v with vault := fun slot => if slot < cfg.dynamicSlotCount then none else v.vault slot }

/-- What AUTH_INFO says of a keyboard. -/
structure View.Reports (v : View) (info : AuthInfo) : Prop where
  configured : info.configured = v.protection.isSome
  authenticated : info.authenticated = v.session
  iterations : info.iterations = (v.protection.map (·.iterations)).getD authIterationsDefault

/-- What CAPABILITIES says of a firmware. -/
def Config.capabilities (cfg : Config) : DynamicCapabilities where
  capabilityVersion := dynamicCapabilityVersion
  dynamicObjectCount := cfg.dynamicSlotCount
  lifecycleFlags := Protocol.dynamicLifecycleFlags cfg
  maxDynamicLength := dynamicMaxLength
  defaultTtlSeconds := dynamicDefaultTtlSeconds
  minTtlSeconds := dynamicMinTtlSeconds
  maxTtlSeconds := dynamicMaxTtlSeconds
  transactionTimeoutSeconds := dynamicTransactionTimeoutSeconds

/-- What an action may print, of a keyboard of which it is so. -/
inductive View.Shows (cfg : Config) (v : View) : Action → List UInt8 → Prop
  | list : Shows cfg v .list
      (slotLines ((List.range cfg.slotCount).map fun slot => ⟨slot, (v.texts slot).length⟩))
  | get (slot : Nat) (raw : Bool) : Shows cfg v (.get slot raw) (shownText raw (v.texts slot))
  | set (slot : Nat) (data : List UInt8) : Shows cfg v (.set slot data) (setLine slot data)
  | clear (slot : Nat) : Shows cfg v (.clear slot) (clearLine slot)
  | authInfo {info : AuthInfo} (reports : v.Reports info) :
      Shows cfg v .authInfo (authInfoLine info)
  | login (password : String) (guarded : v.protection.isSome = true) (open' : v.session = true) :
      Shows cfg v (.login password) (line "authenticated")
  | setPassword (password : String) (salt : Vector UInt8 16) (open' : v.session = true) :
      Shows cfg v (.setPassword password salt) (line "password configured")
  | lock : Shows cfg v .lock (line "locked")
  | capabilities : Shows cfg v .capabilities (capabilitiesLine cfg.capabilities)
  | dynamicSet (slot : Nat) (data : List UInt8) (ttl : Option Nat) (keepAfterExecute : Bool) :
      Shows cfg v (.dynamicSet slot data ttl keepAfterExecute)
        (dynamicSetLine slot data ttl keepAfterExecute)
  | dynamicClear (slot : Nat) : Shows cfg v (.dynamicClear slot) (dynamicClearLine slot)
  | dynamicClearAll : Shows cfg v .dynamicClearAll
      (dynamicClearAllLine (List.range cfg.dynamicSlotCount))

/-- The actions that may open a session. -/
def CommandLine.Action.logsIn : Action → Bool
  | .login _ | .setPassword _ _ => true
  | _ => false

/-- An upload has its text in the slot at `nowMs`, as `commits` tells. -/
def CommandLine.Action.Timed (commits : Nat → CommittedText → Int → Prop) (nowMs : Int) :
    Action → Prop
  | .dynamicSet slot data ttl keepAfterExecute =>
    commits slot (uploaded data ttl keepAfterExecute nowMs) nowMs
  | _ => True

namespace View
variable (cfg : Config) (host : Host) (commits : Nat → CommittedText → Int → Prop)
  (action : Action) (v : View)

/-- The action was carried out, and its output is so. -/
structure Done (stdout : List UInt8) (v' : View) : Prop where
  effect : ∃ nowMs, action.Timed commits nowMs ∧ (v.after cfg host nowMs action).Fades v'
  shown : v'.Shows cfg action stdout

/-- The action was carried out or not, or it has only opened a session. -/
inductive Stopped : View → Prop
  | unchanged {v' : View} (fades : v.Fades v') : Stopped v'
  | changed {v' : View} (nowMs : Int) (timed : action.Timed commits nowMs)
      (fades : (v.after cfg host nowMs action).Fades v') : Stopped v'
  | loggedIn {v' : View} (logsIn : action.logsIn = true)
      (fades : View.Fades { v with session := true } v') : Stopped v'

/-- Every dynamic slot is clear but those that the error lists. -/
structure Uncleared (error : DynamicClearAllError) (v' : View) : Prop where
  clearsAll : action = .dynamicClearAll
  any : error.failures ≠ []
  listed : error.failedSlots.Sublist (List.range cfg.dynamicSlotCount)
  fades : v.Fades v'
  gone : ∀ slot < cfg.dynamicSlotCount, slot ∉ error.failedSlots → v'.vault slot = none

/-- How an action may end, and the keyboard it leaves. With 0 it was carried
out. -/
inductive Ends : Exit → View → Prop
  | done {stdout : List UInt8} {v' : View} (done : v.Done cfg host commits action stdout v') :
      Ends ⟨0, stdout, none⟩ v'
  | uncleared {error : DynamicClearAllError} {v' : View}
      (uncleared : v.Uncleared cfg action error v') : Ends (.failed (.clearAllError error)) v'
  | stopped {error : ClientError} {v' : View} (stopped : v.Stopped cfg host commits action v') :
      Ends (.failed (.clientError error)) v'

end View

namespace View
variable {v v' v'' : View}

theorem Fades.refl (v : View) : v.Fades v := ⟨rfl, .refl _, rfl, id⟩

theorem Fades.trans (first : v.Fades v') (second : v'.Fades v'') : v.Fades v'' :=
  ⟨second.texts.trans first.texts, first.vault.trans second.vault,
    second.protection.trans first.protection, fun still => first.session (second.session still)⟩

end View

/-! ## What is left alone -/

/-- What requests of these opcodes do not touch. -/
structure Spared (opcodes : List Opcode) (v v' : View) : Prop where
  texts : .set ∉ opcodes → .clear ∉ opcodes → v'.texts = v.texts
  vault : .dynamicBegin ∉ opcodes → .dynamicData ∉ opcodes → v.vault.Fades v'.vault
  protection : .passwordSet ∉ opcodes → v'.protection = v.protection
  guarded : v.protection.isSome = true → v'.protection.isSome = true
  session : .authProve ∉ opcodes → v'.session = true → v.session = true

namespace Spared
variable {opcodes : List Opcode} {v v' v'' : View}

theorem of_fades (fades : v.Fades v') : Spared opcodes v v' :=
  ⟨fun _ _ => fades.texts, fun _ _ => fades.vault, fun _ => fades.protection,
    fun guarded => fades.protection ▸ guarded, fun _ => fades.session⟩

theorem trans (first : Spared opcodes v v') (second : Spared opcodes v' v'') :
    Spared opcodes v v'' :=
  ⟨fun noSet noClear => (second.texts noSet noClear).trans (first.texts noSet noClear),
    fun noBegin noData => (first.vault noBegin noData).trans (second.vault noBegin noData),
    fun noPassword => (second.protection noPassword).trans (first.protection noPassword),
    fun guarded => second.guarded (first.guarded guarded),
    fun noProof still => first.session noProof (second.session noProof still)⟩

end Spared

end RuntimeMacro.Source
