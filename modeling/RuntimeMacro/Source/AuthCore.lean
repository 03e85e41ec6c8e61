import RuntimeMacro.Source.Settings
import RuntimeMacro.Foundations.LittleEndian
import Mathlib.Data.Vector.Basic

/-!
# Authentication core

runtime_macro_auth.c:35-540. The file's statics are one record. Each entry
point is a function of that record and of what it obtains from outside: its
clock reading, the CSPRNG and HMAC results and the result of
`settings_save_one`. The two critical sections of `set_credential` and of
`settings_set` are separate definitions, which the sequential entry points
compose.
-/
namespace RuntimeMacro.Source.AuthCore
open Foundations.LittleEndian

/-- `enum zmk_runtime_macro_auth_state` (runtime_macro_auth.h): no password, a
password, or a stored credential that cannot be read. -/
inductive AuthState where
  | stateOpen | stateProtected | stateErrorLocked
  deriving DecidableEq, Repr

abbrev Nonce := Vector UInt8 16
abbrev Digest := Vector UInt8 32

def credentialVersion : UInt8 := 1
def kdfId : UInt8 := 1
def credentialStorageSize : Nat := 53
def iterationsDefault : Nat := 600000
def iterationsMin : Nat := 100000
def iterationsMax : Nat := 5000000
def nonceSize : Nat := 16
def proofSize : Nat := 16
def failureCountMax : Nat := 4
def cooldownMaxSeconds : Nat := 8

def settingName : Name := ascii "auth/credential"
def settingPath : Name := ascii "runtime_macro/auth/credential"
def domain : List UInt8 := ascii "ZMK-RUNTIME-MACRO-AUTH-V2"

/-- `struct zmk_runtime_macro_auth_credential` (runtime_macro_auth.h). The salt
is public, the key is derived from the password. -/
structure Credential where
  iterations : Nat
  salt : Vector UInt8 16
  key : Vector UInt8 32
  deriving DecidableEq, Repr

def Credential.zero : Credential := ⟨0, Vector.replicate 16 0, Vector.replicate 32 0⟩

/-- `struct runtime_macro_auth_state_data` (runtime_macro_auth.c:35-45) and the
three settings statics below it. -/
structure State where
  state : AuthState
  credential : Credential
  sessionActive : Bool
  sessionDeadlineMs : Int
  challengeActive : Bool
  challenge : Nonce
  challengeDeadlineMs : Int
  failureCount : Nat
  cooldownDeadlineMs : Int
  settingsSeen : Bool
  settingsInvalid : Bool
  settingsGeneration : UInt32
  deriving DecidableEq, Repr

/-- The statics at boot. -/
def State.boot : State where
  state := .stateOpen
  credential := .zero
  sessionActive := false
  sessionDeadlineMs := 0
  challengeActive := false
  challenge := Vector.replicate 16 0
  challengeDeadlineMs := 0
  failureCount := 0
  cooldownDeadlineMs := 0
  settingsSeen := false
  settingsInvalid := false
  settingsGeneration := 0

/-- `runtime_macro_auth_all_zero` (runtime_macro_auth.c:123-131). -/
def allZero {n : Nat} (data : Vector UInt8 n) : Bool := data.toList.all (· == 0)

/-- `runtime_macro_auth_credential_is_valid` (runtime_macro_auth.c:133-143):
iterations in their range, and neither salt nor key all zero. -/
def credentialIsValid (credential : Credential) : Bool :=
  !(decide (credential.iterations < iterationsMin) || decide (credential.iterations > iterationsMax)
    || allZero credential.salt || allZero credential.key)

/-- `runtime_macro_auth_put_le32` (runtime_macro_auth.c:145-150). -/
def putLe32 (value : Nat) : List UInt8 :=
  [UInt8.ofNat value, UInt8.ofNat (value >>> 8), UInt8.ofNat (value >>> 16),
    UInt8.ofNat (value >>> 24)]

/-- `runtime_macro_auth_get_le32` (runtime_macro_auth.c:152-155): four octets
of `source` from `offset` on, as unsigned little-endian. -/
def getLe32 (source : List UInt8) (offset : Nat) : Nat :=
  (source.getD offset 0).toNat ||| ((source.getD (offset + 1) 0).toNat <<< 8) |||
    ((source.getD (offset + 2) 0).toNat <<< 16) ||| ((source.getD (offset + 3) 0).toNat <<< 24)

/-- `memcpy` of `n` bytes out of `source` at `offset`. -/
def readBytes (n : Nat) (source : List UInt8) (offset : Nat) : Vector UInt8 n :=
  Vector.ofFn fun i => source.getD (offset + i.val) 0

/-- `runtime_macro_auth_serialize_credential` (runtime_macro_auth.c:157-164):
53 bytes, of which the first is the version of the record. -/
def serializeCredential (credential : Credential) : List UInt8 :=
  [credentialVersion] ++ putLe32 credential.iterations ++ credential.salt.toList ++
    credential.key.toList

/-- `runtime_macro_auth_deserialize_credential` (runtime_macro_auth.c:166-172).
The version was checked before. -/
def deserializeCredential (serialized : List UInt8) : Credential where
  iterations := getLe32 serialized 1
  salt := readBytes 16 serialized 5
  key := readBytes 32 serialized 21

/-- `runtime_macro_auth_clear_challenge_locked`
(runtime_macro_auth.c:174-178). -/
def clearChallenge (s : State) : State :=
  { s with challengeActive := false, challengeDeadlineMs := 0, challenge := Vector.replicate 16 0 }

/-- `runtime_macro_auth_clear_session_locked`
(runtime_macro_auth.c:180-183). -/
def clearSession (s : State) : State :=
  { s with sessionActive := false, sessionDeadlineMs := 0 }

/-- `runtime_macro_auth_clear_failure_locked`
(runtime_macro_auth.c:185-188). -/
def clearFailure (s : State) : State :=
  { s with failureCount := 0, cooldownDeadlineMs := 0 }

/-- `runtime_macro_auth_clear_transient_locked` (runtime_macro_auth.c:190-196).
A LOCK keeps the failure count, every other caller clears it. -/
def clearTransient (clearFailures : Bool) (s : State) : State :=
  let s := clearChallenge (clearSession s)
  if clearFailures then clearFailure s else s

/-- `runtime_macro_auth_set_error_locked` (runtime_macro_auth.c:198-203). -/
def setErrorLocked (s : State) : State :=
  clearTransient true { s with state := .stateErrorLocked, credential := .zero }

/-- `runtime_macro_auth_expire_session_locked` (runtime_macro_auth.c:205-212),
at the head of every lookup. A session that has run out takes the outstanding
challenge with it. -/
def expireSession (nowMs : Int) (s : State) : State :=
  if s.sessionActive = false ∨ nowMs < s.sessionDeadlineMs then s
  else clearChallenge (clearSession s)

/-- `runtime_macro_auth_cooldown_active_locked`
(runtime_macro_auth.c:214-216). -/
def cooldownActive (nowMs : Int) (s : State) : Bool :=
  decide (s.failureCount ≠ 0) && decide (nowMs < s.cooldownDeadlineMs)

/-- `runtime_macro_auth_record_failure_locked` (runtime_macro_auth.c:218-229):
the cooldown doubles from one second to eight, and the count stops at four. -/
def recordFailure (nowMs : Int) (s : State) : State :=
  let failureCount :=
    if s.failureCount < failureCountMax then s.failureCount + 1 else s.failureCount
  let cooldownSeconds := 1 <<< (failureCount - 1)
  let cooldownSeconds :=
    if cooldownSeconds > cooldownMaxSeconds then cooldownMaxSeconds else cooldownSeconds
  { s with failureCount := failureCount
           cooldownDeadlineMs := nowMs + (cooldownSeconds : Int) * 1000 }

/-! ## Queries -/

/-- `zmk_runtime_macro_auth_get_state` (runtime_macro_auth.c:231-238). Asking
for the state ends a session whose deadline has passed. -/
def getState (nowMs : Int) (s : State) : AuthState × State :=
  let s := expireSession nowMs s
  (s.state, s)

/-- `struct zmk_runtime_macro_auth_info` (runtime_macro_auth.h). -/
structure Info where
  state : AuthState
  sessionAuthenticated : Bool
  kdfId : UInt8
  iterations : Nat
  salt : Vector UInt8 16
  deriving DecidableEq, Repr

/-- `zmk_runtime_macro_auth_get_info` (runtime_macro_auth.c:240-263) with a
non-NULL output. An open core reports the default iterations, a locked one
nothing but its state. -/
def getInfo (nowMs : Int) (s : State) : Info × State :=
  let s := expireSession nowMs s
  let info : Info := ⟨s.state, s.sessionActive, 0, 0, Vector.replicate 16 0⟩
  match s.state with
  | .stateOpen => ({ info with kdfId := kdfId, iterations := iterationsDefault }, s)
  | .stateProtected =>
    ({ info with kdfId := kdfId, iterations := s.credential.iterations
                 salt := s.credential.salt }, s)
  | .stateErrorLocked => (info, s)

/-- `zmk_runtime_macro_auth_is_authenticated`
(runtime_macro_auth.c:377-385). -/
def isAuthenticated (nowMs : Int) (s : State) : Bool × State :=
  let s := expireSession nowMs s
  (decide (s.state = .stateProtected) && s.sessionActive, s)

/-! ## Challenge and proof -/

/-- `zmk_runtime_macro_auth_generate_challenge` (runtime_macro_auth.c:265-308).
`nonceLength` is `none` for a NULL output, else its size; `random` is `none`
when the CSPRNG fails. The error cases leave the caller's buffer zeroed. -/
def generateChallenge (cfg : Config) (nonceLength : Option Nat) (nowMs : Int)
    (random : Option Nonce) (s : State) : Except Int Nonce × State :=
  if nonceLength ≠ some nonceSize then (.error (-einval), s)
  else
    let s := expireSession nowMs s
    if s.state = .stateOpen then (.error (-enodata), s)
    else if s.state = .stateErrorLocked then (.error (-eperm), s)
    else if cooldownActive nowMs s then (.error (-eagain), s)
    else
      -- A failed CSPRNG call must not leave an older nonce usable.
      let s := clearChallenge s
      match random with
      | none => (.error (-eio), s)
      | some generated =>
        (.ok generated, { s with
          challenge := generated
          challengeActive := true
          challengeDeadlineMs := nowMs + (cfg.authChallengeTimeout : Int) * 1000 })

/-- The HMAC primitive on a key and a message. -/
abbrev Hmac := Vector UInt8 32 → List UInt8 → Digest

/-- The expected proof for a nonce: the first 16 bytes of the HMAC over domain
and nonce (runtime_macro_auth.c:338-346). The HMAC itself is a parameter. -/
def expectedProof (hmac : Hmac) (key : Vector UInt8 32) (nonce : Nonce) : List UInt8 :=
  (hmac key (domain ++ nonce.toList)).toList.take proofSize

/-- `zmk_runtime_macro_auth_verify_proof` (runtime_macro_auth.c:310-375).
`proof` is `none` for NULL, else the `proof_size` bytes at the pointer. The
nonce is consumed before the HMAC runs, whatever its outcome, and the session
ends with it. -/
def verifyProof (cfg : Config) (hmac : Hmac) (proof : Option (List UInt8)) (nowMs : Int)
    (hmacFails : Bool) (s : State) : Int × State :=
  match proof with
  | none => (-einval, s)
  | some proof =>
    if proof.length ≠ proofSize then (-einval, s)
    else
      let s := expireSession nowMs s
      if s.state = .stateOpen then (-enodata, s)
      else if s.state = .stateErrorLocked then (-eperm, s)
      else if s.challengeActive = false ∨ nowMs ≥ s.challengeDeadlineMs then
        (-enoent, clearChallenge s)
      else
        let key := s.credential.key
        let nonce := s.challenge
        let s := clearSession (clearChallenge s)
        if hmacFails then (-eio, s)
        else if expectedProof hmac key nonce ≠ proof then (-eacces, recordFailure nowMs s)
        else
          (0, clearFailure { s with
            sessionActive := true
            sessionDeadlineMs := nowMs + (cfg.authSessionTimeout : Int) * 1000 })

/-- `zmk_runtime_macro_auth_refresh_session`
(runtime_macro_auth.c:387-402): -EACCES unless a session is alive at the
reading, else the deadline moves a whole window ahead. -/
def refreshSession (cfg : Config) (nowMs : Int) (s : State) : Int × State :=
  let s := expireSession nowMs s
  if s.state ≠ .stateProtected ∨ s.sessionActive = false then (-eacces, s)
  else (0, { s with sessionDeadlineMs := nowMs + (cfg.authSessionTimeout : Int) * 1000 })

/-! ## Credential replacement -/

/-- First critical section of `zmk_runtime_macro_auth_set_credential`: 0 when
storage may be written. -/
def setCredentialAuthorise (nowMs : Int) (s : State) : Int × State :=
  let s := expireSession nowMs s
  if s.state = .stateErrorLocked then (-eperm, s)
  else if s.state = .stateProtected ∧ s.sessionActive = false then (-eacces, s)
  else (0, s)

/-- Second critical section, entered after storage succeeded. -/
def setCredentialActivate (credential : Credential) (s : State) : State :=
  clearTransient true { s with
    credential := credential
    state := .stateProtected
    settingsSeen := true
    settingsInvalid := false }

/-- `zmk_runtime_macro_auth_set_credential` (runtime_macro_auth.c:404-455).
`credential` is `none` for NULL; `saveErr` is the result of
`settings_save_one`. Storage is written before the core changes. -/
def setCredential (credential : Option Credential) (nowMs saveErr : Int) (s : State)
    (settings : Settings) : Int × State × Settings :=
  match credential with
  | none => (-einval, s, settings)
  | some credential =>
    if credentialIsValid credential = false then (-einval, s, settings)
    else
      let (err, s) := setCredentialAuthorise nowMs s
      if err ≠ 0 then (err, s, settings)
      else
        let settings :=
          settingsSaveOne settingPath (serializeCredential credential) saveErr settings
        if saveErr ≠ 0 then (saveErr, s, settings)
        else (0, setCredentialActivate credential s, settings)

/-- `zmk_runtime_macro_auth_lock` (runtime_macro_auth.c:457-461). The failure
count stays. -/
def lock (s : State) : State := clearTransient false s

/-- `zmk_runtime_macro_auth_transport_reset` (runtime_macro_auth.c:463-467). -/
def transportReset (s : State) : State := clearTransient true s

/-! ## Settings load -/

/-- The test on the name at the head of
`zmk_runtime_macro_auth_settings_set`. -/
def nameMatches (name : Option Name) : Bool :=
  match name with
  | none => false
  | some name =>
    match settingsNameSteq name (ascii "auth") with
    | some (some next) => settingsNameSteq next (ascii "credential") == some none
    | _ => false

/-- First critical section: the load is pending, and any failure from here
on leaves the core locked. The result says whether a credential was seen
before. -/
def settingsSetMark (s : State) : Bool × State :=
  (s.settingsSeen, setErrorLocked { s with
    settingsSeen := true
    settingsInvalid := true
    settingsGeneration := s.settingsGeneration + 1 })

/-- Between the critical sections: read and decode the record. -/
def settingsSetRead (duplicate : Bool) (length : Nat) (readCb : Option SettingsReadCb) :
    Except Int Credential :=
  match readCb with
  | none => .error (-einval)
  | some readCb =>
    if duplicate ∨ length ≠ credentialStorageSize then .error (-einval)
    else
      let (readLength, serialized) := readCb credentialStorageSize
      if readLength < 0 then .error readLength
      else if readLength ≠ credentialStorageSize ∨ serialized.getD 0 0 ≠ credentialVersion then
        .error (-einval)
      else
        let credential := deserializeCredential serialized
        if credentialIsValid credential then .ok credential else .error (-einval)

/-- Second critical section: a newer load or a replacement rejects this one. -/
def settingsSetActivate (generation : UInt32) (credential : Credential) (s : State) : Int × State :=
  if s.settingsGeneration ≠ generation ∨ s.settingsInvalid = false then (-einval, s)
  else
    (0, clearTransient true { s with
      credential := credential
      state := .stateProtected
      settingsInvalid := false })

/-- `zmk_runtime_macro_auth_settings_set` (runtime_macro_auth.c:469-526). The
core is locked before the value is read, and opened by a valid record only if
no other update came between. -/
def settingsSet (name : Option Name) (length : Nat) (readCb : Option SettingsReadCb) (s : State) :
    Int × State :=
  if nameMatches name = false then (-enoent, s)
  else
    let (duplicate, s) := settingsSetMark s
    match settingsSetRead duplicate length readCb with
    | .error err => (err, s)
    | .ok credential => settingsSetActivate s.settingsGeneration credential s

/-- `zmk_runtime_macro_auth_settings_commit` (runtime_macro_auth.c:528-540):
without a credential entry the core is open, with a bad one it is locked. -/
def settingsCommit (s : State) : State :=
  if s.settingsSeen = false then
    clearTransient true { s with state := .stateOpen, credential := .zero }
  else if s.settingsInvalid then setErrorLocked s
  else s

end RuntimeMacro.Source.AuthCore
