import RuntimeMacro.Source.DynamicVault
import RuntimeMacro.Source.VisibleText

/-!
# The command line tool

tools/runtime_macro_cli.py:303-379,1327-1487. What the parser of the arguments
returns, what is read from the terminal and what `hid` offers are arguments of
`main`. Slots are natural numbers.
-/
namespace RuntimeMacro.Source.CommandLine
open Foundations.Dialogues RuntimeMacroClient

/-! ## The device -/

/-- A value of `hidapi`, whose bindings differ in its type. -/
inductive HidText where
  | bytes (data : List UInt8)
  | str (text : String)
  deriving DecidableEq, Repr

/-- A dictionary of `hid.enumerate`. A number is what `int` makes of the entry,
if it does. -/
structure HidInfo where
  path : HidText
  vendorId : Option Int
  productId : Option Int
  usagePage : Option Int
  usage : Option Int
  serialNumber : Option HidText
  productString : Option HidText
  deriving DecidableEq, Repr

/-- The module `hid`, with `os.fsdecode`. `openPath` is what `open_path`
raises. -/
structure HidModule where
  enumerate : List HidInfo
  openPath : HidText → Except String Unit
  fsdecode : List UInt8 → String

/-- The options that select the device. -/
structure Selection where
  path : Option HidText
  vid : Option Nat
  pid : Option Nat

namespace HidModule
variable (hid : HidModule)

/-- `_path_text` (runtime_macro_cli.py:303-306). -/
def pathText : HidText → String
  | .bytes data => hid.fsdecode data
  | .str text => text

/-- `same_path` (runtime_macro_cli.py:309-313): two paths in bytes are compared
as bytes, any others as text. -/
def samePath : HidText → HidText → Bool
  | .bytes left, .bytes right => left == right
  | left, right => hid.pathText left == hid.pathText right

/-- `_field_int` (runtime_macro_cli.py:316-321). -/
def fieldInt (value : Option Int) : Int := value.getD (-1)

/-- `%04x`. -/
def hex4 (value : Int) : String :=
  let sign := if value < 0 then "-" else ""
  let digits := String.ofList (Nat.toDigits 16 value.natAbs)
  sign ++ String.ofList (List.replicate (4 - sign.length - digits.length) '0') ++ digits

/-- `value or "-"`. -/
def orDash : Option HidText → String
  | none | some (.bytes []) | some (.str "") => "-"
  | some text => hid.pathText text

/-- `_device_summary` (runtime_macro_cli.py:324-334). -/
def deviceSummary (info : HidInfo) : String :=
  "path=" ++ hid.pathText info.path ++ ", VID=0x" ++ hex4 (fieldInt info.vendorId) ++
    ", PID=0x" ++ hex4 (fieldInt info.productId) ++ ", serial=" ++ hid.orDash info.serialNumber ++
    ", product=" ++ hid.orDash info.productString

/-- The body of the loop of `find_device`, on `records` and
`missing_usage_metadata`. -/
def considerDevice (wanted : Selection) (found : List HidInfo × Bool) (info : HidInfo) :
    List HidInfo × Bool :=
  if wanted.path.any fun path => !hid.samePath info.path path then found
  else if wanted.vid.any fun vid : Nat => decide (fieldInt info.vendorId ≠ vid) then found
  else if wanted.pid.any fun pid : Nat => decide (fieldInt info.productId ≠ pid) then found
  else if fieldInt info.usagePage = 0 ∧ fieldInt info.usage = 0 then
    if wanted.path = none then (found.1, true) else (found.1 ++ [info], true)
  else if fieldInt info.usagePage ≠ 0xFF60 ∨ fieldInt info.usage ≠ 0x61 then found
  else (found.1 ++ [info], found.2)

/-- `find_device` (runtime_macro_cli.py:337-379); an error is the text of a
`DeviceError`. -/
def findDevice (wanted : Selection) : Except String HidInfo :=
  let (records, missingUsageMetadata) :=
    hid.enumerate.foldl (hid.considerDevice wanted) ([], false)
  match records with
  | [] =>
    if wanted.path = none ∧ missingUsageMetadata then
      .error ("hidapi 未提供 HID Usage 元数据，请使用 --path 精确选择 runtime macro HID；" ++
        "也请确认固件已启用 CONFIG_ZMK_RUNTIME_MACRO_USB_HID 并检查 hidraw/udev 权限")
    else
      .error ("未找到 dongle runtime macro HID（请确认固件已启用 CONFIG_ZMK_RUNTIME_MACRO_USB_HID，" ++
        "并检查 hidraw/udev 权限）")
  | first :: rest =>
    if rest ≠ [] ∧ wanted.path = none then
      .error ("找到多个匹配的 dongle HID，请使用 --path 精确选择 runtime macro HID：\n" ++
        "\n".intercalate (records.map fun info => "  " ++ hid.deviceSummary info))
    else .ok first

/-- `open_transport` (runtime_macro_cli.py:1327-1345). -/
def openTransport (wanted : Selection) : Except String HidInfo := do
  let info ← hid.findDevice wanted
  match hid.openPath info.path with
  | .ok _ => return info
  | .error reason =>
    .error ("无法打开 dongle runtime macro HID（" ++ hid.pathText info.path ++ "）：" ++ reason)

end HidModule

/-- `_load_hid` (runtime_macro_cli.py:1319-1324), when there is one. -/
def loadHid : Option HidModule → Except String HidModule
  | some hid => .ok hid
  | none => .error "缺少 hidapi：请在 venv 中执行 pip install -r tools/requirements.txt"

namespace HidModule
variable {hid : HidModule} {wanted : Selection} {info : HidInfo}

/-- The options select the device, by its usage or, where `hidapi` knows none,
by its path. -/
structure Selected (hid : HidModule) (wanted : Selection) (info : HidInfo) : Prop where
  path : ∀ path, wanted.path = some path → hid.samePath info.path path = true
  vid : ∀ vid : Nat, wanted.vid = some vid → fieldInt info.vendorId = vid
  pid : ∀ pid : Nat, wanted.pid = some pid → fieldInt info.productId = pid
  usage : (fieldInt info.usagePage = 0xFF60 ∧ fieldInt info.usage = 0x61) ∨
    (wanted.path ≠ none ∧ fieldInt info.usagePage = 0 ∧ fieldInt info.usage = 0)

/-- It can be opened, and without a path no other is selected. -/
structure Chosen (hid : HidModule) (wanted : Selection) (info : HidInfo) : Prop where
  listed : info ∈ hid.enumerate
  selected : hid.Selected wanted info
  sole : wanted.path = none → ∀ other ∈ hid.enumerate, hid.Selected wanted other → other = info
  opened : hid.openPath info.path = .ok ()

/-- A filter of the options lets the device pass. -/
theorem passes_iff {α : Type} {wanted : Option α} {differs : α → Bool} :
    ¬ wanted.any differs = true ↔ ∀ value, wanted = some value → differs value = false := by
  cases wanted with
  | none => simp
  | some value => simp

theorem considerDevice_records (found : List HidInfo × Bool) (info : HidInfo) :
    (hid.Selected wanted info ∧ (hid.considerDevice wanted found info).1 = found.1 ++ [info]) ∨
      (¬ hid.Selected wanted info ∧ (hid.considerDevice wanted found info).1 = found.1) := by
  unfold considerDevice
  split
  next differs =>
    refine Or.inr ⟨fun selected => passes_iff.mpr ?_ differs, rfl⟩
    intro path given
    simp [selected.path path given]
  next path =>
  split
  next differs =>
    refine Or.inr ⟨fun selected => passes_iff.mpr ?_ differs, rfl⟩
    intro vid given
    simp [selected.vid vid given]
  next vid =>
  split
  next differs =>
    refine Or.inr ⟨fun selected => passes_iff.mpr ?_ differs, rfl⟩
    intro pid given
    simp [selected.pid pid given]
  next pid =>
  have named : ((fieldInt info.usagePage = 0xFF60 ∧ fieldInt info.usage = 0x61) ∨
      (wanted.path ≠ none ∧ fieldInt info.usagePage = 0 ∧ fieldInt info.usage = 0)) →
      hid.Selected wanted info := by
    intro usage
    refine ⟨fun given found => ?_, fun given found => ?_, fun given found => ?_, usage⟩
    · simpa using passes_iff.mp path given found
    · simpa using passes_iff.mp vid given found
    · simpa using passes_iff.mp pid given found
  split
  next unknown =>
    split
    next free =>
      refine Or.inr ⟨fun selected => ?_, rfl⟩
      rcases selected.usage with ⟨page, _⟩ | ⟨given, _⟩
      · omega
      · exact given free
    next given => exact Or.inl ⟨named (Or.inr ⟨given, unknown⟩), rfl⟩
  next known =>
  split
  next other =>
    refine Or.inr ⟨fun selected => ?_, rfl⟩
    rcases selected.usage with ⟨page, usage⟩ | ⟨_, page, usage⟩
    · omega
    · exact known ⟨page, usage⟩
  next same =>
    rw [not_or, not_not, not_not] at same
    exact Or.inl ⟨named (Or.inl same), rfl⟩

/-- The loop of `find_device` collects the selected devices. -/
theorem mem_records (infos : List HidInfo) (found : List HidInfo × Bool) :
    info ∈ (infos.foldl (hid.considerDevice wanted) found).1 ↔
      info ∈ found.1 ∨ (info ∈ infos ∧ hid.Selected wanted info) := by
  induction infos generalizing found with
  | nil => simp
  | cons first rest ih =>
    rw [List.foldl_cons, ih]
    rcases @considerDevice_records hid wanted found first with ⟨selected, same⟩ | ⟨other, same⟩
    · rw [same, List.mem_append, List.mem_singleton, List.mem_cons]
      constructor
      · rintro ((before | rfl) | ⟨member, later⟩)
        · exact Or.inl before
        · exact Or.inr ⟨Or.inl rfl, selected⟩
        · exact Or.inr ⟨Or.inr member, later⟩
      · rintro (before | ⟨rfl | member, later⟩)
        · exact Or.inl (Or.inl before)
        · exact Or.inl (Or.inr rfl)
        · exact Or.inr ⟨member, later⟩
    · rw [same, List.mem_cons]
      constructor
      · rintro (before | ⟨member, later⟩)
        · exact Or.inl before
        · exact Or.inr ⟨Or.inr member, later⟩
      · rintro (before | ⟨rfl | member, later⟩)
        · exact Or.inl before
        · exact absurd later other
        · exact Or.inr ⟨member, later⟩

theorem findDevice_ok (found : hid.findDevice wanted = .ok info) :
    info ∈ hid.enumerate ∧ hid.Selected wanted info ∧
      (wanted.path = none → ∀ other ∈ hid.enumerate, hid.Selected wanted other → other = info) := by
  have records : ∀ other, other ∈ (hid.enumerate.foldl (hid.considerDevice wanted) ([], false)).1 ↔
      other ∈ hid.enumerate ∧ hid.Selected wanted other := by
    intro other
    rw [mem_records]
    simp
  unfold findDevice at found
  generalize hid.enumerate.foldl (hid.considerDevice wanted) ([], false) = outcome
    at found records
  obtain ⟨candidates, missing⟩ := outcome
  cases candidates with
  | nil =>
    simp only at found
    split at found
    · cases found
    · cases found
  | cons first rest =>
    simp only at found
    split at found
    · cases found
    next single =>
      cases found
      obtain ⟨listed, selected⟩ := (records info).mp List.mem_cons_self
      refine ⟨listed, selected, fun free other member also => ?_⟩
      have alone : rest = [] := by
        by_contra more
        exact single ⟨more, free⟩
      have one := (records other).mpr ⟨member, also⟩
      rw [alone] at one
      exact List.mem_singleton.mp one

theorem openTransport_ok (opened : hid.openTransport wanted = .ok info) :
    hid.Chosen wanted info := by
  unfold openTransport at opened
  cases found : hid.findDevice wanted with
  | error message =>
    rw [found] at opened
    cases opened
  | ok device =>
    rw [found] at opened
    obtain ⟨listed, selected, sole⟩ := findDevice_ok found
    cases path : hid.openPath device.path with
    | error reason =>
      simp only [bind, Except.bind, path] at opened
      cases opened
    | ok _ =>
      simp only [bind, Except.bind, path] at opened
      cases opened
      exact ⟨listed, selected, sole, path⟩

end HidModule

/-! ## The arguments -/

/-- `--text`, or what is read from `--file` or the standard input. -/
inductive TextInput where
  | text (value : String)
  | file (name : String) (content : Except String (List UInt8))
  | stdin (content : List UInt8)

/-- A command with what it reads from the terminal, and the random salt of
`set_password`. -/
inductive Command where
  | list
  | get (slot : Nat) (raw : Bool)
  | set (slot : Nat) (input : TextInput)
  | clear (slot : Nat)
  | authInfo
  | login (password : String)
  | setPassword (password confirmation : String) (salt : Vector UInt8 16)
  | lock
  | capabilities
  | dynamicSet (slot : Nat) (input : TextInput) (ttl : Option Nat) (keepAfterExecute : Bool)
  | dynamicClear (slot : Nat)
  | dynamicClearAll

/-- A command whose input was read and checked. -/
inductive Action where
  | list
  | get (slot : Nat) (raw : Bool)
  | set (slot : Nat) (data : List UInt8)
  | clear (slot : Nat)
  | authInfo
  | login (password : String)
  | setPassword (password : String) (salt : Vector UInt8 16)
  | lock
  | capabilities
  | dynamicSet (slot : Nat) (data : List UInt8) (ttl : Option Nat) (keepAfterExecute : Bool)
  | dynamicClear (slot : Nat)
  | dynamicClearAll

/-- `_read_set_data` (runtime_macro_cli.py:1348-1362). -/
def readSetData (input : TextInput) : Except ClientError (List UInt8) := do
  let data ← match input with
    | .text value =>
      if value.toList.all fun c => c.toNat < 128 then .ok (ascii value)
      else .error (.valueError "--text 只允许 ASCII 字符")
    | .file _ (.ok content) => .ok content
    | .file name (.error reason) => .error (.valueError ("无法读取文件 " ++ name ++ ": " ++ reason))
    | .stdin content => .ok content
  validateAscii data
  return data

/-- `_read_password` (runtime_macro_cli.py:1365-1373), with the second entry if
it asks for one. -/
def readPassword (host : Host) (password : String) (repeated : Option String) :
    Except ClientError String := do
  let normalized ← normalizePassword host password
  match repeated with
  | none => return password
  | some repeated =>
    let repeatedNormalized ← normalizePassword host repeated
    if normalized ≠ repeatedNormalized then
      .error (.valueError "password entries do not match")
    else return password

/-- What `main` does before it opens the device. -/
def prepare (host : Host) : Command → Except ClientError Action
  | .list => return .list
  | .get slot raw => return .get slot raw
  | .set slot input => return .set slot (← readSetData input)
  | .clear slot => return .clear slot
  | .authInfo => return .authInfo
  | .login password => return .login (← readPassword host password none)
  | .setPassword password confirmation salt =>
    return .setPassword (← readPassword host password (some confirmation)) salt
  | .lock => return .lock
  | .capabilities => return .capabilities
  | .dynamicSet slot input ttl keepAfterExecute => do
    let data ← readSetData input
    return .dynamicSet (← validateDynamicSlot slot) data ttl keepAfterExecute
  | .dynamicClear slot => return .dynamicClear (← validateDynamicSlot slot)
  | .dynamicClearAll => return .dynamicClearAll

/-! ## The output -/

/-- One line on the standard output. -/
def line (text : String) : List UInt8 := ascii (text ++ "\n")

/-- The output of `list`. -/
def slotLines (infos : List SlotInfo) : List UInt8 :=
  infos.flatMap fun item => line (toString item.slot ++ "\t" ++ toString item.length)

/-- The output of `get`. -/
def shownText (raw : Bool) (result : List UInt8) : List UInt8 :=
  if raw then result else ascii (printedText result)

/-- `AuthInfo.state`. -/
def stateText (info : AuthInfo) : String := if info.configured then "PROTECTED" else "OPEN"

/-- What `auth-info` prints. -/
def authInfoLine (info : AuthInfo) : List UInt8 :=
  line ("state=" ++ stateText info ++ " authenticated=" ++
    (if info.authenticated then "yes" else "no") ++ " iterations=" ++ toString info.iterations)

def capabilitiesLine (capabilities : DynamicCapabilities) : List UInt8 :=
  line ("capability_version=" ++ toString capabilities.capabilityVersion ++
    " dynamic_object_count=" ++ toString capabilities.dynamicObjectCount ++
    " lifecycle_flags=0x" ++ HidModule.hex4 capabilities.lifecycleFlags ++
    " max_length=" ++ toString capabilities.maxDynamicLength ++
    " default_ttl=" ++ toString capabilities.defaultTtlSeconds ++
    " min_ttl=" ++ toString capabilities.minTtlSeconds ++
    " max_ttl=" ++ toString capabilities.maxTtlSeconds ++
    " transaction_timeout=" ++ toString capabilities.transactionTimeoutSeconds)

def setLine (slot : Nat) (data : List UInt8) : List UInt8 :=
  line ("slot " ++ toString slot ++ " set (" ++ toString data.length ++ " bytes)")

def clearLine (slot : Nat) : List UInt8 := line ("slot " ++ toString slot ++ " cleared")

def dynamicSetLine (slot : Nat) (data : List UInt8) (ttl : Option Nat) (keepAfterExecute : Bool) :
    List UInt8 :=
  line ("dynamic slot " ++ toString slot ++ " uploaded (" ++ toString data.length ++
    " bytes, ttl=" ++ toString (ttl.getD dynamicDefaultTtlSeconds) ++ "s, after_execute=" ++
    (if keepAfterExecute then "keep" else "consume") ++ ")")

def dynamicClearLine (slot : Nat) : List UInt8 :=
  line ("dynamic slot " ++ toString slot ++ " cleared")

def dynamicClearAllLine (cleared : List Nat) : List UInt8 :=
  line ("dynamic macro cleared on " ++ toString cleared.length ++ " slot(s): " ++
    ", ".intercalate (cleared.map toString))

/-! ## The program -/

/-- The branch of `main` for the command: the standard output, or a
`DynamicClearAllError`. -/
def perform (host : Host) (retries : Nat) :
    Action → Client (Except DynamicClearAllError (List UInt8))
  | .list => do
    let infos ← listSlots retries
    return .ok (slotLines infos)
  | .get slot raw => do
    let result ← getSlot retries slot
    return .ok (shownText raw result)
  | .set slot data => do
    setSlot retries slot data
    return .ok (setLine slot data)
  | .clear slot => do
    clearSlot retries slot
    return .ok (clearLine slot)
  | .authInfo => do
    let info ← authInfo retries
    return .ok (authInfoLine info)
  | .login password => do
    let _ ← authenticate host retries password
    return .ok (line "authenticated")
  | .setPassword password salt => do
    let _ ← setPassword host retries password authIterationsDefault salt
    return .ok (line "password configured")
  | .lock => do
    lock retries
    return .ok (line "locked")
  | .capabilities => do
    let capabilities ← getCapabilities retries
    return .ok (capabilitiesLine capabilities)
  | .dynamicSet slot data ttl keepAfterExecute => do
    uploadDynamic retries slot data ttl keepAfterExecute
    return .ok (dynamicSetLine slot data ttl keepAfterExecute)
  | .dynamicClear slot => do
    clearDynamic retries slot
    return .ok (dynamicClearLine slot)
  | .dynamicClearAll => do
    match ← clearAllDynamic retries with
    | .ok cleared => return .ok (dynamicClearAllLine cleared)
    | .error error => return .error error

/-- What the methods of the client check before they send a frame. -/
def clientCheck (host : Host) : Action → Except ClientError Unit
  | .get slot _ | .clear slot => validateSlot slot
  | .set slot data => do
    validateSlot slot
    validateAscii data
  | .login password | .setPassword password _ => do
    let _ ← normalizePassword host password
  | .dynamicSet slot data ttl _ => do
    let _ ← validateDynamicSlot slot
    let _ ← validateDynamicInput data ttl
  | .dynamicClear slot => do
    let _ ← validateDynamicSlot slot
  | .list | .authInfo | .lock | .capabilities | .dynamicClearAll => return

/-- What is printed on the standard error. -/
inductive ToolError where
  | usage (message : String)
  | clientError (error : ClientError)
  | deviceError (message : String)
  | clearAllError (error : DynamicClearAllError)

/-- The end of the program: its code, what it printed, and the error that went
to the standard error output. -/
structure Exit where
  code : Nat
  stdout : List UInt8
  error : Option ToolError

/-- An error ends the program with code 1 and prints nothing. -/
def Exit.failed (error : ToolError) : Exit := ⟨1, [], some error⟩

/-- The options before the command. -/
structure Options extends Selection where
  timeoutMs : Int
  retries : Int

/-- `RuntimeMacroError`, `ValueError` and `OSError` are caught. -/
def isReported : ClientError → Bool
  | .passwordSetTimeout _ _ => false
  | _ => true

/-- What `main` has settled before the first byte is sent. -/
def setUp (host : Host) (hid : Option HidModule) (options : Options) (command : Command) :
    Except Exit Action :=
  if options.timeoutMs < 1 ∨ options.retries < 0 then
    .error ⟨2, [], some (.usage "--timeout-ms 必须为正数，--retries 不能为负数")⟩
  else
    match prepare host command with
    | .error error => .error (.failed (.clientError error))
    | .ok action =>
      match loadHid hid >>= fun hid => hid.openTransport options.toSelection with
      | .error message => .error (.failed (.deviceError message))
      | .ok _ => .ok action

/-- The `with` block of `main`, and its `except` clause. -/
def carryOut (host : Host) (retries : Nat) (action : Action) : Client Exit :=
  tryCatch (do
    match ← perform host retries action with
    | .ok stdout => return ⟨0, stdout, none⟩
    | .error error => return .failed (.clearAllError error))
    fun error =>
      if isReported error then return .failed (.clientError error) else throw error

/-- `main` (runtime_macro_cli.py:1376-1487), from the parsed arguments on. -/
def main (host : Host) (hid : Option HidModule) (options : Options) (command : Command) :
    Client Exit :=
  match setUp host hid options command with
  | .error exit => return exit
  | .ok action => carryOut host options.retries.toNat action

/-! ## What the tool has settled -/

/-- The tool goes on with the device that the options choose. -/
theorem setUp_ok {host : Host} {hid : Option HidModule} {options : Options} {command : Command}
    {action : Action} (ready : setUp host hid options command = .ok action) :
    ∃ module info, hid = some module ∧ module.Chosen options.toSelection info := by
  unfold setUp at ready
  split at ready
  · cases ready
  split at ready
  · cases ready
  split at ready
  · cases ready
  next _ info opened =>
    cases hid with
    | none => cases opened
    | some module => exact ⟨module, info, rfl, HidModule.openTransport_ok opened⟩

theorem setUp_error {host : Host} {hid : Option HidModule} {options : Options} {command : Command}
    {exit : Exit} (refused : setUp host hid options command = .error exit) : exit.code ≠ 0 := by
  unfold setUp at refused
  split at refused
  · cases refused
    simp
  split at refused
  · cases refused
    simp [Exit.failed]
  split at refused
  · cases refused
    simp [Exit.failed]
  · cases refused

section Refused
variable {host : Host} {retries : Nat} {action : Action} {error : ClientError}

/-- The ways in which the checks before the first frame refuse an action: its
slot, its text or password, or the options of an upload. -/
inductive ClientRefusal (host : Host) (error : ClientError) : Action → Prop
  | getSlot {slot : Nat} {raw : Bool} (wrong : validateSlot slot = .error error) :
      ClientRefusal host error (.get slot raw)
  | clearSlot {slot : Nat} (wrong : validateSlot slot = .error error) :
      ClientRefusal host error (.clear slot)
  | setSlot {slot : Nat} {data : List UInt8} (wrong : validateSlot slot = .error error) :
      ClientRefusal host error (.set slot data)
  | setText {slot : Nat} {data : List UInt8} (place : validateSlot slot = .ok ())
      (wrong : validateAscii data = .error error) : ClientRefusal host error (.set slot data)
  | login {password : String} (wrong : normalizePassword host password = .error error) :
      ClientRefusal host error (.login password)
  | setPassword {password : String} {salt : Vector UInt8 16}
      (wrong : normalizePassword host password = .error error) :
      ClientRefusal host error (.setPassword password salt)
  | uploadSlot {slot : Nat} {data : List UInt8} {ttl : Option Nat} {keep : Bool}
      (wrong : validateDynamicSlot slot = .error error) :
      ClientRefusal host error (.dynamicSet slot data ttl keep)
  | uploadInput {slot number : Nat} {data : List UInt8} {ttl : Option Nat} {keep : Bool}
      (place : validateDynamicSlot slot = .ok number)
      (wrong : validateDynamicInput data ttl = .error error) :
      ClientRefusal host error (.dynamicSet slot data ttl keep)
  | clearDynamicSlot {slot : Nat} (wrong : validateDynamicSlot slot = .error error) :
      ClientRefusal host error (.dynamicClear slot)

theorem clientCheck_error (refused : clientCheck host action = .error error) :
    ClientRefusal host error action := by
  cases action with
  | get slot => exact .getSlot refused
  | clear slot => exact .clearSlot refused
  | set slot data =>
    simp only [clientCheck] at refused
    cases place : validateSlot slot with
    | error other =>
      rw [place] at refused
      cases refused
      exact .setSlot place
    | ok _ =>
      rw [place] at refused
      exact .setText place refused
  | login password | setPassword password =>
    simp only [clientCheck] at refused
    cases wrong : normalizePassword host password with
    | error other =>
      rw [wrong] at refused
      cases refused
      constructor
      exact wrong
    | ok _ =>
      rw [wrong] at refused
      cases refused
  | dynamicSet slot data ttl keep =>
    simp only [clientCheck] at refused
    cases place : validateDynamicSlot slot with
    | error other =>
      rw [place] at refused
      cases refused
      exact .uploadSlot place
    | ok _ =>
      rw [place] at refused
      cases wrong : validateDynamicInput data ttl with
      | error other =>
        rw [wrong] at refused
        cases refused
        exact .uploadInput place wrong
      | ok _ =>
        rw [wrong] at refused
        cases refused
  | dynamicClear slot =>
    simp only [clientCheck] at refused
    cases place : validateDynamicSlot slot with
    | error other =>
      rw [place] at refused
      cases refused
      exact .clearDynamicSlot place
    | ok _ =>
      rw [place] at refused
      cases refused
  | list | authInfo | lock | capabilities | dynamicClearAll => cases refused

/-- What the client refuses it raises at once: every method makes these checks
before it asks for a request id. -/
theorem perform_refused (refused : clientCheck host action = .error error) :
    perform host retries action = throw error := by
  cases clientCheck_error refused with
  | getSlot wrong | clearSlot wrong =>
    simp only [perform, getSlot, clearSlot, wrong]
    rfl
  | setSlot wrong =>
    simp only [perform, setSlot, wrong]
    rfl
  | setText place wrong =>
    simp only [perform, setSlot, place, wrong]
    rfl
  | login wrong | setPassword wrong =>
    simp only [perform, authenticate, setPassword, wrong]
    rfl
  | uploadSlot wrong =>
    simp only [perform, uploadDynamic, wrong]
    rfl
  | uploadInput place wrong =>
    simp only [perform, uploadDynamic, place, wrong]
    rfl
  | clearDynamicSlot wrong =>
    simp only [perform, clearDynamic, wrong]
    rfl

/-- So the tool has sent nothing when it reports it. -/
theorem carryOut_refused (refused : clientCheck host action = .error error)
    (reported : isReported error = true) (next : UInt8) :
    (carryOut host retries action).dialogue next =
      .done (.ok (.failed (.clientError error)), next) := by
  have raised : carryOut host retries action =
      if isReported error then pure (.failed (.clientError error)) else throw error := by
    unfold carryOut
    rw [perform_refused refused]
    rfl
  rw [raised, if_pos reported]
  rfl

end Refused

end RuntimeMacro.Source.CommandLine
