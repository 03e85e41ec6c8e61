import RuntimeMacro.Source.CredentialUpdates
import RuntimeMacro.Source.SlotBoots

/-!
# The credential at a boot

runtime_macro_auth.c:469-540. One key of the storage is the credential's. A
boot that finds a valid record under it protects the device with it, in
whatever order the keys are delivered, and opens no session.
-/
namespace RuntimeMacro.Source
open AuthCore (Credential settingPath serializeCredential credentialIsValid nameMatches)
open SlotStore (settingsNameSteq_some)

variable {cfg : Config} {settings : Settings} {order keys : List Name} {key name : Name}
  {credential : Credential} {value : List UInt8} {saveErr : Name → Int}

/-- A name that ends at its end, or at the sign that ends names. -/
theorem settingsNameSteq_none (matched : settingsNameSteq name key = some none) :
    name = key ∨ 0x3D ∈ name := by
  induction key generalizing name with
  | nil =>
    cases name with
    | nil => exact Or.inl rfl
    | cons c rest =>
      unfold settingsNameSteq at matched
      split at matched
      · cases matched
      · split at matched
        next equals => exact Or.inr (equals ▸ List.mem_cons_self)
        · cases matched
  | cons k key ih =>
    cases name with
    | nil => cases matched
    | cons c rest =>
      unfold settingsNameSteq at matched
      split at matched
      next same =>
        rcases ih matched with rfl | ended
        · exact Or.inl (by rw [same.2.2])
        · exact Or.inr (List.mem_cons_of_mem _ ended)
      · cases matched

/-- No key but the credential's is taken for it. -/
theorem credential_key {next : Option Name} (plain : 0x3D ∉ key)
    (behind : settingsNameSteq key (ascii "runtime_macro") = some next)
    (matched : nameMatches next = true) : key = settingPath := by
  unfold nameMatches at matched
  cases next with
  | none => cases matched
  | some name =>
    have whole := settingsNameSteq_some behind
    dsimp only at matched
    split at matched
    next rest under =>
      have inner := settingsNameSteq_some under
      rcases settingsNameSteq_none (beq_iff_eq.mp matched) with rfl | ended
      · rw [whole, inner]
        rfl
      · refine absurd ?_ plain
        simp [whole, inner, ended]
    · cases matched

theorem settingsSet_auth_of_other {length : Nat} {readCb : Option SettingsReadCb}
    {auth : AuthCore.State} {s : SlotStore} {next : Option Name}
    (other : nameMatches next = false) :
    (SlotStore.settingsSet cfg next length readCb auth s).2.1 = auth := by
  have passed : AuthCore.settingsSet next length readCb auth = (-enoent, auth) := by
    rw [AuthCore.settingsSet, if_pos other]
  cases next with
  | none => rfl
  | some name =>
    simp only [SlotStore.settingsSet, passed]
    rw [if_neg (by simp)]
    split
    · rfl
    · split
      · rfl
      · split <;> rfl

theorem deliverKey_auth_of_ne (loaded : AuthCore.State × SlotStore) (other : key ≠ settingPath)
    (plain : 0x3D ∉ key) : (deliverKey cfg settings loaded key).1 = loaded.1 := by
  unfold deliverKey
  split
  next value next stored behind =>
    apply settingsSet_auth_of_other
    by_contra matched
    exact other (credential_key plain behind (by simpa using matched))
  · rfl

theorem deliverKeys_auth_of_ne (loaded : AuthCore.State × SlotStore)
    (others : ∀ key ∈ keys, key ≠ settingPath ∧ 0x3D ∉ key) :
    (keys.foldl (deliverKey cfg settings) loaded).1 = loaded.1 := by
  induction keys generalizing loaded with
  | nil => rfl
  | cons key keys ih =>
    rw [List.forall_mem_cons] at others
    rw [List.foldl_cons, ih _ others.2]
    exact deliverKey_auth_of_ne loaded others.1.1 others.1.2

/-- A valid record is read back. -/
theorem read_record (valid : credentialIsValid credential = true) :
    AuthCore.settingsSetRead false (serializeCredential credential).length
      (some (readerOf (serializeCredential credential))) = .ok credential := by
  have decodes := @AuthCore.decodes_of_saved
    ⟨fun _ => some (serializeCredential credential), []⟩ _ valid rfl
  have length := AuthCore.serializeCredential_length credential
  have reader : readerOf (serializeCredential credential) = AuthCore.storedRecord
      ⟨fun _ => some (serializeCredential credential), []⟩ none := by
    funext size
    simp [readerOf, AuthCore.storedRecord]
  rw [length, reader]
  exact decodes

/-- The device is protected with the credential, and nobody has logged in. -/
structure GuardedBy (credential : Credential) (core : AuthCore.State) : Prop where
  state : core.state = .stateProtected
  credential : core.credential = credential
  session : core.sessionActive = false

theorem deliverKey_credential {loaded : AuthCore.State × SlotStore}
    (saved : settings.values settingPath = some (serializeCredential credential))
    (valid : credentialIsValid credential = true) (fresh : loaded.1 = .boot) :
    (deliverKey cfg settings loaded settingPath).1 =
      (AuthCore.settingsSetActivate 1 credential (AuthCore.settingsSetMark .boot).2).2 := by
  have behind : settingsNameSteq settingPath (ascii "runtime_macro") =
      some (some AuthCore.settingName) := by decide
  have matched : nameMatches (some AuthCore.settingName) = true := by decide
  have read := read_record valid
  have accepted : AuthCore.settingsSet (some AuthCore.settingName)
      (serializeCredential credential).length (some (readerOf (serializeCredential credential)))
      .boot = (0, (AuthCore.settingsSetActivate 1 credential
        (AuthCore.settingsSetMark .boot).2).2) := by
    rw [AuthCore.settingsSet, if_neg (by simp [matched])]
    dsimp only
    rw [show (AuthCore.settingsSetMark AuthCore.State.boot).1 = false from rfl, read]
    rfl
  simp only [deliverKey, saved, behind, SlotStore.settingsSet, fresh, accepted]
  rw [if_pos (by decide)]

/-- A boot from a valid record, under the key of the credential. -/
theorem boot_guarded (stored : StoredKeys settings order) (plain : ∀ key ∈ order, 0x3D ∉ key)
    (saved : settings.values settingPath = some (serializeCredential credential))
    (valid : credentialIsValid credential = true) :
    GuardedBy credential (Device.boot cfg order saveErr settings).auth ∧
      (Device.boot cfg order saveErr settings).auth.challengeActive = false := by
  have listed : settingPath ∈ order := (stored.all _).mpr (by rw [saved]; rfl)
  obtain ⟨front, back, rfl⟩ := List.append_of_mem listed
  have once := stored.once
  rw [List.nodup_append, List.nodup_cons] at once
  obtain ⟨_, ⟨notBack, _⟩, apart⟩ := once
  have before : (front.foldl (deliverKey cfg settings) (.boot, .boot cfg)).1 = .boot := by
    apply deliverKeys_auth_of_ne
    intro key member
    refine ⟨fun same => apart key member settingPath List.mem_cons_self same, plain key ?_⟩
    exact List.mem_append_left _ member
  have loaded : (loadKeys cfg settings (front ++ settingPath :: back)).1 =
      (AuthCore.settingsSetActivate 1 credential (AuthCore.settingsSetMark .boot).2).2 := by
    rw [loadKeys, List.foldl_append, List.foldl_cons, deliverKeys_auth_of_ne,
      deliverKey_credential saved valid before]
    intro key member
    refine ⟨fun same => notBack (same ▸ member), plain key ?_⟩
    exact List.mem_append_right _ (List.mem_cons_of_mem _ member)
  have auth : (Device.boot cfg (front ++ settingPath :: back) saveErr settings).auth =
      AuthCore.settingsCommit (loadKeys cfg settings (front ++ settingPath :: back)).1 := by
    unfold Device.boot SlotStore.settingsCommit
    rfl
  rw [auth, loaded]
  exact ⟨⟨rfl, rfl, rfl⟩, rfl⟩

end RuntimeMacro.Source
