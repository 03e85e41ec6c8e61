import RuntimeMacro.Source.ClientCalls
import RuntimeMacro.Source.Pages

/-!
# Paging against any device

tools/runtime_macro_cli.py:1103-1177. `list_slots` and `get_slot` advance by
lengths that the device reports. Whatever it answers, every page but the last
makes progress towards the total of the first, and nothing is taken that does
not continue what was read before.
-/
namespace RuntimeMacro.Guarantees.PagingRobustness
open Source Source.RuntimeMacroClient Foundations.Checks Foundations.Dialogues
open Foundations.Dialogues.Procedure
open Protocol (pageRequest)

variable {opcode : Opcode} {name : String} {slot retries : Nat} {next : UInt8}

/-- `RuntimeMacroError` and its subclasses. -/
def isRuntimeMacroError : ClientError → Bool
  | .valueError _ | .passwordSetTimeout .. => false
  | _ => true

/-- What has been read: the total length the pages report, their bytes, and how
many there are. -/
structure Reader where
  total : Option Nat
  bytes : List UInt8
  pages : Nat

namespace Reader

/-- Nothing read yet: the first page sets the length. -/
def fresh : Reader := ⟨none, [], 0⟩

/-- The client takes the response to its request as the next page. -/
def Accepts (name : String) (r : Reader) (request response : Frame) : Prop :=
  validateResponse response request = .ok response.payloadLength ∧
    firstFailure (pageChecks name r.total r.bytes.length response) = none

instance (name : String) (r : Reader) (request response : Frame) :
    Decidable (r.Accepts name request response) := inferInstanceAs (Decidable (_ ∧ _))

/-- One exchange. -/
def hear (name : String) (r : Reader) : Frame × Answer → Reader
  | (_, .error _) => r
  | (request, .ok response) =>
    if r.Accepts name request response then
      ⟨some response.totalLength, r.bytes ++ response.payload response.payloadLength, r.pages + 1⟩
    else r

theorem hear_accepted {name : String} {r : Reader} {request response : Frame}
    (taken : r.Accepts name request response) : r.hear name (request, .ok response) =
      ⟨some response.totalLength, r.bytes ++ response.payload response.payloadLength,
        r.pages + 1⟩ := by
  rw [hear, if_pos taken]

theorem hear_refused {name : String} {r : Reader} {request response : Frame}
    (refused : ¬ r.Accepts name request response) : r.hear name (request, .ok response) = r := by
  rw [hear, if_neg refused]

/-- The request is for the page from the running offset on. -/
def Asks (opcode : Opcode) (slot : Nat) (r : Reader) (request : Frame) : Prop :=
  ∃ id, request = pageRequest opcode id slot r.bytes.length

end Reader

open Reader (hear Asks)

/-- A device that may answer anything. -/
def device (opcode : Opcode) (name : String) (slot : Nat) : Partner Reader Frame Answer :=
  Dialogue.listener (Asks opcode slot) (hear name)

/-! ## One page -/

theorem validateResponse_raises {request response : Frame} {error : ClientError}
    (refused : validateResponse response request = .error error) :
    isRuntimeMacroError error = true := by
  unfold validateResponse at refused
  split at refused
  next failure failed =>
    cases refused
    have member := firstFailure_mem failed
    simp only [responseChecks, List.map_cons, List.map_nil, List.mem_cons, List.not_mem_nil,
      or_false] at member
    rcases member with rfl | rfl | rfl | rfl | rfl | rfl | rfl <;> rfl
  · split at refused
    · split at refused <;> cases refused <;> rfl
    · cases refused

theorem validateResponse_length {request response : Frame} {length : Nat}
    (taken : validateResponse response request = .ok length) : length = response.payloadLength := by
  unfold validateResponse at taken
  split at taken
  · cases taken
  · split at taken
    · split at taken <;> cases taken
    · cases taken
      rfl

theorem pageChecks_raise {name : String} {previous : Option Nat} {requested : Nat}
    {response : Frame} {error : ClientError}
    (failed : firstFailure (pageChecks name previous requested response) = some error) :
    isRuntimeMacroError error = true := by
  have member := firstFailure_mem failed
  simp only [pageChecks, List.map_cons, List.map_nil, List.mem_cons, List.not_mem_nil,
    or_false] at member
  rcases member with rfl | rfl | rfl | rfl <;> rfl

/-- Whatever is answered to the call for a page, the reader is as it was until
the checks of the page are made. -/
theorem meets_pageCall {r : Reader} (small : slot ≤ 0xFF) (placed : r.bytes.length ≤ 0xFFFF) :
    (callWithTimeoutRetry retries fun id =>
        buildFrame opcode id slot [] r.bytes.length 0).Meets (device opcode name slot)
      (fun response _ r' => ∃ request,
        validateResponse response request = .ok response.payloadLength ∧
          r' = r.hear name (request, .ok response))
      (fun error _ r' => isRuntimeMacroError error = true ∧ r' = r) next r := by
  unfold callWithTimeoutRetry retryCall
  apply meets_attempts (fun _ r' => r' = r) _ retries rfl
  rintro next r' rfl
  rw [meets_bind, meets_requestId, meets_bind]
  dsimp only
  rw [buildFrame_ok opcode next small (by simp) placed (by decide), meets_fromExcept_ok, call,
    meets_bind, meets_exchange]
  refine ⟨⟨next, rfl⟩, ?_⟩
  intro answer r'' answered
  have heard : r'' = r'.hear name (pageRequest opcode next slot r'.bytes.length, answer) := answered
  rw [heard]
  cases answer with
  | error fault => exact ⟨⟨rfl, rfl⟩, fun _ => rfl⟩
  | ok response =>
    dsimp only
    split
    next length taken =>
      rw [validateResponse_length taken] at taken
      exact ⟨_, taken, rfl⟩
    next error refused =>
      have unheard : ¬ r'.Accepts name (pageRequest opcode next slot r'.bytes.length) response := by
        rintro ⟨taken, _⟩
        rw [pageRequest, refused] at taken
        cases taken
      rw [Reader.hear_refused unheard]
      have raised : isRuntimeMacroError (if error = .remoteError Status.badVersion.code
          then .legacyFirmwareError else error) = true := by
        split
        · rfl
        · exact validateResponse_raises refused
      exact ⟨⟨raised, rfl⟩, fun _ => rfl⟩

/-- The body of the loops: a page that continues what was read, or an error
after which nothing more was taken. -/
theorem meets_page {r : Reader} (small : slot ≤ 0xFF) (placed : r.bytes.length ≤ 0xFFFF)
    {wanted : Page r.total r.bytes.length → UInt8 → Reader → Prop}
    {raised : ClientError → UInt8 → Reader → Prop}
    (taken : ∀ (page : Page r.total r.bytes.length) next',
      r.bytes.length + page.bytes.length ≤ page.total →
      wanted page next' ⟨some page.total, r.bytes ++ page.bytes, r.pages + 1⟩)
    (failed : ∀ error next', isRuntimeMacroError error = true → raised error next' r) :
    (page retries opcode name slot r.total r.bytes.length).Meets (device opcode name slot) wanted
      raised next r := by
  rw [page, meets_bind]
  apply (@meets_pageCall opcode name slot retries next r small placed).mono
  · rintro response next' r' ⟨request, valid, rfl⟩
    split
    next error refused =>
      have unheard : ¬ r.Accepts name request response := by
        rintro ⟨_, passed⟩
        cases refused.symm.trans passed
      rw [Reader.hear_refused unheard]
      exact failed error next' (pageChecks_raise refused)
    next passed =>
      rw [Reader.hear_accepted ⟨valid, passed⟩]
      apply taken ⟨response.totalLength, response.payload response.payloadLength,
        response.totalLength_lt, page_same passed, page_progress passed⟩
      simp only [pageChecks, firstFailure_cons_eq_none, decide_eq_false_iff_not, not_not,
        firstFailure_nil, and_true] at passed
      obtain ⟨offset, _, inside, _⟩ := passed
      have length : (response.payload response.payloadLength).length ≤ response.payloadLength := by
        rw [Frame.payload, List.length_take]
        omega
      dsimp only
      omega
  · rintro error next' r' ⟨runtime, rfl⟩
    exact failed error next' runtime

/-! ## The loop -/

/-- Before an iteration: nothing is read yet, or part of an object, each page
at least a byte. -/
inductive Reading (r : Reader) : Prop
  | fresh (total : r.total = none) (bytes : r.bytes = []) (pages : r.pages = 0) : Reading r
  | within (total : Nat) (known : r.total = some total) (inside : r.bytes.length < total)
      (bounded : total < 65536) (pages : r.pages ≤ r.bytes.length) : Reading r

/-- At most one page a byte, and one for an empty object. -/
def Bounded (r : Reader) : Prop := r.pages ≤ max 1 (r.total.getD 0)

/-- The whole object. -/
structure Whole (total : Nat) (bytes : List UInt8) (r : Reader) : Prop where
  known : r.total = some total
  read : r.bytes = bytes
  length : bytes.length = total
  bounded : Bounded r

theorem Reading.bounded {r : Reader} (reading : Reading r) : Bounded r := by
  cases reading with
  | fresh _ _ pages =>
    rw [Bounded, pages]
    exact Nat.zero_le _
  | within total known inside _ pages =>
    rw [Bounded, known, Option.getD_some]
    omega

theorem Reading.placed {r : Reader} (reading : Reading r) : r.bytes.length ≤ 0xFFFF := by
  cases reading with
  | fresh _ bytes => simp [bytes]
  | within _ _ inside bounded => omega

/-- What a page makes of it: more is to come, or the object is whole. In either
case the page has brought at least one byte, or the object is empty. -/
theorem Reading.continued {r : Reader} (reading : Reading r) (page : Page r.total r.bytes.length)
    (inside : r.bytes.length + page.bytes.length ≤ page.total) :
    (r.bytes.length + page.bytes.length < page.total →
      Reading ⟨some page.total, r.bytes ++ page.bytes, r.pages + 1⟩) ∧
    (¬ r.bytes.length + page.bytes.length < page.total →
      Whole page.total (r.bytes ++ page.bytes)
        ⟨some page.total, r.bytes ++ page.bytes, r.pages + 1⟩) := by
  have progress : r.bytes.length < page.total → 0 < page.bytes.length :=
    fun below => List.length_pos_iff.mpr (page.progress below)
  have pages : r.pages ≤ r.bytes.length := by
    cases reading with
    | fresh _ _ pages => omega
    | within _ _ _ _ pages => exact pages
  constructor
  · intro more
    apply Reading.within page.total rfl
    · rw [List.length_append]
      exact more
    · exact page.bounded
    · dsimp only
      rw [List.length_append]
      have positive := progress (by omega)
      omega
  · intro last
    refine ⟨rfl, rfl, ?_, ?_⟩
    · rw [List.length_append]
      omega
    · -- An object that ends where the page was asked for is empty: it is the first page.
      simp only [Bounded, Option.getD_some]
      by_cases below : r.bytes.length < page.total
      · omega
      · cases reading with
        | fresh _ _ pages => omega
        | within total known inside' _ _ =>
          have same := page.same total known
          omega

/-- By induction along the recursion of `pages`, which ends because the offset
grows towards the total. -/
theorem meets_pages {r : Reader} (small : slot ≤ 0xFF) (reading : Reading r) :
    (pages retries opcode name slot r.total r.bytes.length r.bytes).Meets (device opcode name slot)
      (fun value _ r' => Whole value.1 value.2 r')
      (fun error _ r' => isRuntimeMacroError error = true ∧ Bounded r') next r := by
  -- The measure is that of the loop itself.
  generalize measure : r.total.getD 65536 - r.bytes.length = remaining
  induction remaining using Nat.strong_induction_on generalizing r next with
  | _ remaining ih =>
    rw [pages, meets_bind]
    apply meets_page small reading.placed
    · intro page next' inside
      obtain ⟨continues, ends⟩ := reading.continued page inside
      dsimp only
      split
      next more =>
        have again := continues more
        have positive : 0 < page.bytes.length := List.length_pos_iff.mpr (page.progress (by omega))
        have less : page.total - (r.bytes ++ page.bytes).length < remaining := by
          rw [← measure, List.length_append]
          cases reading with
          | fresh total bytes _ =>
            have bounded := page.bounded
            have unknown : r.total.getD 65536 = 65536 := by rw [total, Option.getD_none]
            omega
          | within total known _ _ _ =>
            have same := page.same total known
            have size : r.total.getD 65536 = total := by rw [known, Option.getD_some]
            omega
        have rest := @ih _ less next' _ again rfl
        rw [List.length_append] at rest
        exact rest
      next last => exact ends last
    · intro error next' runtime
      exact ⟨runtime, reading.bounded⟩

/-! ## The two methods -/

theorem validateAscii_ok {data : List UInt8} (accepted : validateAscii data = .ok ()) :
    ∀ byte ∈ data, Ascii.byteIsValid byte = true := by
  have table : ∀ n : Fin 256, textByte (.ofNat n.val) = true →
      Ascii.byteIsValid (.ofNat n.val) = true := by
    decide +kernel
  intro byte member
  unfold validateAscii at accepted
  split at accepted
  · cases accepted
  next none =>
    have text := List.find?_eq_none.mp none byte member
    have known := table ⟨byte.toNat, byte.toNat_lt⟩
    rw [UInt8.ofNat_toNat] at known
    exact known (by simpa using text)

theorem decodeText_ok {total : Nat} {result value : List UInt8}
    (decoded : decodeText total result = .ok value) :
    value = result ∧ ∀ byte ∈ value, Ascii.byteIsValid byte = true := by
  unfold decodeText at decoded
  split at decoded
  · cases decoded
  · split at decoded
    · cases decoded
    next accepted =>
      cases decoded
      exact ⟨rfl, validateAscii_ok accepted⟩

theorem decodeText_error {total : Nat} {result : List UInt8} {error : ClientError}
    (failed : decodeText total result = .error error) : isRuntimeMacroError error = true := by
  unfold decodeText at failed
  split at failed
  · cases failed
    rfl
  · split at failed <;> cases failed
    rfl

theorem decodeSlots_ok {total : Nat} {result : List UInt8} {value : List SlotInfo}
    (decoded : decodeSlots total result = .ok value) :
    value.length = (result.getD 0 0).toNat ∧ total = 1 + 2 * value.length := by
  unfold decodeSlots at decoded
  split at decoded
  · cases decoded
  · dsimp only at decoded
    split at decoded
    · cases decoded
    next whole =>
      cases decoded
      rw [List.length_map, List.length_range]
      exact ⟨rfl, by omega⟩

theorem decodeSlots_error {total : Nat} {result : List UInt8} {error : ClientError}
    (failed : decodeSlots total result = .error error) : isRuntimeMacroError error = true := by
  unfold decodeSlots at failed
  split at failed
  · cases failed
    rfl
  · dsimp only at failed
    split at failed <;> cases failed
    rfl

/-- What `get_slot` returns: the text that was read. -/
structure TextRead (value : List UInt8) (r : Reader) : Prop where
  total : r.total = some value.length
  bytes : r.bytes = value
  alphabet : ∀ byte ∈ value, Ascii.byteIsValid byte = true
  bounded : Bounded r

/-- What `list_slots` returns: an entry for each slot the object counts. -/
structure ListRead (value : List SlotInfo) (r : Reader) : Prop where
  total : r.total = some (1 + 2 * value.length)
  length : r.bytes.length = 1 + 2 * value.length
  count : (r.bytes.getD 0 0).toNat = value.length
  bounded : Bounded r

/-- A text is decoded from the bytes read, which are as many as the first page
promised. -/
theorem meets_getSlot (retries : Nat) {slot : Nat} (small : slot ≤ 0xFE) (next : UInt8) :
    (getSlot retries slot).Meets (device .get "GET" slot) (fun value _ r => TextRead value r)
      (fun error _ r => isRuntimeMacroError error = true ∧ Bounded r) next .fresh := by
  have valid : validateSlot slot = .ok () := if_pos small
  have reading : Reading .fresh := .fresh rfl rfl rfl
  rw [getSlot, meets_bind, valid, meets_fromExcept_ok, meets_bind]
  apply (@meets_pages .get "GET" slot retries next .fresh (by omega) reading).mono _
    fun _ _ _ failed => failed
  rintro ⟨total, result⟩ next' r whole
  apply meets_fromExcept_of
  · intro value decoded
    obtain ⟨rfl, alphabet⟩ := decodeText_ok decoded
    refine ⟨?_, whole.read, alphabet, whole.bounded⟩
    rw [whole.known, whole.length]
  · intro error failed
    exact ⟨decodeText_error failed, whole.bounded⟩

/-- The lengths are decoded from the bytes read, which are as many as the first
page promised. -/
theorem meets_listSlots (retries : Nat) (next : UInt8) :
    (listSlots retries).Meets (device .list "LIST" 0xFF) (fun value _ r => ListRead value r)
      (fun error _ r => isRuntimeMacroError error = true ∧ Bounded r) next .fresh := by
  have reading : Reading .fresh := .fresh rfl rfl rfl
  rw [listSlots, meets_bind]
  apply (@meets_pages .list "LIST" 0xFF retries next .fresh (by decide) reading).mono _
    fun _ _ _ failed => failed
  rintro ⟨total, result⟩ next' r whole
  apply meets_fromExcept_of
  · intro value decoded
    obtain ⟨count, length⟩ := decodeSlots_ok decoded
    have known := whole.known
    have read := whole.read
    have size := whole.length
    dsimp only at known read size
    refine ⟨?_, ?_, ?_, whole.bounded⟩
    · rw [known, length]
    · rw [read, size, length]
    · rw [read, count]
  · intro error failed
    exact ⟨decodeSlots_error failed, whole.bounded⟩

end RuntimeMacro.Guarantees.PagingRobustness
