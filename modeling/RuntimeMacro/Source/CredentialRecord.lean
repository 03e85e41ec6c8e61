import RuntimeMacro.Source.AuthCore

/-!
# The credential record

runtime_macro_auth.c:145-172. The stored record is the version octet, the
iteration count as a little-endian word, the salt and the key. Reading it back
gives the credential that was written.
-/
namespace RuntimeMacro.Source.AuthCore
open Foundations.LittleEndian

/-- Joining octets by shifts and ors is their little-endian value. -/
theorem or_shift_eq (low high width : Nat) (fits : low < 2 ^ width) :
    low ||| (high <<< width) = low + 2 ^ width * high := by
  rw [Nat.or_comm, ← Nat.shiftLeft_add_eq_or_of_lt fits, Nat.shiftLeft_eq]
  ring

theorem getLe32_eq (first second third fourth : UInt8) (rest : List UInt8) :
    getLe32 (first :: second :: third :: fourth :: rest) 0 =
      leValue [first, second, third, fourth] := by
  have a := first.toNat_lt
  have b := second.toNat_lt
  have c := third.toNat_lt
  have d := fourth.toNat_lt
  simp only [getLe32, List.getD_cons_zero, List.getD_cons_succ, leValue]
  rw [or_shift_eq _ _ 8 (by omega), or_shift_eq _ _ 16 (by omega), or_shift_eq _ _ 24 (by omega)]
  ring

theorem putLe32_eq (value : Nat) : putLe32 value = leBytes 4 value := by
  simp [putLe32, leBytes, Nat.shiftRight_eq_div_pow, Nat.div_div_eq_div_mul]

theorem getLe32_putLe32 (value : Nat) (fits : value < 2 ^ 32) (rest : List UInt8) :
    getLe32 (putLe32 value ++ rest) 0 = value := by
  have octets : putLe32 value ++ rest = UInt8.ofNat value :: UInt8.ofNat (value >>> 8) ::
      UInt8.ofNat (value >>> 16) :: UInt8.ofNat (value >>> 24) :: rest := rfl
  have listed : putLe32 value = [UInt8.ofNat value, UInt8.ofNat (value >>> 8),
      UInt8.ofNat (value >>> 16), UInt8.ofNat (value >>> 24)] := rfl
  rw [octets, getLe32_eq, ← listed, putLe32_eq, leValue_leBytes]
  exact Nat.mod_eq_of_lt fits

theorem getLe32_drop (source : List UInt8) (offset : Nat) :
    getLe32 source offset = getLe32 (source.drop offset) 0 := by
  simp [getLe32, List.getD_eq_getElem?_getD, List.getElem?_drop]

/-- Bytes laid behind a prefix are read back from its end. -/
theorem readBytes_append {n : Nat} (front rest : List UInt8) (data : Vector UInt8 n) :
    readBytes n (front ++ data.toList ++ rest) front.length = data := by
  apply Vector.ext
  intro index inside
  have within : front.length + index < (front ++ data.toList).length := by
    simp only [List.length_append, Vector.length_toList]
    omega
  simp only [readBytes, Vector.getElem_ofFn]
  rw [List.getD_eq_getElem?_getD, List.getElem?_append_left within,
    List.getElem?_append_right (Nat.le_add_right _ _), Nat.add_sub_cancel_left]
  simp [inside]

theorem deserialize_serialize (credential : Credential) (fits : credential.iterations < 2 ^ 32) :
    deserializeCredential (serializeCredential credential) = credential := by
  obtain ⟨iterations, salt, key⟩ := credential
  have word : getLe32 (serializeCredential ⟨iterations, salt, key⟩) 1 = iterations := by
    rw [getLe32_drop]
    exact getLe32_putLe32 iterations fits _
  have saltBytes : readBytes 16 (serializeCredential ⟨iterations, salt, key⟩) 5 = salt :=
    readBytes_append ([credentialVersion] ++ putLe32 iterations) key.toList salt
  have keyBytes : readBytes 32 (serializeCredential ⟨iterations, salt, key⟩) 21 = key := by
    have atEnd := readBytes_append ([credentialVersion] ++ putLe32 iterations ++ salt.toList) []
      key
    have length : ([credentialVersion] ++ putLe32 iterations ++ salt.toList).length = 21 := by
      simp [putLe32]
    rw [List.append_nil, length] at atEnd
    exact atEnd
  unfold deserializeCredential
  rw [word, saltBytes, keyBytes]

/-! ## Records read and written back -/

theorem putLe32_getLe32 (source : List UInt8) (whole : 4 ≤ source.length) :
    putLe32 (getLe32 source 0) = source.take 4 := by
  match source, whole with
  | first :: second :: third :: fourth :: rest, _ =>
    rw [getLe32_eq, putLe32_eq]
    exact leBytes_leValue [first, second, third, fourth]

theorem readBytes_toList (n : Nat) (source : List UInt8) (offset : Nat)
    (inside : offset + n ≤ source.length) :
    (readBytes n source offset).toList = (source.drop offset).take n := by
  apply List.ext_getElem
  · simp only [Vector.length_toList, List.length_take, List.length_drop]
    omega
  · intro index before after
    rw [Vector.length_toList] at before
    have within : offset + index < source.length := by omega
    simp [readBytes, List.getD_eq_getElem?_getD, within]

theorem readBytes_drop (n : Nat) (source : List UInt8) (front offset : Nat) :
    readBytes n (source.drop front) offset = readBytes n source (front + offset) := by
  apply Vector.ext
  intro index _
  simp [readBytes, List.getD_eq_getElem?_getD, Nat.add_assoc]

/-- Cells past what is read play no part in it. -/
theorem getD_take (source : List UInt8) {index length : Nat} (inside : index < length) :
    (source.take length).getD index 0 = source.getD index 0 := by
  simp [List.getD_eq_getElem?_getD, inside]

/-- A version 1 record of the full length is what its credential serialises
to. -/
theorem serialize_deserialize (record : List UInt8) (length : record.length = credentialStorageSize)
    (version : record.getD 0 0 = credentialVersion) :
    serializeCredential (deserializeCredential record) = record := by
  have whole : record.length = 53 := length
  have head : record.take 1 = [credentialVersion] := by
    match record, whole with
    | first :: _, _ => simpa using version
  have word : putLe32 (getLe32 record 1) = (record.drop 1).take 4 := by
    rw [getLe32_drop]
    apply putLe32_getLe32
    rw [List.length_drop]
    omega
  have salt : (readBytes 16 record 5).toList = (record.drop 5).take 16 :=
    readBytes_toList 16 record 5 (by omega)
  have key : (readBytes 32 record 21).toList = (record.drop 21).take 32 :=
    readBytes_toList 32 record 21 (by omega)
  have all : record.take 1 ++ (record.drop 1).take 4 ++ (record.drop 5).take 16 ++
      (record.drop 21).take 32 = record := by
    rw [← List.take_add, ← List.take_add, ← List.take_add]
    exact List.take_of_length_le (by omega)
  unfold serializeCredential deserializeCredential
  dsimp only
  rw [word, salt, key, ← head]
  exact all

end RuntimeMacro.Source.AuthCore
