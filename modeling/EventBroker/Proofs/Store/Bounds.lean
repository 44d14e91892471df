/-
Reading a record file stays within the file, and counts within a machine word.

`RecordFile.payload` takes parts of lists, which may end early, and numbers that have no bounds. Here the same is read
in the way of a machine: a sum must fit a word of 64 bits, nothing is taken from a smaller number, a slice must lie
within the bytes, a byte must be there, and a field of a fixed size is filled by a slice of that size only. Where one of
these fails there is no answer.

- `payload?_eq`, `decode?_eq`: there is an answer for all bytes that a machine can hold, and it is the one of
  `RecordFile.decode`. The length in the header is taken for a count only after it was found to be that of the record.
-/
import Mathlib.Algebra.Group.Nat.Defs
import EventBroker.Store.RecordFile

namespace EventBroker.RecordFile

/-- a sum, if it fits a word -/
def add? (a b : Nat) : Option Nat := if a + b < 2 ^ 64 then some (a + b) else none

/-- a difference, if there is one -/
def sub? (a b : Nat) : Option Nat := if b ≤ a then some (a - b) else none

/-- the bytes from one place to another, if both are within -/
def slice? (bytes : List UInt8) (first last : Nat) : Option (List UInt8) :=
  if first ≤ last ∧ last ≤ bytes.length then some ((bytes.drop first).take (last - first)) else none

/-- a field of this size, if the bytes fill it -/
def field? (size : Nat) (bytes : List UInt8) : Option (List UInt8) := if bytes.length = size then some bytes else none

/-- the bytes of the record in a file, read with every bound checked -/
def payload? (bytes : List UInt8) : Option (Except BrokerError (List UInt8)) := do
  if bytes.length < (← add? headerLength checksumLength) then
    return .error (.invalidFormat "Truncated subscription record")
  else if (← slice? bytes 0 4) != mark then return .error (.invalidFormat "Invalid subscription magic")
  else
    let found ← bytes[4]?
    if found != version then
      return .error (.invalidFormat ("Unsupported subscription version: " ++ toString found.toNat))
    else
      let length := ofLittleEndian (← field? 8 (← slice? bytes 5 headerLength))
      if length != (← sub? (← sub? bytes.length headerLength) checksumLength) then
        return .error (.invalidFormat "Subscription record length mismatch")
      else
        let last ← add? headerLength length
        let record ← slice? bytes headerLength last
        let stored := UInt32.ofNat (ofLittleEndian (← field? checksumLength (← slice? bytes last bytes.length)))
        let computed := Checksum.crc32 record
        if stored != computed then return .error (.checksumMismatch stored computed) else return .ok record

/-- the record in a file, read with every bound checked -/
def decode? (bytes : List UInt8) : Option (Except BrokerError SubscriptionRecord) := do
  match ← payload? bytes with
  | .error e => return .error e
  | .ok record =>
    match MessagePack.read record >>= SubscriptionRecord.ofDatum? with
    | some r => return .ok r
    | none => return .error (.deserialization .foreign)

theorem add?_eq {a b : Nat} (h : a + b < 2 ^ 64) : add? a b = some (a + b) := if_pos h

theorem sub?_eq {a b : Nat} (h : b ≤ a) : sub? a b = some (a - b) := if_pos h

theorem slice?_eq {bytes : List UInt8} {first last : Nat} (h : first ≤ last) (h' : last ≤ bytes.length) :
    slice? bytes first last = some ((bytes.drop first).take (last - first)) := if_pos ⟨h, h'⟩

theorem field?_eq {size : Nat} {bytes : List UInt8} (h : bytes.length = size) : field? size bytes = some bytes :=
  if_pos h

section File

variable {bytes : List UInt8} (h : headerLength + checksumLength ≤ bytes.length)

include h

theorem slice?_mark : slice? bytes 0 4 = some (bytes.take 4) := by
  simp only [headerLength, checksumLength] at h
  rw [slice?_eq (Nat.zero_le 4) (by omega), List.drop_zero]

theorem getElem?_version : bytes[4]? = some ((bytes.drop 4).headD 0) := by
  simp only [headerLength, checksumLength] at h
  rw [List.headD_eq_head?_getD, List.head?_drop, List.getElem?_eq_getElem (by omega)]
  rfl

theorem field?_length : (slice? bytes 5 headerLength).bind (field? 8) = some ((bytes.drop 5).take 8) := by
  simp only [headerLength, checksumLength] at h ⊢
  rw [slice?_eq (by omega) (by omega), Option.bind_some]
  refine field?_eq ?_
  rw [List.length_take, List.length_drop]
  omega

theorem sub?_available : (sub? bytes.length headerLength).bind (sub? · checksumLength) =
    some ((bytes.drop headerLength).length - checksumLength) := by
  simp only [headerLength, checksumLength] at h ⊢
  rw [sub?_eq (by omega), Option.bind_some, List.length_drop]
  exact sub?_eq (by omega)

theorem add?_last (hroom : bytes.length < 2 ^ 64) :
    add? headerLength ((bytes.drop headerLength).length - checksumLength) = some (bytes.length - checksumLength) := by
  simp only [headerLength, checksumLength] at h ⊢
  rw [List.length_drop, add?_eq (by omega)]
  exact congrArg some (by omega)

theorem slice?_record : slice? bytes headerLength (bytes.length - checksumLength) =
    some ((bytes.drop headerLength).take ((bytes.drop headerLength).length - checksumLength)) := by
  simp only [headerLength, checksumLength] at h ⊢
  rw [slice?_eq (by omega) (by omega), List.length_drop, Nat.sub_right_comm]

theorem field?_checksum :
    (slice? bytes (bytes.length - checksumLength) bytes.length).bind (field? checksumLength) =
      some ((bytes.drop headerLength).drop ((bytes.drop headerLength).length - checksumLength)) := by
  simp only [headerLength, checksumLength] at h ⊢
  have hlast : 13 + (bytes.length - 13 - 4) = bytes.length - 4 := by omega
  have hsize : (bytes.drop (bytes.length - 4)).length = 4 := by
    rw [List.length_drop]
    omega
  rw [slice?_eq (by omega) (Nat.le_refl _), Option.bind_some, List.length_drop, List.drop_drop, hlast,
    List.take_of_length_le (by rw [hsize]; omega)]
  exact field?_eq hsize

end File

/-- **Within bounds.** No bound is broken on any bytes, and what is found is what `payload` finds. -/
theorem payload?_eq {bytes : List UInt8} (hroom : bytes.length < 2 ^ 64) : payload? bytes = some (payload bytes) := by
  have hsum : add? headerLength checksumLength = some (headerLength + checksumLength) := add?_eq (by decide)
  unfold payload? payload
  rw [hsum, Option.bind_eq_bind, Option.bind_some]
  by_cases hshort : bytes.length < headerLength + checksumLength
  · rw [if_pos hshort, if_pos hshort]
    rfl
  have h : headerLength + checksumLength ≤ bytes.length := Nat.le_of_not_lt hshort
  rw [if_neg hshort, if_neg hshort, slice?_mark h, Option.bind_eq_bind, Option.bind_some]
  by_cases hmark : (bytes.take 4 != mark) = true
  · rw [if_pos hmark, if_pos hmark]
    rfl
  rw [if_neg hmark, if_neg hmark, getElem?_version h, Option.bind_eq_bind, Option.bind_some]
  dsimp only
  by_cases hversion : ((bytes.drop 4).headD 0 != version) = true
  · rw [if_pos hversion, if_pos hversion]
    rfl
  rw [if_neg hversion, if_neg hversion, ← Option.bind_assoc, field?_length h, Option.bind_some, ← Option.bind_assoc,
    sub?_available h, Option.bind_some]
  by_cases hlength : (ofLittleEndian ((bytes.drop 5).take 8) !=
      (bytes.drop headerLength).length - checksumLength) = true
  · rw [if_pos hlength, if_pos hlength]
    rfl
  -- from here on the length in the header is the one that the file has
  have hcount : ofLittleEndian ((bytes.drop 5).take 8) = (bytes.drop headerLength).length - checksumLength := by
    simpa using hlength
  rw [if_neg hlength, if_neg hlength, hcount, add?_last h hroom, Option.bind_some, slice?_record h, Option.bind_some,
    ← Option.bind_assoc, field?_checksum h, Option.bind_some]
  split <;> rfl

theorem decode?_eq {bytes : List UInt8} (h : bytes.length < 2 ^ 64) : decode? bytes = some (decode bytes) := by
  unfold decode? decode
  rw [payload?_eq h]
  cases payload bytes with
  | error e => rfl
  | ok record =>
    simp only [bind, Option.bind_some, Except.bind]
    cases (MessagePack.read record).bind SubscriptionRecord.ofDatum? <;> rfl

end EventBroker.RecordFile
