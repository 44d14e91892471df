/-
UTF-8 as bytes: reading them strictly, saying where they go wrong, and reading them with replacement.

`bytes` and `text?` are inverse to each other (`text?_bytes`). Bytes that are no text are cut into pieces: characters,
maximal parts that begin no character, and a last character that is cut off. `firstFault` reports the first piece that
is no character, and `lossy` writes U+FFFD for each of them.
-/

namespace EventBroker.Text.Utf8

/-- the bytes of a text -/
def bytes (s : String) : List UInt8 := s.toByteArray.data.toList

/-- the text that some bytes are, if they are one -/
def text? (b : List UInt8) : Option String := String.fromUTF8? ⟨b.toArray⟩

theorem text?_bytes (s : String) : text? (bytes s) = some s := by
  have h : ByteArray.IsValidUTF8 ⟨(bytes s).toArray⟩ := by
    simpa [bytes] using s.isValidUTF8
  rw [text?, String.fromUTF8?, dif_pos h]
  rfl

theorem bytes_of_text? {b : List UInt8} {s : String} (h : text? b = some s) : bytes s = b := by
  rw [text?, String.fromUTF8?] at h
  split at h
  · cases h
    simp [bytes, String.fromUTF8]
  · cases h

/-- what stands at the front of some bytes -/
inductive Piece where
  /-- a whole character -/
  | char (c : Char)
  /-- bytes that begin no character, and how many -/
  | bad (count : Nat)
  /-- the beginning of a character, and then the end -/
  | cut
  deriving DecidableEq

/-- the second bytes that may follow a first byte, as a range, and how many bytes follow in all -/
def follow? (b : UInt8) : Option (UInt8 × UInt8 × Nat) :=
  if 0xC2 ≤ b ∧ b ≤ 0xDF then some (0x80, 0xBF, 1)
  else if b = 0xE0 then some (0xA0, 0xBF, 2)
  else if b = 0xED then some (0x80, 0x9F, 2)
  else if 0xE1 ≤ b ∧ b ≤ 0xEF then some (0x80, 0xBF, 2)
  else if b = 0xF0 then some (0x90, 0xBF, 3)
  else if 0xF1 ≤ b ∧ b ≤ 0xF3 then some (0x80, 0xBF, 3)
  else if b = 0xF4 then some (0x80, 0x8F, 3)
  else none

/-- the six bits that a following byte carries, above those read so far -/
def addBits (n : Nat) (b : UInt8) : Nat := n * 64 + (b.toNat - 0x80)

/-- read `owed` more following bytes of a character of which `n` is read and `used` bytes are passed -/
def tail (n used : Nat) : (owed : Nat) → List UInt8 → Piece × Nat
  | 0, _ => (.char (Char.ofNat n), used)
  | _ + 1, [] => (.cut, used)
  | owed + 1, b :: rest =>
    if 0x80 ≤ b ∧ b ≤ 0xBF then tail (addBits n b) (used + 1) owed rest else (.bad used, used)

/-- the bits of a first byte -/
def leadBits (b : UInt8) : Nat → Nat
  | 1 => b.toNat - 0xC0
  | 2 => b.toNat - 0xE0
  | _ => b.toNat - 0xF0

/-- the piece at the front, and the number of its bytes -/
def front (b : UInt8) (rest : List UInt8) : Piece × Nat :=
  if b < 0x80 then (.char (Char.ofNat b.toNat), 1)
  else
    match follow? b with
    | none => (.bad 1, 1)
    | some (lo, hi, owed) =>
      match rest with
      | [] => (.cut, 1)
      | c :: rest' =>
        if lo ≤ c ∧ c ≤ hi then tail (addBits (leadBits b owed) c) 2 (owed - 1) rest' else (.bad 1, 1)

/-- all pieces, each with the place where it begins -/
def pieces (place : Nat) : List UInt8 → List (Nat × Piece)
  | [] => []
  | b :: rest =>
    let (p, n) := front b rest
    (place, p) :: pieces (place + n) (rest.drop (n - 1))
  termination_by bs => bs.length
  decreasing_by simp only [List.length_drop, List.length_cons]; omega

/-- where the bytes stop being a text, and why, in words -/
def faultWords : Nat × Piece → Option String
  | (_, .char _) => none
  | (i, .bad n) => some ("invalid utf-8 sequence of " ++ toString n ++ " bytes from index " ++ toString i)
  | (i, .cut) => some ("incomplete utf-8 byte sequence from index " ++ toString i)

/-- the first fault of some bytes -/
def firstFault (bs : List UInt8) : Option String :=
  (pieces 0 bs).findSome? faultWords

/-- the character that stands for a piece -/
def Piece.shown : Piece → Char
  | .char c => c
  | _ => Char.ofNat 0xFFFD

/-- the bytes as a text, with U+FFFD for every piece that is no character -/
def lossy (bs : List UInt8) : String :=
  match text? bs with
  | some s => s
  | none => String.ofList ((pieces 0 bs).map fun p => p.2.shown)

end EventBroker.Text.Utf8
