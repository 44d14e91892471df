/-
A damaged record file is not read.

- `payload_eq_ok_iff`: bytes are found in a file just if the file is the one that wraps them. So the checks of
  `RecordFile.payload` leave nothing of a file open.
- `Damage`: what may become of a file. It is cut, something is put behind it, or one of its bytes is another.
- `payload_damaged`: no bytes are found in such a file. Its length does not agree with the length in its header, or
  its header is no header of that length, or the checksum is one of other bytes (`Checksum.crc32_burst`).
- `damaged_unread`: so no subscription is read from a damaged file of a subscription.
-/
import EventBroker.Proofs.Checksum
import EventBroker.Proofs.Store.Keyed
import EventBroker.Proofs.Store.RecordOrder

namespace EventBroker

namespace RecordFile

/-! ## What a file can be -/

theorem ofLittleEndian_lt (bs : List UInt8) : ofLittleEndian bs < 256 ^ bs.length := by
  induction bs with
  | nil => simp [ofLittleEndian]
  | cons b bs ih =>
    have hb : b.toNat < 256 := b.toNat_lt
    rw [ofLittleEndian, List.length_cons, Nat.pow_succ]
    omega

theorem littleEndian_ofLittleEndian (bs : List UInt8) : littleEndian bs.length (ofLittleEndian bs) = bs := by
  induction bs with
  | nil => rfl
  | cons b bs ih =>
    have hb : b.toNat < 256 := b.toNat_lt
    have hlow : UInt8.ofNat (b.toNat + 256 * ofLittleEndian bs) = b := by
      refine UInt8.toNat_inj.1 ?_
      rw [UInt8.toNat_ofNat']
      omega
    have hhigh : (b.toNat + 256 * ofLittleEndian bs) / 256 = ofLittleEndian bs := by omega
    rw [List.length_cons, ofLittleEndian, littleEndian, hlow, hhigh, ih]

theorem littleEndian_injective {count m n : Nat} (hm : m < 256 ^ count) (hn : n < 256 ^ count)
    (h : littleEndian count m = littleEndian count n) : m = n := by
  rw [← ofLittleEndian_littleEndian hm, h, ofLittleEndian_littleEndian hn]

/-- what stands before a record of some length -/
def header (length : Nat) : List UInt8 := mark ++ version :: littleEndian 8 length

/-- what stands behind a record -/
def trailer (p : List UInt8) : List UInt8 := littleEndian checksumLength (Checksum.crc32 p).toNat

theorem header_length (n : Nat) : (header n).length = headerLength := by
  simp [header, littleEndian_length, mark, headerLength]

theorem trailer_length (p : List UInt8) : (trailer p).length = checksumLength := littleEndian_length _ _

theorem wrap_parts (p : List UInt8) : wrap p = header p.length ++ (p ++ trailer p) := by simp [wrap, header, trailer]

theorem wrap_length (p : List UInt8) : (wrap p).length = headerLength + (p.length + checksumLength) := by
  rw [wrap_parts, List.length_append, List.length_append, header_length, trailer_length]

theorem header_injective {m n : Nat} (hm : m < 2 ^ 64) (hn : n < 2 ^ 64) (h : header m = header n) : m = n := by
  rw [header, header, List.append_cancel_left_eq, List.cons.injEq] at h
  exact littleEndian_injective (by omega) (by omega) h.2

theorem trailer_injective {p q : List UInt8} (h : trailer p = trailer q) : Checksum.crc32 p = Checksum.crc32 q :=
  UInt32.toNat_inj.1 (littleEndian_injective (Checksum.crc32 p).toNat_lt (Checksum.crc32 q).toNat_lt h)

/-- a file has one header only -/
theorem length_eq_of_take {p q : List UInt8} (hp : p.length < 2 ^ 64) (hq : q.length < 2 ^ 64)
    (h : (wrap q).take headerLength = (wrap p).take headerLength) : q.length = p.length := by
  rw [wrap_parts, wrap_parts, List.take_left' (header_length _), List.take_left' (header_length _)] at h
  exact header_injective hq hp h

/-- the bytes that are found in a file are those that it wraps -/
theorem eq_wrap_of_payload {bytes p : List UInt8} (h : payload bytes = .ok p) :
    bytes = wrap p ∧ p.length < 2 ^ 64 := by
  unfold payload at h
  split at h
  · cases h
  rename_i hsize
  split at h
  · cases h
  rename_i hmark
  simp only at h
  split at h
  · cases h
  rename_i hversion
  split at h
  · cases h
  rename_i hlength
  split at h
  · cases h
  rename_i hcrc
  simp only [bne_iff_ne, ne_eq, Decidable.not_not] at hmark hversion hlength hcrc
  generalize hrest : bytes.drop headerLength = rest at *
  have hcount : rest.length = bytes.length - headerLength := by rw [← hrest, List.length_drop]
  have hp : rest.take (rest.length - checksumLength) = p := Except.ok.inj h
  have hplength : p.length = rest.length - checksumLength := by
    rw [← hp, List.length_take]
    omega
  have hheadLength : ((bytes.drop 5).take 8).length = 8 := by
    rw [List.length_take, List.length_drop]
    simp only [headerLength, checksumLength] at hsize
    omega
  have htailLength : (rest.drop (rest.length - checksumLength)).length = checksumLength := by
    rw [List.length_drop]
    simp only [headerLength, checksumLength] at hsize hcount ⊢
    omega
  have hfield : littleEndian 8 p.length = (bytes.drop 5).take 8 := by
    have := littleEndian_ofLittleEndian ((bytes.drop 5).take 8)
    rwa [hheadLength, hlength, ← hplength] at this
  have hstored : (Checksum.crc32 p).toNat = ofLittleEndian (rest.drop (rest.length - checksumLength)) := by
    have hlt := ofLittleEndian_lt (rest.drop (rest.length - checksumLength))
    rw [htailLength] at hlt
    rw [← hp, ← hcrc, UInt32.toNat_ofNat_of_lt' hlt]
  have htrailer : trailer p = rest.drop (rest.length - checksumLength) := by
    have := littleEndian_ofLittleEndian (rest.drop (rest.length - checksumLength))
    rwa [htailLength, ← hstored] at this
  have hversionAt : bytes.drop 4 = version :: bytes.drop 5 := by
    have hdrop : (bytes.drop 4).length ≠ 0 := by
      rw [List.length_drop]
      simp only [headerLength, checksumLength] at hsize
      omega
    cases hbehind : bytes.drop 4 with
    | nil => simp [hbehind] at hdrop
    | cons b bs =>
      rw [hbehind] at hversion
      have hnext : bytes.drop 5 = bs := by rw [← List.drop_drop (i := 1) (j := 4), hbehind]; rfl
      rw [hnext, ← hversion]
      rfl
  refine ⟨?_, ?_⟩
  · calc bytes = bytes.take 4 ++ bytes.drop 4 := (List.take_append_drop 4 bytes).symm
      _ = mark ++ version :: bytes.drop 5 := by rw [hmark, hversionAt]
      _ = mark ++ version :: ((bytes.drop 5).take 8 ++ (bytes.drop 5).drop 8) := by rw [List.take_append_drop]
      _ = mark ++ version :: (littleEndian 8 p.length ++ rest) := by
          rw [hfield, List.drop_drop, ← hrest]
          rfl
      _ = mark ++ version :: (littleEndian 8 p.length ++ (p ++ trailer p)) := by
          rw [htrailer, ← hp, List.take_append_drop]
      _ = wrap p := by simp [wrap, trailer]
  · have hlt := ofLittleEndian_lt ((bytes.drop 5).take 8)
    rw [hheadLength, hlength, ← hplength] at hlt
    omega

/-- **A file is one that wraps the bytes found in it**, and no other file holds them. -/
theorem payload_eq_ok_iff {bytes p : List UInt8} : payload bytes = .ok p ↔ bytes = wrap p ∧ p.length < 2 ^ 64 := by
  constructor
  · exact eq_wrap_of_payload
  · rintro ⟨rfl, hp⟩
    exact payload_wrap hp

/-! ## Damage -/

/-- What may have become of a file. -/
inductive Damage (bytes : List UInt8) : List UInt8 → Prop where
  /-- its end is missing -/
  | cut {n : Nat} (h : n < bytes.length) : Damage bytes (bytes.take n)
  /-- something stands behind it -/
  | extended {extra : List UInt8} (h : extra ≠ []) : Damage bytes (bytes ++ extra)
  /-- one byte is another -/
  | changed {i : Nat} {b : UInt8} (hi : i < bytes.length) (hb : b ≠ bytes[i]) : Damage bytes (bytes.set i b)

variable {p q : List UInt8}

/-- a file that begins with the header of another one has its length -/
theorem length_of_header (hp : p.length < 2 ^ 64) (hq : q.length < 2 ^ 64)
    (h : (wrap q).take headerLength = (wrap p).take headerLength) : (wrap q).length = (wrap p).length := by
  rw [wrap_length, wrap_length, length_eq_of_take hp hq h]

theorem wrap_ne_take (hp : p.length < 2 ^ 64) (hq : q.length < 2 ^ 64) {n : Nat} (hn : n < (wrap p).length) :
    wrap q ≠ (wrap p).take n := by
  intro h
  have hsize : (wrap q).length = n := by
    rw [h, List.length_take]
    omega
  have hheader : headerLength ≤ n := by
    rw [← hsize, wrap_length]
    omega
  have hsame : (wrap q).take headerLength = (wrap p).take headerLength := by
    rw [h, List.take_take, Nat.min_eq_left hheader]
  have := length_of_header hp hq hsame
  omega

theorem wrap_ne_append (hp : p.length < 2 ^ 64) (hq : q.length < 2 ^ 64) {extra : List UInt8} (hextra : extra ≠ []) :
    wrap q ≠ wrap p ++ extra := by
  intro h
  have hheader : headerLength ≤ (wrap p).length := by
    rw [wrap_length]
    omega
  have hsame : (wrap q).take headerLength = (wrap p).take headerLength := by
    rw [h, List.take_append_of_le_length hheader]
  have hsize := length_of_header hp hq hsame
  rw [h, List.length_append] at hsize
  exact hextra (List.length_eq_zero_iff.1 (by omega))

/-- a byte of a record cannot be changed under its checksum -/
theorem crc32_set_ne {i : Nat} {b : UInt8} (hi : i < p.length) (hb : b ≠ p[i]) :
    Checksum.crc32 (p.set i b) ≠ Checksum.crc32 p := by
  have hchanged : p.set i b = p.take i ++ [b] ++ p.drop (i + 1) := by
    rw [List.set_eq_take_append_cons_drop, if_pos hi, List.append_assoc]
    rfl
  have hwhole : p = p.take i ++ [p[i]] ++ p.drop (i + 1) := by simp
  have hburst : Checksum.crc32 (p.take i ++ [b] ++ p.drop (i + 1)) ≠
      Checksum.crc32 (p.take i ++ [p[i]] ++ p.drop (i + 1)) :=
    Checksum.crc32_burst (p.take i) (p.drop (i + 1)) rfl (by simp) (by simpa using hb)
  rwa [← hchanged, ← hwhole] at hburst

theorem wrap_ne_set {i : Nat} {b : UInt8} (hi : i < (wrap p).length) (hb : b ≠ (wrap p)[i]) :
    wrap q ≠ (wrap p).set i b := by
  intro h
  have hlength : q.length = p.length := by
    have := congrArg List.length h
    rw [List.length_set, wrap_length, wrap_length] at this
    omega
  have hdiffers : wrap q ≠ wrap p := by
    intro hsame
    have hat : (wrap p)[i]? = some b := by rw [← hsame, h, List.getElem?_set_self hi]
    rw [List.getElem?_eq_getElem hi] at hat
    exact hb (Option.some.inj hat).symm
  -- the byte is one of the header, of the record or of the checksum
  rw [wrap_parts p, wrap_parts q, hlength, List.set_append, header_length] at h
  split at h
  case isTrue =>
    have hrest := (List.append_inj h (by rw [List.length_set])).2
    exact hdiffers (by rw [wrap_parts p, wrap_parts q, hrest, hlength])
  case isFalse =>
    have hrest := List.append_cancel_left h
    rw [List.set_append] at hrest
    split at hrest
    case isTrue hin =>
      obtain ⟨hrecord, htrailer⟩ := List.append_inj hrest (by rw [List.length_set, hlength])
      have hsum := trailer_injective htrailer
      rw [hrecord] at hsum
      refine crc32_set_ne hin ?_ hsum
      rintro rfl
      rw [List.set_getElem_self] at hrecord
      exact hdiffers (by rw [hrecord])
    case isFalse =>
      have hrecord := (List.append_inj hrest hlength).1
      exact hdiffers (by rw [hrecord])

theorem wrap_ne_damaged (hp : p.length < 2 ^ 64) (hq : q.length < 2 ^ 64) {bytes : List UInt8}
    (h : Damage (wrap p) bytes) : wrap q ≠ bytes := by
  cases h with
  | cut hn => exact wrap_ne_take hp hq hn
  | extended hextra => exact wrap_ne_append hp hq hextra
  | changed hi hb => exact wrap_ne_set hi hb

/-- no bytes are found in a damaged file -/
theorem payload_damaged (hp : p.length < 2 ^ 64) {bytes : List UInt8} (h : Damage (wrap p) bytes) :
    ∃ e, payload bytes = .error e := by
  cases hfound : payload bytes with
  | error e => exact ⟨e, rfl⟩
  | ok q =>
    obtain ⟨hbytes, hq⟩ := payload_eq_ok_iff.1 hfound
    exact absurd hbytes.symm (wrap_ne_damaged hp hq h)

theorem decode_eq_error {bytes : List UInt8} {e : BrokerError} (h : payload bytes = .error e) :
    decode bytes = .error e := by
  unfold decode
  rw [h]
  rfl

end RecordFile

namespace FileStore

variable {f : FileStore} {id : String} {bytes : List UInt8} {e : BrokerError}

/-- a store fails to read a file that cannot be decoded -/
theorem readRecord_undecoded (hread : f.disk.read (f.recordPath id) = .ok bytes)
    (he : RecordFile.decode bytes = .error e) : ∃ e', f.readRecord id = .error e' := by
  unfold readRecord
  split
  · exact ⟨_, rfl⟩
  · refine ⟨e, ?_⟩
    rw [hread]
    simp only [he]
    rfl

/-- such a file is as good as none -/
theorem get_undecoded (hread : f.disk.read (f.recordPath id) = .ok bytes) (he : RecordFile.decode bytes = .error e)
    (hcache : f.cache.find? id = none) : (f.get id).1 = none := by
  obtain ⟨e', he'⟩ := readRecord_undecoded hread he
  unfold get load Cache.use
  rw [hcache]
  simp only [he']

end FileStore

/-- **Damage is seen.** Of a subscription that has a file, in whatever order its delivery parameters were written: if
the file is cut anywhere, if anything is put behind it, or if any one of its bytes is another, then decoding it fails,
and a store that finds it on its disk reads no subscription from it. The checksum in the file is the CRC-32 of IEEE
802.3. -/
theorem Subscription.damaged_unread {s : Subscription} {bytes : List UInt8} (hbytes : s.WrittenAs bytes)
    (hroom : bytes.length < 2 ^ 64) :
    (∀ damaged, RecordFile.Damage bytes damaged →
      (∃ e, RecordFile.decode damaged = .error e) ∧
      ∀ (f : FileStore) (id : String), f.disk.read (f.recordPath id) = .ok damaged →
        (∃ e, f.readRecord id = .error e) ∧ (f.cache.find? id = none → (f.get id).1 = none)) ∧
    ∃ (p : List UInt8) (c : UInt32), RecordFile.payload bytes = .ok p ∧ Checksum.IsCrc32 p c ∧
      bytes = RecordFile.header p.length ++ (p ++ RecordFile.littleEndian RecordFile.checksumLength c.toNat) := by
  obtain ⟨order, -, rfl⟩ := hbytes
  generalize hp : MessagePack.write (s.toRecord.toDatumIn order) = p
  have hfile : RecordFile.encodeIn order s.toRecord = RecordFile.wrap p := by rw [RecordFile.encodeIn, hp]
  rw [hfile] at hroom ⊢
  have hlength : p.length < 2 ^ 64 := by
    rw [RecordFile.wrap_length] at hroom
    omega
  refine ⟨?_, p, Checksum.crc32 p, RecordFile.payload_wrap hlength, Checksum.isCrc32_crc32 p, RecordFile.wrap_parts p⟩
  intro damaged hdamage
  obtain ⟨e, he⟩ := RecordFile.payload_damaged hlength hdamage
  have hdecode := RecordFile.decode_eq_error he
  refine ⟨⟨e, hdecode⟩, ?_⟩
  intro f id hread
  exact ⟨FileStore.readRecord_undecoded hread hdecode, FileStore.get_undecoded hread hdecode⟩

/-- cut within its header, with a byte too many, and with one byte of the record changed -/
theorem Subscription.plain_damaged :
    let bytes := RecordFile.encode FileStore.plain.toRecord
    (∃ e, RecordFile.decode (bytes.take 9) = .error e) ∧ (∃ e, RecordFile.decode (bytes ++ [0]) = .error e) ∧
      ∃ e, RecordFile.decode (bytes.set 20 0) = .error e := by
  intro bytes
  have hlength : bytes.length = RecordFile.headerLength +
      ((MessagePack.write FileStore.plain.toRecord.toDatum).length + RecordFile.checksumLength) :=
    RecordFile.wrap_length _
  have hrecord : (MessagePack.write FileStore.plain.toRecord.toDatum).length = 31 := by decide
  have hroom : bytes.length < 2 ^ 64 := by
    rw [hlength, hrecord]
    decide
  have hinside : 20 < bytes.length := by
    rw [hlength, hrecord]
    decide
  have hunread := (damaged_unread FileStore.plain.writtenAs_encode hroom).1
  refine ⟨(hunread _ (.cut ?_)).1, (hunread _ (.extended (by simp))).1, (hunread _ (.changed hinside ?_)).1⟩
  · exact Nat.lt_trans (by decide) hinside
  · intro hsame
    have hbyte : bytes[20]? = some 0 := by rw [List.getElem?_eq_getElem hinside, ← hsame]
    exact absurd hbyte (by decide)

end EventBroker
