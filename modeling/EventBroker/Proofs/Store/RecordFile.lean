/-
A record file holds the record that it was made of.

The length of a record is told in eight bytes, and its checksum in four. `decode_encode` is the round trip, for every
record that fits the format; `decode_encode_deep` says that no record is read back whose parameters are nested deeper
than the format allows.
-/
import EventBroker.Proofs.Subscription.Record
import EventBroker.Store.RecordFile

namespace EventBroker.RecordFile

theorem littleEndian_length (count n : Nat) : (littleEndian count n).length = count := by
  induction count generalizing n with
  | zero => rfl
  | succ count ih => rw [littleEndian, List.length_cons, ih]

theorem ofLittleEndian_littleEndian {count n : Nat} (h : n < 256 ^ count) :
    ofLittleEndian (littleEndian count n) = n := by
  induction count generalizing n with
  | zero =>
    have : n = 0 := by simpa using h
    rw [this]
    rfl
  | succ count ih =>
    have hdiv : n / 256 < 256 ^ count := by
      rw [Nat.pow_succ] at h
      exact Nat.div_lt_of_lt_mul (by omega)
    rw [littleEndian, ofLittleEndian, ih hdiv, UInt8.toNat_ofNat']
    omega

/-- the parts of a file -/
theorem wrap_eq (p : List UInt8) :
    wrap p = mark ++ ([version] ++ (littleEndian 8 p.length ++ (p ++
      littleEndian checksumLength (Checksum.crc32 p).toNat))) := by
  simp [wrap]

theorem payload_wrap {p : List UInt8} (h : p.length < 2 ^ 64) : payload (wrap p) = .ok p := by
  have hmark : (wrap p).take 4 = mark := by
    rw [wrap_eq]
    exact List.take_left' rfl
  have hbehindMark : (wrap p).drop 4 = [version] ++ (littleEndian 8 p.length ++ (p ++
      littleEndian checksumLength (Checksum.crc32 p).toNat)) := by
    rw [wrap_eq]
    exact List.drop_left' rfl
  have hbehindVersion : (wrap p).drop 5 = littleEndian 8 p.length ++ (p ++
      littleEndian checksumLength (Checksum.crc32 p).toNat) := by
    rw [wrap_eq, ← List.append_assoc]
    exact List.drop_left' rfl
  have hversion : ((wrap p).drop 4).headD 0 = version := by
    rw [hbehindMark]
    rfl
  have hlength : ((wrap p).drop 5).take 8 = littleEndian 8 p.length := by
    rw [hbehindVersion]
    exact List.take_left' (littleEndian_length 8 _)
  have hrest : (wrap p).drop headerLength = p ++ littleEndian checksumLength (Checksum.crc32 p).toNat := by
    rw [wrap_eq, ← List.append_assoc, ← List.append_assoc]
    refine List.drop_left' ?_
    simp [littleEndian_length, mark, headerLength]
  have hsize : (wrap p).length = headerLength + checksumLength + p.length := by
    rw [wrap_eq]
    simp only [List.length_append, littleEndian_length, mark, headerLength, checksumLength, List.length_cons,
      List.length_nil]
    omega
  have hfits : p.length < 256 ^ 8 := by omega
  have hcrc : (Checksum.crc32 p).toNat < 256 ^ checksumLength := (Checksum.crc32 p).toNat_lt
  have hshort : ¬ (wrap p).length < headerLength + checksumLength := by omega
  have hcount : (p ++ littleEndian checksumLength (Checksum.crc32 p).toNat).length - checksumLength = p.length := by
    rw [List.length_append, littleEndian_length]
    omega
  unfold payload
  simp only [hmark, hversion, hlength, hrest, hcount, List.take_left', List.drop_left', ofLittleEndian_littleEndian hfits,
    ofLittleEndian_littleEndian hcrc, UInt32.ofNat_toNat]
  rw [if_neg hshort]
  simp

/-- **Round trip.** A record that fits is read back from its file. -/
theorem decode_encode {r : SubscriptionRecord} (h : r.Fits)
    (hlen : (MessagePack.write r.toDatum).length < 2 ^ 64) : decode (encode r) = .ok r := by
  unfold decode encode
  rw [payload_wrap hlen]
  simp only [bind, Except.bind]
  have hread := SubscriptionRecord.ofDatum?_read h
  simp only [bind] at hread
  rw [hread]
  rfl

/-- a record that is nested too deep has a file, and nothing is read from it -/
theorem decode_encode_deep {r : SubscriptionRecord} {n : Nat} (h : r.toDatum.Fits n)
    (hlen : (MessagePack.write r.toDatum).length < 2 ^ 64) {d : DeliveryDefinition} (hd : r.options.delivery = some d)
    {p : DeliveryParameter} (hp : p ∈ d.parameters) (hdeep : ¬ p.Fits maxNesting) :
    decode (encode r) = .error (.deserialization .foreign) := by
  unfold decode encode
  rw [payload_wrap hlen]
  simp only [bind, Except.bind]
  rw [SubscriptionRecord.read_eq_none h hd hp hdeep]
  rfl

end EventBroker.RecordFile
