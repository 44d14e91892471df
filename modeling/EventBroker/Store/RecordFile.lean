/-
Record files.

A file begins with a mark, a version and the length of the record, and ends with the checksum of the record. `decode`
reads what `encode` writes and says what is wrong with other bytes.
-/
import EventBroker.Checksum
import EventBroker.Error
import EventBroker.MessagePack.Reader
import EventBroker.MessagePack.Writer
import EventBroker.Subscription.Record

namespace EventBroker.RecordFile

/-- the mark at the beginning -/
def mark : List UInt8 := [0x53, 0x55, 0x42, 0x00]

def version : UInt8 := 1

def headerLength : Nat := 4 + 1 + 8

def checksumLength : Nat := 4

/-- the lowest `count` bytes of a number, the lowest first -/
def littleEndian : (count : Nat) → Nat → List UInt8
  | 0, _ => []
  | count + 1, n => UInt8.ofNat n :: littleEndian count (n / 256)

def ofLittleEndian : List UInt8 → Nat
  | [] => 0
  | b :: bs => b.toNat + 256 * ofLittleEndian bs

/-- a file around the bytes of a record -/
def wrap (payload : List UInt8) : List UInt8 :=
  mark ++ version :: littleEndian 8 payload.length ++ payload
    ++ littleEndian checksumLength (Checksum.crc32 payload).toNat

def encode (r : SubscriptionRecord) : List UInt8 := wrap (MessagePack.write r.toDatum)

/-- the bytes of the record in a file -/
def payload (bytes : List UInt8) : Except BrokerError (List UInt8) :=
  if bytes.length < headerLength + checksumLength then .error (.invalidFormat "Truncated subscription record")
  else if bytes.take 4 != mark then .error (.invalidFormat "Invalid subscription magic")
  else
    let found := (bytes.drop 4).headD 0
    if found != version then .error (.invalidFormat ("Unsupported subscription version: " ++ toString found.toNat))
    else
      let rest := bytes.drop headerLength
      let length := rest.length - checksumLength
      if ofLittleEndian ((bytes.drop 5).take 8) != length then
        .error (.invalidFormat "Subscription record length mismatch")
      else
        let stored := UInt32.ofNat (ofLittleEndian (rest.drop length))
        let computed := Checksum.crc32 (rest.take length)
        if stored != computed then .error (.checksumMismatch stored computed) else .ok (rest.take length)

/-- the record in a file -/
def decode (bytes : List UInt8) : Except BrokerError SubscriptionRecord := do
  match MessagePack.read (← payload bytes) >>= SubscriptionRecord.ofDatum? with
  | some r => return r
  | none => throw (.deserialization .foreign)

end EventBroker.RecordFile
