/-
CRC-32 (IEEE 802.3): the remainder of a message modulo the polynomial 0x04C11DB7, bits in reflected order, with the
register inverted at the start and at the end.
-/

namespace EventBroker.Checksum

/-- the polynomial, reflected -/
def polynomial : UInt32 := 0xEDB88320

/-- one bit of the division -/
def shift (r : UInt32) : UInt32 :=
  if r &&& 1 = 1 then (r >>> 1) ^^^ polynomial else r >>> 1

/-- one byte of the division -/
def feed (r : UInt32) (b : UInt8) : UInt32 :=
  shift (shift (shift (shift (shift (shift (shift (shift (r ^^^ b.toUInt32))))))))

/-- the checksum of some bytes -/
def crc32 (bs : List UInt8) : UInt32 :=
  bs.foldl feed 0xFFFFFFFF ^^^ 0xFFFFFFFF

end EventBroker.Checksum
