/-!
The CRC-32 checksum of IEEE 802.3: reflected, polynomial 0xEDB88320, register started at and
finished with all ones.
-/

namespace BrokerTenancy.Crc32

def polynomial : UInt32 := 0xEDB88320

/-- One bit of division by the polynomial. -/
def shift (register : UInt32) : UInt32 :=
  if register &&& 1 = 1 then (register >>> 1) ^^^ polynomial else register >>> 1

def step (register : UInt32) (byte : UInt8) : UInt32 :=
  Nat.repeat shift 8 (register ^^^ byte.toUInt32)

end BrokerTenancy.Crc32

namespace BrokerTenancy

def crc32 (bytes : List UInt8) : UInt32 :=
  bytes.foldl Crc32.step 0xFFFFFFFF ^^^ 0xFFFFFFFF

end BrokerTenancy
