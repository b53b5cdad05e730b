import ClusterArchive.Bytes

/-! The cyclic redundancy check of gzip. -/

namespace ClusterArchive.Crc32

def polynomial : UInt32 := 0xEDB88320

def shift (crc : UInt32) : UInt32 :=
  if crc &&& 1 = 1 then (crc >>> 1) ^^^ polynomial else crc >>> 1

def push (crc : UInt32) (b : UInt8) : UInt32 := Nat.repeat shift 8 (crc ^^^ b.toUInt32)

def checksum (bytes : Bytes) : UInt32 := ~~~(bytes.foldl push 0xFFFFFFFF)

end ClusterArchive.Crc32
