import ClusterArchive.Bytes

/-! A stream of bytes that ends, or that fails after its last byte. -/

namespace ClusterArchive

structure ByteStream where
  bytes : Bytes
  failure : Option String
deriving DecidableEq, Repr

namespace ByteStream

def ofBytes (bytes : Bytes) : ByteStream := ⟨bytes, none⟩

def drop (stream : ByteStream) (n : Nat) : ByteStream := { stream with bytes := stream.bytes.drop n }

/-- Why no more bytes come where more are needed. -/
def shortage (stream : ByteStream) (atEnd : String) : String := stream.failure.getD atEnd

end ByteStream

end ClusterArchive
