import Teleop.Bytes

/-!
# Compressed documents

A document as a gzip stream: a head, blocks that hold the bytes as they are, an empty last block,
and the checksum and the length of the document.

* `Gzip.crc` is the checksum;
* `Gzip.pack` is the whole stream.
-/

namespace Teleop

namespace Gzip

/-- One bit of the remainder is divided out. -/
def shift (c : UInt32) : UInt32 :=
  if c &&& 1 = 1 then (c >>> 1) ^^^ 0xEDB88320 else c >>> 1

/-- The remainder after one more byte. -/
def step (c : UInt32) (b : UInt8) : UInt32 :=
  shift (shift (shift (shift (shift (shift (shift (shift (c ^^^ b.toUInt32))))))))

/-- The checksum of a document. -/
def crc (document : Bytes) : UInt32 :=
  ~~~ document.foldl step 0xFFFFFFFF

/-- The lowest bytes of a number, the lowest first. -/
def littleEndian : Nat → Nat → Bytes
  | 0, _ => []
  | count + 1, n => UInt8.ofNat n :: littleEndian count (n / 256)

/-- A block that holds its bytes as they are. Its length is written twice, once inverted. -/
def block (content : Bytes) : Bytes :=
  [0] ++ littleEndian 2 content.length ++ littleEndian 2 (65535 - content.length) ++ content

/-- The blocks of a document, each as long as possible; there are at most `count`. -/
def blocks : Nat → Bytes → Bytes
  | 0, _ => []
  | count + 1, document =>
    if document.isEmpty then []
    else block (document.take 65535) ++ blocks count (document.drop 65535)

/-- The last block, which is empty. -/
def lastBlock : Bytes := [3, 0]

/-- A document as a stream. Neither its time nor the system that made it is told. -/
def pack (document : Bytes) : Bytes :=
  [31, 139, 8, 0, 0, 0, 0, 0, 0, 255] ++ blocks document.length document ++ lastBlock ++
    littleEndian 4 (crc document).toNat ++ littleEndian 4 document.length

end Gzip

end Teleop
