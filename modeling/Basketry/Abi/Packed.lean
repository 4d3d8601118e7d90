import Basketry.Abi.Datum

namespace Basketry.Abi

mutual

def packed : Ty → Datum → List UInt8
  | .uint size, .number n => BigEndian.ofInt size n
  | .int size, .number n => BigEndian.ofInt size n
  | .address, .account a => a.bytes
  | .bool, .flag b => [if b then 1 else 0]
  | .word size, .raw bs => bs ++ List.replicate (size - bs.length) 0
  | .bytes, .raw bs => bs
  | .string, .raw bs => bs
  | .array item, .items xs => xs.flatMap (packed item)
  | .fixed item _, .items xs => xs.flatMap (packed item)
  | .tuple members, .items xs => packedAll members xs
  | _, _ => []

def packedAll : List Ty → List Datum → List UInt8
  | t :: ts, x :: xs => packed t x ++ packedAll ts xs
  | _, _ => []

end

end Basketry.Abi
