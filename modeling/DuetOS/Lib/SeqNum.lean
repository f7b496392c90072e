/-!
# Sequence numbers

Numbers modulo 2^32 compared by the sign of their difference.
-/

namespace SeqNum

/-- `static_cast<i32>(x)`. -/
def asI32 (x : UInt32) : Int := x.toBitVec.toInt

def gt (a b : UInt32) : Bool := 0 < asI32 (a - b)

def geq (a b : UInt32) : Bool := 0 ≤ asI32 (a - b)

end SeqNum
