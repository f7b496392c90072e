import DuetOS.Tcp.Conn

/-!
# CUBIC congestion control

The integer arithmetic of `tcp_cubic.cpp`, on words of the source's widths.
-/

namespace DuetOS.Tcp

def kBictcpHz : UInt64 := 10
def kBictcpBetaScale : UInt64 := 1024
def kCubicBeta : UInt64 := 717
def kCubeRttScale : UInt64 := 410
def kCubeFactor : UInt64 := ((1 : UInt64) <<< 40) / 410
def kBetaScale : UInt32 := 15

def fls64 (a : UInt64) : UInt32 := if a = 0 then 0 else UInt32.ofNat (a.toNat.log2 + 1)

/-- The table of seeds of `CubicRoot`. -/
def cubicRootTable : List UInt32 :=
  [0, 54, 54, 54, 118, 118, 118, 118, 123, 129, 134, 138, 143, 147, 151, 156, 157, 161, 164,
    168, 170, 173,
    176, 179, 181, 185, 187, 190, 192, 194, 197, 199, 200, 202, 204, 206, 209, 211, 213, 215,
    217, 219, 221,
    222, 224, 225, 227, 229, 231, 232, 234, 236, 237, 239, 240, 242, 244, 245, 246, 248, 250,
    251, 252, 254]

def cubicRoot (a : UInt64) : UInt32 :=
  let b := fls64 a
  if b < 7 then (cubicRootTable.getD a.toNat 0 + 35) >>> 6
  else
    let b := ((b * 84) >>> 8) - 1
    let shift := (a >>> (b * 3).toUInt64).toUInt32
    let x := ((cubicRootTable.getD shift.toNat 0 + 10) <<< b) >>> 6
    -- keeps the Newton denominator x (x - 1) from being zero
    let x := if x < 2 then 2 else x
    let x := 2 * x + (a / (x.toUInt64 * (x - 1).toUInt64)).toUInt32
    (x * 341) >>> 10

def cubicTarget (originPkts bicK : UInt32) (tt : UInt64) : UInt32 :=
  let offs := if tt < bicK.toUInt64 then bicK.toUInt64 - tt else tt - bicK.toUInt64
  let delta := (kCubeRttScale * offs * offs * offs) >>> (10 + 3 * kBictcpHz)
  if tt < bicK.toUInt64 then
    if delta < originPkts.toUInt64 then (originPkts.toUInt64 - delta).toUInt32 else 0
  else (originPkts.toUInt64 + delta).toUInt32

def CubicState.startEpoch (c : CubicState) (now : UInt64) (cwndPkts ackedPkts : UInt32) :
    CubicState :=
  let c := { c with epochStart := now, ackCnt := ackedPkts, tcpCwnd := cwndPkts }
  if c.lastMaxCwnd ≤ cwndPkts then { c with bicK := 0, bicOriginPoint := cwndPkts }
  else
    { c with
      bicK := cubicRoot (kCubeFactor * (c.lastMaxCwnd - cwndPkts).toUInt64),
      bicOriginPoint := c.lastMaxCwnd }

/-- The loop of `CubicUpdate` that advances the Reno estimate, as the number of passes it makes. -/
def CubicState.advanceReno (c : CubicState) (d : UInt32) : CubicState :=
  if d ≠ 0 ∧ d < c.ackCnt then
    let passes := (c.ackCnt - 1) / d
    { c with ackCnt := c.ackCnt - passes * d, tcpCwnd := c.tcpCwnd + passes }
  else c

def cubicUpdate (c : CubicState) (now : UInt64) (cwndPkts ackedPkts : UInt32) : CubicState :=
  let cwndPkts := if cwndPkts = 0 then 1 else cwndPkts
  let c := { c with ackCnt := c.ackCnt + ackedPkts }
  let c := if c.epochStart = 0 then c.startEpoch now cwndPkts ackedPkts else c
  let tt := (((now - c.epochStart) + c.delayMinTicks.toUInt64) <<< kBictcpHz) / 100
  let target := cubicTarget c.bicOriginPoint c.bicK tt
  let cnt := if cwndPkts < target then cwndPkts / (target - cwndPkts) else 100 * cwndPkts
  let cnt := if c.lastMaxCwnd = 0 ∧ 20 < cnt then 20 else cnt
  let c := c.advanceReno ((cwndPkts * kBetaScale) >>> 3)
  let cnt :=
    if cwndPkts < c.tcpCwnd then min cnt (cwndPkts / (c.tcpCwnd - cwndPkts)) else cnt
  { c with cnt := if cnt < 2 then 2 else cnt }

/-- C++ `CubicRecalcSsthresh`: the new state and the slow-start threshold in packets. -/
def cubicRecalcSsthresh (c : CubicState) (cwndPkts : UInt32) : CubicState × UInt32 :=
  let cwndPkts := if cwndPkts = 0 then 1 else cwndPkts
  let lastMax :=
    if cwndPkts < c.lastMaxCwnd then
      (cwndPkts.toUInt64 * (kBictcpBetaScale + kCubicBeta) / (2 * kBictcpBetaScale)).toUInt32
    else cwndPkts
  let s := (cwndPkts.toUInt64 * kCubicBeta / kBictcpBetaScale).toUInt32
  ({ c with epochStart := 0, lastMaxCwnd := lastMax }, if s < 2 then 2 else s)

end DuetOS.Tcp
