import DuetOS.Tcp.Conn
import Mathlib.Data.List.FinRange

/-!
# TCP options

`BuildOptions` writes the option block of an outgoing segment; `ParseOptions` and `ParseSackBlocks`
read the block of an inbound one. The blocks are byte lists, so that the length of what
`BuildOptions` writes is visible.
-/

namespace DuetOS.Tcp

def kOptEnd : UInt8 := 0
def kOptNop : UInt8 := 1
def kOptMss : UInt8 := 2
def kOptWindowScale : UInt8 := 3
def kOptSackPermitted : UInt8 := 4
def kOptSack : UInt8 := 5
def kOptTimestamp : UInt8 := 8
def kMaxSackBlocks : Nat := 4

/-- The four bytes of a word, most significant first. -/
def bigEndian (x : UInt32) : List UInt8 :=
  [(x >>> 24).toUInt8, (x >>> 16).toUInt8, (x >>> 8).toUInt8, x.toUInt8]

def ooSegmentCount (t : Conn) :
    Nat := (List.finRange kReassQueueMax).countP fun i => (t.ooQueue i).inUse

/-- The options only a SYN carries: MSS, window scale 0 and SACK-permitted. -/
def synOptions : List UInt8 :=
  [kOptMss, 4, (kDefaultMss >>> 8).toUInt8, kDefaultMss.toUInt8, kOptNop, kOptWindowScale, 3, 0,
    kOptSackPermitted, 2]

def timestampOption (t : Conn) (now : Nat) : List UInt8 :=
  [kOptNop, kOptNop, kOptTimestamp, 10] ++ bigEndian (UInt32.ofNat now) ++
    bigEndian (if t.peerSupportsTimestamps then t.tsRecent else 0)

/-- The SACK option for the last slots of the reassembly queue that are in use, at most four. -/
def sackOption (t : Conn) : List UInt8 :=
  let held := (List.finRange kReassQueueMax).reverse.filter fun i => (t.ooQueue i).inUse
  let picked := held.take kMaxSackBlocks
  [kOptNop, kOptNop, kOptSack, UInt8.ofNat (2 + 8 * picked.length)] ++ picked.flatMap fun i =>
      bigEndian (t.ooQueue i).seq ++ bigEndian
        ((t.ooQueue i).seq + UInt32.ofNat (t.ooQueue i).data.length)

def buildOptions (t : Conn) (flags : UInt8) (now : Nat) : List UInt8 :=
  let syn := hasFlag flags kFlagSyn
  let opts := (if syn then synOptions else []) ++
    (if t.peerSupportsTimestamps ∨ syn then timestampOption t now else []) ++
    (if ¬syn ∧ t.peerSupportsSack ∧ 0 < ooSegmentCount t then sackOption t else [])
  opts ++ List.replicate ((4 - opts.length % 4) % 4) kOptNop

structure ParsedOptions where
  mss : UInt16 := 0
  wscale : UInt8 := 0
  hasWscale : Bool := false
  sackPermitted : Bool := false
  hasTimestamp : Bool := false
  tsval : UInt32 := 0
  tsecr : UInt32 := 0
  deriving DecidableEq, Repr

def word32 : List UInt8 → UInt32
  | a :: b :: c :: d :: _ =>
    a.toUInt32 <<< 24 ||| b.toUInt32 <<< 16 ||| c.toUInt32 <<< 8 ||| d.toUInt32
  | _ => 0

/-- What one well-formed option with this body adds. -/
def ParsedOptions.absorb (out : ParsedOptions) (kind len : UInt8) (body : List UInt8) :
    ParsedOptions :=
  if kind = kOptMss ∧ len = 4 then
    { out with mss := (body.getD 0 0).toUInt16 <<< 8 ||| (body.getD 1 0).toUInt16 }
  else if kind = kOptWindowScale ∧ len = 3 then
    { out with hasWscale := true, wscale := if 14 < body.getD 0 0 then 14 else body.getD 0 0 }
  else if kind = kOptSackPermitted ∧ len = 2 then { out with sackPermitted := true }
  else if kind = kOptTimestamp ∧ len = 10 then
    { out with hasTimestamp := true, tsval := word32 body, tsecr := word32 (body.drop 4) }
  else out

/-- Rust `parse_tcp_options`; the first argument is how many options it may still visit. -/
def parseTcpOptions : Nat → List UInt8 → ParsedOptions → ParsedOptions
  | 0, _, out => out
  | _, [], out => out
  | visits + 1, kind :: rest, out =>
    if kind = kOptEnd then out
    else if kind = kOptNop then parseTcpOptions visits rest out
    else
      match rest with
      | [] => out
      | len :: body =>
        if len < 2 then out
        else if body.length + 2 < len.toNat then out
        else parseTcpOptions visits (body.drop (len.toNat - 2)) (out.absorb kind len body)

def tcpOptGuard : Nat := 64

def parseOptions (opts : List UInt8) : ParsedOptions := parseTcpOptions tcpOptGuard opts {}

structure SackBlock where
  (left right : UInt32)
  deriving DecidableEq, Repr

/-- The first `n` blocks in the body of a SACK option. -/
def readSackBlocks : Nat → List UInt8 → List SackBlock
  | 0, _ => []
  | n + 1, body => ⟨word32 body, word32 (body.drop 4)⟩ :: readSackBlocks n (body.drop 8)

/-- The loop of `ParseSackBlocks`, which moves on at least one byte a pass. -/
def parseSackLoop : Nat → List UInt8 → List SackBlock → List SackBlock
  | 0, _, out => out
  | _, [], out => out
  | bytes + 1, kind :: rest, out =>
    if kind = kOptEnd then out
    else if kind = kOptNop then parseSackLoop bytes rest out
    else
      match rest with
      | [] => out
      | len :: body =>
        if len < 2 ∨ body.length + 2 < len.toNat then out
        else
          let found :=
            if kind = kOptSack then
              readSackBlocks (min ((len.toNat - 2) / 8) (kMaxSackBlocks - out.length)) body
            else []
          parseSackLoop bytes (body.drop (len.toNat - 2)) (out ++ found)

def parseSackBlocks (opts : List UInt8) : List SackBlock := parseSackLoop opts.length opts []

end DuetOS.Tcp
