import DuetOS.Lib.Lts
import DuetOS.Lib.Word
import Mathlib.Data.Fintype.Card

/-!
# The stateful firewall

`FwEvaluate` with the rules, the default policies and the connection-tracking table. An egress
packet that no rule matches is registered before the egress default is asked, so the replies to a
packet that may not leave come in; when unmatched packets may leave, a reply comes in exactly as
long as its flow is in use.
-/

namespace DuetOS.Firewall

open List Function Word

inductive Direction where
  | ingress | egress
deriving DecidableEq

inductive Proto where
  | any | icmp | tcp | udp
deriving DecidableEq

inductive Action where
  | allow | deny
deriving DecidableEq

inductive TcpState where
  | new | established | finWait | closed
deriving DecidableEq

abbrev kFwMaxRules : Nat := 32

abbrev kConntrackCap : Nat := 64

def kSchedulerHz : Nat := 100

def kConntrackTtlNewSecs : Nat := 30

def kConntrackTtlEstSecs : Nat := 300

def kConntrackTtlFinSecs : Nat := 60

def kConntrackTtlClosedSecs : Nat := 10

/-- The four octets as the word `Ipv4ToHost` makes of them. -/
abbrev Ipv4Address := UInt32

structure Ipv4Prefix where
  addr : Ipv4Address
  maskBits : UInt8

structure PortRange where
  (lo hi : UInt16)

structure Rule where
  active : Bool
  dir : Direction
  proto : Proto
  (src dst : Ipv4Prefix)
  (srcPort dstPort : PortRange)
  action : Action

structure Packet where
  dir : Direction
  proto : Proto
  (srcIp dstIp : Ipv4Address)
  (srcPort dstPort : UInt16)
  tcpFlags : UInt8

structure Flow where
  proto : Proto
  localIp : Ipv4Address
  localPort : UInt16
  peerIp : Ipv4Address
  peerPort : UInt16
deriving DecidableEq

/-- The tuple of an egress packet, and the reversed tuple of an ingress packet. -/
def Packet.flow (p : Packet) : Flow :=
  match p.dir with
  | .egress => ⟨p.proto, p.srcIp, p.srcPort, p.dstIp, p.dstPort⟩
  | .ingress => ⟨p.proto, p.dstIp, p.dstPort, p.srcIp, p.srcPort⟩

abbrev Proto.Tracked (proto : Proto) : Prop := proto = .tcp ∨ proto = .udp

def prefixMask (maskBits : UInt8) : UInt32 :=
  if maskBits = 0 then 0 else if 32 ≤ maskBits then 0xFFFFFFFF
    else 0xFFFFFFFF <<< (32 - maskBits.toUInt32)

def prefixMatch (p : Ipv4Prefix) (addr : Ipv4Address) : Bool :=
  p.addr &&& prefixMask p.maskBits == addr &&& prefixMask p.maskBits

def portInRange (r : PortRange) (port : UInt16) : Bool := r.lo ≤ port && port ≤ r.hi

def protoMatch (ruleProto pktProto : Proto) : Bool := ruleProto = .any || ruleProto = pktProto

def ruleMatches (r : Rule) (p : Packet) : Bool :=
  r.active && r.dir = p.dir && protoMatch r.proto p.proto && prefixMatch r.src p.srcIp &&
    prefixMatch r.dst p.dstIp &&
    (¬ p.proto.Tracked || (portInRange r.srcPort p.srcPort && portInRange r.dstPort p.dstPort))

structure ConntrackEntry where
  active : Bool
  flow : Flow
  (expiryTicks lastUseTicks : Nat)
  tcpState : TcpState

abbrev Table := Fin kConntrackCap → ConntrackEntry

def ttlSecsForState (proto : Proto) (state : TcpState) : Nat :=
  if proto ≠ .tcp then kConntrackTtlEstSecs
  else
    match state with
    | .new => kConntrackTtlNewSecs
    | .finWait => kConntrackTtlFinSecs
    | .closed => kConntrackTtlClosedSecs
    | .established => kConntrackTtlEstSecs

def kTcpFin : UInt8 := 0x01

def kTcpSyn : UInt8 := 0x02

def kTcpRst : UInt8 := 0x04

def kTcpAck : UInt8 := 0x10

def tcpStateAfterEgress (s : TcpState) (flags : UInt8) : TcpState :=
  if flags &&& kTcpRst ≠ 0 then .closed
  else if flags &&& kTcpFin ≠ 0 then .finWait
  else if s = .new ∧ flags &&& kTcpAck ≠ 0 ∧ flags &&& kTcpSyn = 0 then .established
  else s

def tcpStateAfterIngress (s : TcpState) (flags : UInt8) : TcpState :=
  if flags &&& kTcpRst ≠ 0 then .closed
  else if flags &&& kTcpFin ≠ 0 then .finWait
  else if s = .new ∧ flags &&& kTcpSyn ≠ 0 ∧ flags &&& kTcpAck ≠ 0 then .established
  else s

/-- An entry as it is written or refreshed. -/
def ConntrackEntry.used (flow : Flow) (state : TcpState) (now : Nat) : ConntrackEntry :=
  ⟨true, flow, add64 now (ttlSecsForState flow.proto state * kSchedulerHz), now, state⟩

/-- The first slot of those used least recently. -/
def lruIdx (t : Table) : Fin kConntrackCap :=
  ((finRange kConntrackCap).foldl (fun lru i =>
    if (t i).active ∧ (t i).lastUseTicks < lru.2 then (i, (t i).lastUseTicks) else lru)
      (0, max64)).1

/-- The first slot with the tuple, or else the first inactive one, or else the one used least
recently. -/
def conntrackInsertOrRefresh (t : Table) (flow : Flow) (flags : UInt8) (now : Nat) : Table :=
  if ¬ flow.proto.Tracked then t
  else
    match (finRange kConntrackCap).find? fun i => (t i).active ∧ (t i).flow = flow with
    | some i => update t i (.used flow (tcpStateAfterEgress (t i).tcpState flags) now)
    | none =>
      let slot := ((finRange kConntrackCap).find? fun i => ¬ (t i).active).getD (lruIdx t)
      let initialState := if flow.proto = .tcp then .new else .established
      update t slot (.used flow (tcpStateAfterEgress initialState flags) now)

/-- The loop of `ConntrackLookupReverseLocked` over the slots that are left. -/
def conntrackLookupReverse (flow : Flow) (flags : UInt8) (now : Nat) :
    List (Fin kConntrackCap) → Table → Bool × Table
  | [], t => (false, t)
  | i :: rest, t =>
    if ¬ (t i).active then conntrackLookupReverse flow flags now rest t
    else if (t i).expiryTicks ≤ now then
      conntrackLookupReverse flow flags now rest (update t i { t i with active := false })
    else if (t i).flow =
      flow then (true, update t i (.used flow (tcpStateAfterIngress (t i).tcpState flags) now))
    else conntrackLookupReverse flow flags now rest t

/-- The state under `g_firewall_lock`, and the tick of the last evaluation. -/
structure State where
  rules : Fin kFwMaxRules → Rule
  (defaultIn defaultOut : Action)
  conntrack : Table
  ticks : Nat

/-- The verdict, the rule that matched, and the state after. -/
def fwEvaluate (s : State) (p : Packet) : Action × Option (Fin kFwMaxRules) × State :=
  match (finRange kFwMaxRules).find? fun i => ruleMatches (s.rules i) p with
  | some i => ((s.rules i).action, some i, s)
  | none =>
    match p.dir with
    | .egress =>
      (s.defaultOut, none,
        { s with conntrack := conntrackInsertOrRefresh s.conntrack p.flow p.tcpFlags s.ticks })
    | .ingress =>
      if s.defaultIn = .deny ∧ p.proto.Tracked then
        let (hit, conntrack) :=
          conntrackLookupReverse p.flow p.tcpFlags s.ticks (finRange kConntrackCap) s.conntrack
        (if hit then .allow else .deny, none, { s with conntrack })
      else (s.defaultIn, none, s)

inductive Event where
  | evaluate (p : Packet) (now : Nat) (matched : Option (Fin kFwMaxRules)) (verdict : Action)
  | edit
  | reset

/-- An edit leaves any rules and any policies; the clock does not go back. -/
inductive Step : State → Event → State → Prop where
  | evaluate {s p now verdict matched s'} : s.ticks ≤ now →
    fwEvaluate { s with ticks := now } p = (verdict, matched, s') →
      Step s (.evaluate p now matched verdict) s'
  | edit {s rules defaultIn defaultOut} :
    Step s .edit { s with rules, defaultIn, defaultOut }
  | reset {s} : Step s .reset
    { s with conntrack := fun _ => ⟨false, ⟨.any, 0, 0, 0, 0⟩, 0, 0, .new⟩ }

def longest : Nat := kConntrackTtlEstSecs * kSchedulerHz

def Event.allowed (flow : Flow) : Event → Option Nat
  | .evaluate p now _ .allow => if p.flow = flow then some now else none
  | _ => none

/-- Since the last reset an egress packet of the flow was allowed to leave, the last allowed packet
of the flow was at tick `last`, and no gap between the allowed ones from the first to the last is
longer than the longest life. -/
inductive Backed (flow : Flow) : List Event → Nat → Prop where
  | opens {es p now matched} : p.dir = .egress → p.flow = flow →
    Backed flow (es ++ [.evaluate p now matched .allow]) now
  | goes {es last p now matched} : Backed flow es last → p.flow = flow → now ≤ last + longest →
    Backed flow (es ++ [.evaluate p now matched .allow]) now
  | passes {es last e} : Backed flow es last → e.allowed flow = none → e ≠ .reset →
    Backed flow (es ++ [e]) last

/-- The flow of a packet that was allowed at this tick or later. -/
def Event.usedFrom (tick : Nat) : Event → Option Flow
  | .evaluate p now _ .allow => if tick ≤ now then some p.flow else none
  | _ => none

/-- The flows with an allowed packet at this tick or later. -/
def usedSince (tick : Nat) (es : List Event) :
    Finset Flow := (es.filterMap (Event.usedFrom tick)).toFinset

/-- Every egress packet that no rule matched was allowed to leave. -/
def AllLeave (es : List Event) : Prop :=
  ∀ p now verdict, .evaluate p now none verdict ∈ es → p.dir = .egress → verdict = .allow

@[simp] lemma allLeave_append : AllLeave (es ++ es') ↔ AllLeave es ∧ AllLeave es' := by
  simp only [AllLeave, mem_append]
  grind

lemma AllLeave.allows (leave : AllLeave [.evaluate p now matched verdict])
    (passed : verdict = .allow ∨ p.dir = .egress ∧ matched = none) : verdict = .allow := by
  obtain rfl | ⟨egress, rfl⟩ := passed
  · rfl
  · exact leave p now verdict (mem_singleton_self _) egress

lemma mem_usedSince :
    flow ∈ usedSince tick es ↔ ∃ p now matched, .evaluate p now matched .allow ∈ es ∧ tick ≤ now ∧
      p.flow = flow := by
  simp only [usedSince, mem_toFinset, mem_filterMap]
  constructor
  · rintro ⟨e, mem, used⟩
    unfold Event.usedFrom at used
    grind
  · rintro ⟨p, now, matched, mem, le, rfl⟩
    exact ⟨_, mem, if_pos le⟩

lemma ttlSecsForState_bounds (proto state) :
    kConntrackTtlClosedSecs ≤ ttlSecsForState proto state ∧
      ttlSecsForState proto state ≤ kConntrackTtlEstSecs := by
  unfold ttlSecsForState
  cases state <;> split <;> decide

def shortest : Nat := kConntrackTtlClosedSecs * kSchedulerHz

lemma used_expiry_le (flow state now) :
    (ConntrackEntry.used flow state now).expiryTicks ≤ now + longest :=
  (Nat.mod_le ..).trans
    (Nat.add_le_add_left (Nat.mul_le_mul_right _ (ttlSecsForState_bounds ..).2) _)

lemma le_used_expiry (flow state) (room : now + longest ≤ max64) :
    now + shortest ≤ (ConntrackEntry.used flow state now).expiryTicks := by
  have bounds := ttlSecsForState_bounds flow.proto state
  have fits : now + ttlSecsForState flow.proto state * kSchedulerHz ≤ max64 :=
    (Nat.add_le_add_left (Nat.mul_le_mul_right _ bounds.2) _).trans room
  exact (Nat.add_le_add_left (Nat.mul_le_mul_right _ bounds.1) _).trans (add64_eq fits).ge

def Swept (now : Nat) (e e' : ConntrackEntry) :
    Prop := e' = e ∨ e.expiryTicks ≤ now ∧ e' = { e with active := false }

lemma Swept.eq (swept : Swept now e e') (active : e'.active) : e' = e := by
  obtain rfl | ⟨-, rfl⟩ := swept
  · rfl
  · cases active

lemma Swept.trans (first : Swept now e e') (second : Swept now e' e'') : Swept now e e'' := by
  obtain rfl | ⟨expired, rfl⟩ := first
  · exact second
  · obtain rfl | ⟨-, rfl⟩ := second <;> exact .inr ⟨expired, rfl⟩

lemma swept_drop {t : Table} (expired : (t i).expiryTicks ≤ now) (j) :
    Swept now (t j) (update t i { t i with active := false } j) := by
  by_cases eq : j = i
  · subst eq
    exact .inr ⟨expired, update_self ..⟩
  · exact .inl (update_of_ne eq ..)

/-- The slot that an evaluation may write: the flow's own, which for an ingress packet has not
expired, or for a flow without one an inactive slot, or the one used least recently. -/
def Claimed (t : Table) (p : Packet) (now : Nat) (slot : Fin kConntrackCap) : Prop :=
  ((t slot).active ∧ (t slot).flow = p.flow ∧ (p.dir = .egress ∨ now < (t slot).expiryTicks)) ∨
    p.dir = .egress ∧ (∀ j, (t j).active → (t j).flow ≠ p.flow) ∧ ((t slot).active = false ∨
      ∀ j, (t j).active ∧ ((t j).lastUseTicks < max64 → (t slot).lastUseTicks ≤ (t j).lastUseTicks))

inductive Looked (t : Table) (flow : Flow) (now : Nat) (indices : List (Fin kConntrackCap)) :
    Bool × Table → Prop where
  | hit {t'} (slot : Fin kConntrackCap) (state : TcpState) (active : (t slot).active)
    (same : (t slot).flow = flow)
    (live : now < (t slot).expiryTicks) (used : t' slot = .used flow state now)
    (swept : ∀ j ≠ slot, Swept now (t j) (t' j)) : Looked t flow now indices (true, t')
  | miss {t'} (swept : ∀ j, Swept now (t j) (t' j))
    (expired : ∀ j ∈ indices, (t j).active → (t j).flow = flow → (t j).expiryTicks ≤ now) :
    Looked t flow now indices (false, t')

lemma Looked.cons {t u flow now i rest r} (dropped : ∀ j, Swept now (t j) (u j))
    (passed : (t i).active → (t i).flow = flow → (t i).expiryTicks ≤ now)
    (looked : Looked u flow now rest r) :
    Looked t flow now (i :: rest) r := by
  cases looked with
  | hit slot state active same live used swept =>
    have eq := (dropped slot).eq active
    rw [eq] at active same live
    exact .hit slot state active same live used fun j ne => (dropped j).trans (swept j ne)
  | miss swept expired =>
    refine .miss (fun j => (dropped j).trans (swept j)) fun j mem active same => ?_
    obtain rfl | mem := mem_cons.mp mem
    · exact passed active same
    · obtain eq | ⟨expired, -⟩ := dropped j
      · exact eq ▸ expired j mem (eq ▸ active) (eq ▸ same)
      · exact expired

lemma lookup_spec (flow : Flow) (flags : UInt8) (now indices t) :
    Looked t flow now indices (conntrackLookupReverse flow flags now indices t) := by
  induction indices generalizing t with
  | nil => exact .miss (fun _ => .inl rfl) (by simp)
  | cons i rest ih =>
    unfold conntrackLookupReverse
    split_ifs with active expired same
    · exact (ih _).cons (swept_drop expired) fun _ _ => expired
    · exact .hit i _ active same (not_le.mp expired) (update_self ..) fun j ne =>
        .inl (update_of_ne ne ..)
    · exact (ih t).cons (fun _ => .inl rfl) fun _ eq => absurd eq same
    · exact (ih t).cons (fun _ => .inl rfl) fun is => absurd is active

lemma lru_fold (t : Table) (indices : List (Fin kConntrackCap)) (lru : Fin kConntrackCap × Nat) :
    let r := indices.foldl (fun lru i =>
      if (t i).active ∧ (t i).lastUseTicks < lru.2 then (i, (t i).lastUseTicks) else lru) lru
    r.2 ≤ lru.2 ∧ (∀ j ∈ indices, (t j).active → r.2 ≤ (t j).lastUseTicks) ∧
      (r = lru ∨ r.2 = (t r.1).lastUseTicks) := by
  induction indices generalizing lru with
  | nil => simp
  | cons i rest ih =>
    rw [foldl_cons]
    split_ifs with older
    · have := ih (i, (t i).lastUseTicks)
      grind
    · have := ih lru
      grind

lemma lruIdx_le {t : Table} {j : Fin kConntrackCap} (active : (t j).active)
    (early : (t j).lastUseTicks < max64) :
    (t (lruIdx t)).lastUseTicks ≤ (t j).lastUseTicks := by
  obtain ⟨-, least, eq | eq⟩ := lru_fold t (finRange kConntrackCap) (0, max64)
  · have := least j (mem_finRange j) active
    rw [eq] at this
    omega
  · exact eq ▸ least j (mem_finRange j) active

lemma insert_spec {t : Table} {p} (tracked : p.flow.proto.Tracked) (egress : p.dir = .egress)
    (flags : UInt8) (now)
    : ∃ slot state, conntrackInsertOrRefresh t p.flow flags now =
      update t slot (.used p.flow state now) ∧
      Claimed t p now slot := by
  unfold conntrackInsertOrRefresh
  rw [if_neg (not_not.mpr tracked)]
  split
  case h_1 i found =>
    have is := find?_some found
    simp only [decide_eq_true_eq] at is
    exact ⟨i, _, rfl, .inl ⟨is.1, is.2, .inl egress⟩⟩
  case h_2 absent =>
    have fresh : ∀ j, (t j).active → (t j).flow ≠ p.flow := by simpa using absent
    refine ⟨_, _, rfl, .inr ⟨egress, fresh, ?_⟩⟩
    cases free : (finRange kConntrackCap).find? fun i => ¬ (t i).active with
    | some i => exact .inl (by simpa using find?_some free)
    | none =>
      have full : ∀ j, (t j).active := by simpa using free
      exact .inr fun j => ⟨full j, lruIdx_le (full j)⟩

/-- All that an evaluation can do to the table: it drops expired entries that it passes, and it may
write one entry. -/
inductive Effect (s : State) (p : Packet) (now : Nat) (matched : Option (Fin kFwMaxRules))
    (verdict : Action)
    (t : Table) : Prop where
  | sweeps (swept : ∀ j, Swept now (s.conntrack j) (t j))
    (missed : matched = none → p.proto.Tracked → p.dir = .ingress ∧
      (s.defaultIn = .deny → verdict = .deny ∧
      ∀ j, (s.conntrack j).active → (s.conntrack j).flow = p.flow →
        (s.conntrack j).expiryTicks ≤ now))
  | uses (slot : Fin kConntrackCap) (state : TcpState)
    (swept : ∀ j ≠ slot, Swept now (s.conntrack j) (t j))
    (used : t slot = .used p.flow state now) (claimed : Claimed s.conntrack p now slot)
    (passed : verdict = .allow ∨ p.dir = .egress ∧ matched = none)

lemma flow_proto (p : Packet) : p.flow.proto = p.proto := by
  unfold Packet.flow
  split <;> rfl

lemma fwEvaluate_effect (eq : fwEvaluate { s with ticks := now } p = (verdict, matched, s')) :
    s'.ticks = now ∧ Effect s p now matched verdict s'.conntrack := by
  have same : ∀ j, Swept now (s.conntrack j) (s.conntrack j) := fun _ => .inl rfl
  unfold fwEvaluate at eq
  split at eq
  · cases eq
    exact ⟨rfl, .sweeps same nofun⟩
  · split at eq
    case h_1 egress =>
      cases eq
      refine ⟨rfl, ?_⟩
      by_cases tracked : p.flow.proto.Tracked
      · obtain ⟨slot, state, eq, claimed⟩ :=
          insert_spec (t := s.conntrack) tracked egress p.tcpFlags now
        rw [eq]
        exact .uses slot state (fun j ne => .inl (update_of_ne ne ..)) (update_self ..) claimed
          (.inr ⟨egress, rfl⟩)
      · rw [conntrackInsertOrRefresh, if_pos tracked]
        exact .sweeps same fun _ is => absurd (flow_proto p ▸ is) tracked
    case h_2 ingress =>
      split_ifs at eq with asked
      · have looked := lookup_spec p.flow p.tcpFlags now (finRange kConntrackCap) s.conntrack
        revert eq looked
        generalize conntrackLookupReverse p.flow p.tcpFlags now (finRange kConntrackCap)
          s.conntrack = r
        intro eq looked
        cases looked with
        | hit slot state active same live used swept =>
          cases eq
          exact ⟨rfl, .uses slot state swept used (.inl ⟨active, same, .inr live⟩) (.inl rfl)⟩
        | miss swept expired =>
          cases eq
          exact ⟨rfl, .sweeps swept fun _ _ =>
            ⟨ingress, fun _ => ⟨rfl, fun j => expired j (mem_finRange j)⟩⟩⟩
      · cases eq
        exact ⟨rfl, .sweeps same fun _ tracked =>
          ⟨ingress, fun deny => absurd ⟨deny, tracked⟩ asked⟩⟩

/-- An allowed packet of the flow since the entry was used keeps the flow backed, and so does any
other event. -/
lemma Backed.evaluate (backed : Backed flow es last) {p} (matched verdict)
    (soon : now ≤ last + longest)
    (le : last ≤ now) :
    ∃ last', Backed flow (es ++ [.evaluate p now matched verdict]) last' ∧ last ≤ last' ∧
      last' ≤ now := by
  cases verdict with
  | deny => exact ⟨last, backed.passes rfl nofun, le_rfl, le⟩
  | allow =>
    by_cases same : p.flow = flow
    · exact ⟨now, backed.goes same soon, le, le_rfl⟩
    · exact ⟨last, backed.passes (if_neg same) nofun, le_rfl, le⟩

/-- What the history says about an active entry. -/
structure Entered (es : List Event) (ticks : Nat) (e : ConntrackEntry) : Prop where
  backed : ticks < e.expiryTicks → ∃ last, Backed e.flow es last ∧ e.expiryTicks ≤ last + longest ∧
    last ≤ ticks
  recent : e.lastUseTicks ≤ ticks
  seen : ∃ p matched, .evaluate p e.lastUseTicks matched .allow ∈ es ∧ p.flow = e.flow

lemma Entered.stays (entered : Entered es ticks e) (le : ticks ≤ now) (p matched verdict) :
    Entered (es ++ [.evaluate p now matched verdict]) now e where
  backed live := by
    obtain ⟨last, backed, expiry, before⟩ := entered.backed (le.trans_lt live)
    obtain ⟨last', backed, after, before⟩ :=
      backed.evaluate matched verdict (live.le.trans expiry) (before.trans le)
    exact ⟨last', backed, expiry.trans (Nat.add_le_add_right after _), before⟩
  recent := entered.recent.trans le
  seen := by
    obtain ⟨q, by_, mem, same⟩ := entered.seen
    exact ⟨q, by_, mem_append_left _ mem, same⟩

/-- An entry is written for an egress packet, or for an ingress packet of a flow that is backed. -/
lemma Entered.used (claimed : Claimed t p now slot)
    (entered : (t slot).active → Entered es ticks (t slot))
    (le : ticks ≤ now) (matched state) :
    Entered (es ++ [.evaluate p now matched .allow]) now (.used p.flow state now) where
  backed _ := by
    refine ⟨now, ?_, used_expiry_le .., le_rfl⟩
    obtain ⟨active, same, egress | live⟩ | ⟨egress, -⟩ := claimed
    · exact .opens egress rfl
    · obtain ⟨last, backed, expiry, -⟩ := (entered active).backed (le.trans_lt live)
      exact .goes (same ▸ backed) rfl (live.le.trans expiry)
    · exact .opens egress rfl
  recent := le_rfl
  seen := ⟨p, matched, mem_append_right _ (mem_singleton_self _), rfl⟩

def OnePerFlow (t : Table) :
    Prop := ∀ i j, (t i).active → (t j).active → (t i).flow = (t j).flow → i = j

structure Tracks (es : List Event) (s : State) : Prop where
  distinct : OnePerFlow s.conntrack
  entered : AllLeave es → ∀ i, (s.conntrack i).active → Entered es s.ticks (s.conntrack i)

lemma Claimed.sole (claimed : Claimed t p now slot) (distinct : OnePerFlow t)
    (active : (t j).active)
    (same : (t j).flow = p.flow) : j = slot := by
  obtain ⟨own, flow, -⟩ | ⟨-, fresh, -⟩ := claimed
  · exact distinct j slot active own (same.trans flow.symm)
  · exact absurd same (fresh j active)

lemma Tracks.evaluate {es s s' p now matched verdict} (ok : Tracks es s) (le : s.ticks ≤ now)
    (eq : fwEvaluate { s with ticks := now } p = (verdict, matched, s')) :
    Tracks (es ++ [.evaluate p now matched verdict]) s' := by
  obtain ⟨rfl, effect⟩ := fwEvaluate_effect eq
  have stays : ∀ {i}, AllLeave es → Swept s'.ticks (s.conntrack i) (s'.conntrack i) →
    (s'.conntrack i).active →
      Entered (es ++ [.evaluate p s'.ticks matched verdict]) s'.ticks (s'.conntrack i) := by
    intro i leave swept active
    have eq := swept.eq active
    exact eq ▸ (ok.entered leave i (eq ▸ active)).stays le p matched verdict
  cases effect with
  | sweeps swept =>
    refine ⟨fun i j iActive jActive same => ?_,
      fun leave i => stays (allLeave_append.mp leave).1 (swept i)⟩
    have iEq := (swept i).eq iActive
    have jEq := (swept j).eq jActive
    exact ok.distinct i j (iEq ▸ iActive) (jEq ▸ jActive) (iEq ▸ jEq ▸ same)
  | uses slot state swept used claimed passed =>
    -- An entry that stays has another flow than the one written.
    have other : ∀ {j}, j ≠ slot → (s'.conntrack j).active → (s'.conntrack j).flow ≠ p.flow := by
      intro j ne active same
      have eq := (swept j ne).eq active
      exact ne (claimed.sole ok.distinct (eq ▸ active) (eq ▸ same))
    have flow : (s'.conntrack slot).flow = p.flow := congrArg ConntrackEntry.flow used
    constructor
    · intro i j iActive jActive same
      by_cases iSlot : i = slot <;> by_cases jSlot : j = slot
      · exact iSlot.trans jSlot.symm
      · exact absurd (same.symm.trans (iSlot ▸ flow)) (other jSlot jActive)
      · exact absurd (same.trans (jSlot ▸ flow)) (other iSlot iActive)
      · have iEq := (swept i iSlot).eq iActive
        have jEq := (swept j jSlot).eq jActive
        exact ok.distinct i j (iEq ▸ iActive) (jEq ▸ jActive) (iEq ▸ jEq ▸ same)
    · intro leave i active
      obtain ⟨before, leaves⟩ := allLeave_append.mp leave
      by_cases eq : i = slot
      · subst eq
        cases leaves.allows passed
        exact used ▸ .used claimed (ok.entered before i) le matched state
      · exact stays before (swept i eq) active

lemma Tracks.step (ok : Tracks es s) (st : Step s e s') : Tracks (es ++ [e]) s' := by
  cases st with
  | evaluate le eq => exact ok.evaluate le eq
  | edit =>
    refine ⟨ok.distinct, fun leave i active => ?_⟩
    obtain ⟨backed, recent, p, matched, mem, same⟩ :=
      ok.entered (allLeave_append.mp leave).1 i active
    refine ⟨fun live => ?_, recent, p, matched, mem_append_left _ mem, same⟩
    obtain ⟨last, backed, rest⟩ := backed live
    exact ⟨last, backed.passes rfl nofun, rest⟩
  | reset => exact ⟨nofun, nofun⟩

lemma tracks_run (empty : ∀ i, (s₀.conntrack i).active = false) (run : Lts.Run Step s₀ es s) :
    Tracks es s := by
  induction run with
  | nil =>
    exact ⟨fun i _ active => by simp [empty i] at active,
      fun _ i active => by simp [empty i] at active⟩
  | snoc run st ih => exact ih.step st

/-- The flow has an entry used at this tick or later. -/
def Kept (flow : Flow) (tick : Nat) (s : State) : Prop :=
  ∃ i, (s.conntrack i).active ∧ (s.conntrack i).flow = flow ∧ tick ≤ (s.conntrack i).lastUseTicks ∧
    tick + shortest ≤ (s.conntrack i).expiryTicks

/-- When the least recently used of a full table was used since a tick, a table full of flows and
the flow of the packet were used since. -/
lemma full_used (ok : Tracks es s) (leave : AllLeave es) (early : s.ticks < max64)
    (full : ∀ j, (s.conntrack j).active ∧ ((s.conntrack j).lastUseTicks < max64 →
      (s.conntrack slot).lastUseTicks ≤ (s.conntrack j).lastUseTicks))
    (used : tick ≤ (s.conntrack slot).lastUseTicks)
    (fresh : ∀ j, (s.conntrack j).active → (s.conntrack j).flow ≠ new)
    (newUsed : new ∈ usedSince tick [e]) :
    kConntrackCap ≤ ((usedSince tick (es ++ [e])).erase flow).card := by
  let flows := Finset.univ.image fun j => (s.conntrack j).flow
  have card : flows.card = kConntrackCap :=
    (Finset.card_image_of_injective _ fun i j => ok.distinct i j (full i).1 (full j).1).trans
      (Fintype.card_fin _)
  have new_not_mem : new ∉ flows := by
    simp only [flows, Finset.mem_image, not_exists, not_and]
    exact fun j _ => fresh j (full j).1
  have subset : insert new flows ⊆ usedSince tick (es ++ [e]) := by
    refine Finset.insert_subset ?_ (Finset.image_subset_iff.mpr fun j _ => ?_)
    · obtain ⟨p, now, matched, mem, rest⟩ := mem_usedSince.mp newUsed
      exact mem_usedSince.mpr ⟨p, now, matched, mem_append_right _ mem, rest⟩
    · obtain ⟨-, recent, p, matched, mem, same⟩ := ok.entered leave j (full j).1
      exact mem_usedSince.mpr
        ⟨p, _, matched, mem_append_left _ mem,
          used.trans ((full j).2 (recent.trans_lt early)), same⟩
  have le := Finset.card_le_card subset
  rw [Finset.card_insert_of_notMem new_not_mem, card] at le
  exact (Nat.le_sub_one_of_lt le).trans Finset.pred_card_le_card_erase

lemma Kept.step (kept : Kept flow tick s) (ok : Tracks es s) (leave : AllLeave (es ++ [e]))
    (st : Step s e s')
    (noReset : e ≠ .reset) (room : s'.ticks + longest ≤ max64) (young : s'.ticks < tick + shortest)
    (few : ((usedSince tick (es ++ [e])).erase flow).card < kConntrackCap) : Kept flow tick s' := by
  obtain ⟨i, active, rfl, used, expiry⟩ := kept
  obtain ⟨before, leaves⟩ := allLeave_append.mp leave
  cases st with
  | edit => exact ⟨i, active, rfl, used, expiry⟩
  | reset => exact absurd rfl noReset
  | @evaluate p now verdict matched _ le eq =>
    obtain ⟨rfl, effect⟩ := fwEvaluate_effect eq
    have later : tick ≤ s'.ticks := used.trans ((ok.entered before i active).recent.trans le)
    -- The entry has not expired, so it stays unless it is written.
    have stays : Swept s'.ticks (s.conntrack i) (s'.conntrack i) →
      Kept (s.conntrack i).flow tick s' := by
      rintro (same | ⟨expired, -⟩)
      · exact ⟨i, same.symm ▸ ⟨active, rfl, used, expiry⟩⟩
      · omega
    cases effect with
    | sweeps swept => exact stays (swept i)
    | uses slot state swept wrote claimed passed =>
      by_cases eq : i = slot
      · subst eq
        obtain ⟨-, same, -⟩ | ⟨egress, fresh, free | full⟩ := claimed
        · refine ⟨i, wrote ▸ ⟨rfl, same.symm, later, ?_⟩⟩
          exact (Nat.add_le_add_right later _).trans (le_used_expiry _ _ room)
        · exact absurd active (by simp [free])
        · cases leaves.allows passed
          have newUsed : p.flow ∈ usedSince tick [.evaluate p s'.ticks matched .allow] :=
            mem_usedSince.mpr ⟨p, _, _, mem_singleton_self _, later, rfl⟩
          have early : s.ticks < max64 := by
            have : 0 < longest := by decide
            omega
          exact absurd (full_used ok before early full used fresh newUsed) (not_le.mpr few)
      · exact stays (swept i eq)

lemma Step.ticks_le (st : Step s e s') : s.ticks ≤ s'.ticks := by
  cases st with
  | evaluate le eq => exact le.trans (fwEvaluate_effect eq).1.ge
  | edit => exact le_rfl
  | reset => exact le_rfl

lemma kept_run (empty : ∀ i, (s₀.conntrack i).active = false) (first : Lts.Run Step s₀ es s₁)
    (kept : Kept flow tick s₁)
    (run : Lts.Run Step s₁ es₂ s) (leave : AllLeave (es ++ es₂)) (noReset : .reset ∉ es₂)
    (room : s.ticks + longest ≤ max64) (young : s.ticks < tick + shortest)
    (few : ((usedSince tick (es ++ es₂)).erase flow).card < kConntrackCap) : Kept flow tick s := by
  induction run with
  | nil => exact kept
  | @snoc _ _ es₂ _ run st ih =>
    rw [← append_assoc] at leave few
    have le := st.ticks_le
    have fewer : ((usedSince tick (es ++ es₂)).erase flow).card < kConntrackCap := by
      refine (Finset.card_le_card (Finset.erase_subset_erase _ fun f mem => ?_)).trans_lt few
      obtain ⟨p, now, matched, mem, rest⟩ := mem_usedSince.mp mem
      exact mem_usedSince.mpr ⟨p, now, matched, mem_append_left _ mem, rest⟩
    have kept := ih (allLeave_append.mp leave).1 (fun mem => noReset (mem_append_left _ mem))
      (by omega)
      (by omega) fewer
    exact kept.step (tracks_run empty (first.append run)) leave st
      (fun eq => noReset (eq ▸ mem_append_right _ (mem_singleton_self _))) room young few

/-- The flow had an allowed packet less than the shortest life ago that no rule matched, while the
ingress default was Deny if it came in, and since its tick fewer other flows were used than the
table holds. -/
def InUse (s₀ s : State) (es : List Event) (flow : Flow) (now : Nat) : Prop :=
  ∃ es₁ s₁ p tick s₂ es₂, es = es₁ ++ .evaluate p tick none .allow :: es₂ ∧ Lts.Run Step s₀ es₁ s₁ ∧
    Step s₁ (.evaluate p tick none .allow) s₂ ∧ Lts.Run Step s₂ es₂ s ∧
      (p.dir = .egress ∨ s₁.defaultIn = .deny) ∧
    p.flow = flow ∧ .reset ∉ es₂ ∧ now < tick + shortest ∧
      ((usedSince tick es).erase flow).card < kConntrackCap

lemma kept_of_inUse (empty : ∀ i, (s₀.conntrack i).active = false) (leave : AllLeave es)
    (tracked : flow.proto.Tracked)
    (le : s.ticks ≤ now) (room : now + longest ≤ max64) (inUse : InUse s₀ s es flow now) :
    ∃ i, (s.conntrack i).active ∧ (s.conntrack i).flow = flow ∧
      now < (s.conntrack i).expiryTicks := by
  obtain ⟨es₁, s₁, p, tick, s₂, es₂, rfl, first, st, run, asked, rfl, noReset, young, few⟩ := inUse
  have ticks : s₂.ticks ≤ s.ticks := run.invariant (P := (s₂.ticks ≤ ·.ticks)) le_rfl fun ih st =>
    ih.trans st.ticks_le
  have kept : Kept p.flow tick s₂ := by
    cases st with
    | evaluate _ eq =>
      obtain ⟨rfl, effect⟩ := fwEvaluate_effect eq
      cases effect with
      | sweeps swept missed =>
        obtain ⟨ingress, denied⟩ := missed rfl (flow_proto p ▸ tracked)
        obtain egress | deny := asked
        · cases ingress.symm.trans egress
        · cases (denied deny).1
      | uses slot state swept used =>
        exact ⟨slot, used ▸ ⟨rfl, rfl, le_rfl, le_used_expiry _ _ (by omega)⟩⟩
  rw [append_cons] at leave few
  obtain ⟨i, active, same, -, expiry⟩ :=
    kept_run empty (first.snoc st) kept run leave noReset (by omega) (by omega) few
  exact ⟨i, active, same, by omega⟩

/-- While every egress packet that no rule matches may leave, under an ingress default of Deny a
packet that no rule matches comes in only if its flow is backed, and it does come in if the flow is
in use; and a flow has one entry. -/
theorem replies_come_in (empty : ∀ i, (s₀.conntrack i).active = false)
    (run : Lts.Run Step s₀ es s) :
    (∀ p now verdict s', Step s (.evaluate p now none verdict) s' → p.dir = .ingress →
      p.proto.Tracked →
      s.defaultIn = .deny → AllLeave es →
        (verdict = .allow → ∃ last, Backed p.flow es last ∧ now ≤ last + longest) ∧
      (now + longest ≤ max64 → InUse s₀ s es p.flow now → verdict = .allow)) ∧
        OnePerFlow s.conntrack := by
  have ok := tracks_run empty run
  refine ⟨fun p now verdict s' st ingress tracked deny leave => ?_, ok.distinct⟩
  have notEgress : p.dir ≠ .egress := fun egress => by cases ingress.symm.trans egress
  cases st with
  | evaluate le eq =>
    cases (fwEvaluate_effect eq).2 with
    | sweeps swept missed =>
      obtain ⟨rfl, expired⟩ := (missed rfl tracked).2 deny
      refine ⟨nofun, fun room inUse => ?_⟩
      obtain ⟨i, active, same, live⟩ :=
        kept_of_inUse empty leave (flow_proto p ▸ tracked) le room inUse
      exact absurd (expired i active same) (not_le.mpr live)
    | uses slot state swept used claimed passed =>
      refine ⟨fun _ => ?_, fun _ _ => passed.resolve_right fun is => notEgress is.1⟩
      obtain ⟨active, same, egress | live⟩ | ⟨egress, -⟩ := claimed
      · exact absurd egress notEgress
      · obtain ⟨last, backed, expiry, -⟩ := (ok.entered leave slot active).backed (le.trans_lt live)
        exact ⟨last, same ▸ backed, live.le.trans expiry⟩
      · exact absurd egress notEgress

def start (defaultOut : Action) : State :=
  ⟨fun _ => ⟨false, .ingress, .any, ⟨0, 0⟩, ⟨0, 0⟩, ⟨0, 0xFFFF⟩, ⟨0, 0xFFFF⟩, .deny⟩, .deny,
    defaultOut,
    fun _ => ⟨false, ⟨.any, 0, 0, 0, 0⟩, 0, 0, .new⟩, 0⟩

def syn : Packet := ⟨.egress, .tcp, 0x0A000001, 0x0A000002, 50000, 80, 0x02⟩

def synAck : Packet := ⟨.ingress, .tcp, 0x0A000002, 0x0A000001, 80, 50000, 0x12⟩

lemma step_of_verdict (result : ((fwEvaluate s p).1, (fwEvaluate s p).2.1) = (verdict, matched)) :
    Step s (.evaluate p s.ticks matched verdict) (fwEvaluate s p).2.2 := by
  cases result
  exact .evaluate le_rfl rfl

theorem replies_come_in_synAck : ∃ last, Backed synAck.flow [.evaluate syn 0 none .allow] last ∧
    0 ≤ last + longest :=
  ((@replies_come_in (start .allow) _ _ (fun _ => rfl)
    (.snoc .nil (step_of_verdict (by decide +kernel)))).1
    synAck 0 .allow _ (step_of_verdict (s := (fwEvaluate (start .allow) syn).2.2)
      (by decide +kernel)) rfl (.inl rfl)
    rfl (by simp +contextual [AllLeave])).1 rfl

/-- With Deny as both defaults and no rules, the SYN may not leave and no packet was ever allowed,
but its answer comes in. -/
theorem denied_syn_opens : ∃ s₁ s₂, Step (start .deny) (.evaluate syn 0 none .deny) s₁ ∧
    s₁.defaultIn = .deny ∧
    synAck.flow = syn.flow ∧ Step s₁ (.evaluate synAck 0 none .allow) s₂ :=
  ⟨_, _, step_of_verdict (by decide +kernel), rfl, rfl,
    step_of_verdict (s := (fwEvaluate (start .deny) syn).2.2) (by decide +kernel)⟩

end DuetOS.Firewall
