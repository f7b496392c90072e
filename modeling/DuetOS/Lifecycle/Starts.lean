import DuetOS.Lib.Slots
import DuetOS.Lifecycle.Invariant

/-!
# Starts and instances

The history tells which start tickets were handed out and settled, and which instances were
published, asked to die or seen to exit. The tickets still building and the tokens still live are
exactly those the rows stand for, so a service has at most one of each.
-/

namespace DuetOS.Lifecycle

open Word List Slots Prod

def Outcome.reservation : Outcome → Option ServiceLifecycleStartTicket
  | .reserved ticket => some ticket
  | _ => none

def Outcome.settlement : Outcome → Option ServiceLifecycleStartTicket
  | .failed ticket => some ticket
  | .published token => some token.start
  | _ => none

def Outcome.publication : Outcome → Option ServiceLifecycleInstanceToken
  | .published token => some token
  | _ => none

def Outcome.exit : Outcome → Option ServiceLifecycleInstanceToken
  | .exited token => some token
  | _ => none

def Outcome.kills : Outcome → List ServiceLifecycleInstanceToken
  | .killed token => [token]
  | .drained plan => plan.instances
  | _ => []

section

variable (es : List Event) (ticket : ServiceLifecycleStartTicket)

def reservations : List ServiceLifecycleStartTicket :=
  es.filterMap fun e => e.outcome.reservation

def retirements : List ServiceLifecycleStartTicket :=
  es.filterMap fun e => e.outcome.retired

def settlements : List ServiceLifecycleStartTicket :=
  es.filterMap fun e => e.outcome.settlement

def publications : List ServiceLifecycleInstanceToken :=
  es.filterMap fun e => e.outcome.publication

def exits : List ServiceLifecycleInstanceToken :=
  es.filterMap fun e => e.outcome.exit

def kills (es : List Event) : List ServiceLifecycleInstanceToken :=
  es.flatMap fun e => e.outcome.kills

/-- The ticket was handed out and its builder is not done. -/
def Building : Prop :=
  ticket ∈ reservations es ∧ ticket ∉ retirements es

def Live (token : ServiceLifecycleInstanceToken) : Prop :=
  token ∈ publications es ∧ token ∉ exits es

/-- The start whose builder or whose instance is current. -/
def Current : Prop :=
  Building es ticket ∨ ∃ token, Live es token ∧ token.start = ticket

end

def ServiceLifecycleRow.builds (epoch : Nat) (row : ServiceLifecycleRow) :
    Option ServiceLifecycleStartTicket :=
  if row.builderState ≠ .none then some (row.ticket epoch) else none

def ServiceLifecycleRow.runs (epoch : Nat) (row : ServiceLifecycleRow) :
    Option ServiceLifecycleInstanceToken :=
  if row.transition.live then some (row.token epoch) else none

/-- The start of `ticket` has reached `rank`. -/
def Passed (rank : Nat) (b : ServiceLifecycleBroker)
    (ticket : ServiceLifecycleStartTicket) : Prop :=
  ticket.brokerEpoch = b.brokerEpoch ∧ ∃ index : Fin kServiceLifecycleCapacity,
    index.val < b.serviceCount ∧
    ticket.transition.serviceIdentity = (b.rows index).transition.serviceIdentity ∧
    (ticket.transition.generation < (b.rows index).transition.generation ∨
      ticket.transition.generation = (b.rows index).transition.generation ∧
        rank ≤ (b.rows index).transition.phase.rank)

section Passed

variable {b b' : ServiceLifecycleBroker} {outcome : Outcome} {rank : Nat}

lemma passed_ticket (sound : Sound b) (used : index.val < b.serviceCount) :
    Passed rank b ((b.rows index).ticket b.brokerEpoch) ↔
      rank ≤ (b.rows index).transition.phase.rank := by
  constructor
  · rintro ⟨_, other, used', identity, age⟩
    cases sound.identity_unique used used' identity
    exact age.elim (fun less => absurd less (Nat.lt_irrefl _)) And.right
  · exact fun reached => ⟨rfl, index, used, rfl, .inr ⟨rfl, reached⟩⟩

lemma Effect.passed (effect : Effect b outcome b') (sound : Sound b)
    (passed : Passed rank b ticket) :
    Passed rank b' ticket := by
  obtain ⟨count, epoch, later⟩ := effect.later sound
  obtain ⟨same, index, used, identity, age⟩ := passed
  refine ⟨same.trans epoch.symm, index, count.symm ▸ used,
    identity.trans (later index).identity.symm, ?_⟩
  rcases age with less | ⟨eq, reached⟩ <;> rcases (later index).age with less' | ⟨eq', reached'⟩
  · exact .inl (less.trans less')
  · exact .inl (less.trans_eq eq')
  · exact .inl (eq.trans_lt less')
  · exact .inr ⟨eq.trans eq', reached.trans reached'⟩

lemma passed_setRow (used : index.val < b.serviceCount)
    (reached : rank ≤ row.transition.phase.rank) :
    Passed rank (b.setRow index row) (row.ticket b.brokerEpoch) := by
  have eq : (b.setRow index row).rows index = row := Function.update_self ..
  refine ⟨rfl, index, used, ?_, .inr ⟨?_, ?_⟩⟩ <;> rw [eq]
  · rfl
  · rfl
  · exact reached

lemma passed_move (sound : Sound b) (used : index.val < b.serviceCount)
    (before : (b.rows index).transition.phase.rank < rank)
    (after : rank ≤ row.transition.phase.rank)
    (same : row.ticket b.brokerEpoch = (b.rows index).ticket b.brokerEpoch) :
    ¬Passed rank b ((b.rows index).ticket b.brokerEpoch) ∧
      Passed rank (b.setRow index row) ((b.rows index).ticket b.brokerEpoch) := by
  refine ⟨fun passed => ?_, ?_⟩
  · exact Nat.lt_irrefl _ (before.trans_le ((passed_ticket sound used).mp passed))
  · rw [← same]
    exact passed_setRow used after

lemma Effect.reservation (effect : Effect b outcome b') (sound : Sound b)
    (issued : outcome.reservation = some ticket) :
    ¬Passed 0 b ticket ∧ Passed 0 b' ticket := by
  cases effect with
  | @moved _ row index used _ _ move =>
    cases move with
    | reserve idle notExhausted room builder =>
      cases issued
      have bound := (sound.row index used).generation
      refine ⟨?_, passed_setRow used (Nat.zero_le _)⟩
      rintro ⟨_, other, used', identity, age⟩
      cases sound.identity_unique used used' identity
      simp only [add64_eq (show (b.rows index).transition.generation + 1 ≤ max64 by omega)] at age
      omega
    | _ => cases issued
  | _ => cases issued

lemma Effect.settlement (effect : Effect b outcome b') (sound : Sound b)
    (settled : outcome.settlement = some ticket) :
    ¬Passed 1 b ticket ∧ Passed 1 b' ticket := by
  cases effect with
  | @moved _ row index used _ _ move =>
    cases move with
    | fail starting constructing =>
      cases settled
      refine passed_move sound used ?_ (show 1 ≤ 3 by decide) rfl
      rw [starting]
      decide
    | publish starting constructing valid =>
      cases settled
      refine passed_move sound used ?_ (show 1 ≤ 1 by decide) rfl
      rw [starting]
      decide
    | _ => cases settled
  | _ => cases settled

lemma Effect.exit (effect : Effect b outcome b') (sound : Sound b) {token}
    (exited : outcome.exit = some token) :
    ¬Passed 3 b token.start ∧ Passed 3 b' token.start := by
  cases effect with
  | @moved _ row index used _ _ move =>
    cases move with
    | exit live =>
      cases exited
      refine passed_move sound used ?_ (rank_of_idle (exitedPhase_idle ..)).ge rfl
      rcases live with running | stopping
      · rw [running]
        decide
      · rw [stopping]
        decide
    | _ => cases exited
  | _ => cases exited

lemma running_of_toKill (sound : Sound b)
    (kill : (b.rows index).toKill b.brokerEpoch = some token) :
    index.val < b.serviceCount ∧ (b.rows index).transition.phase = .running ∧
      (b.rows index).token b.brokerEpoch = token := by
  unfold ServiceLifecycleRow.toKill at kill
  split at kill
  next running =>
    refine ⟨Nat.not_le.mp fun beyond => ?_, running, Option.some.inj kill⟩
    exact (sound.unused index beyond).2.2.1 running
  · cases kill

lemma planAt_instances_nodup (sound : Sound b) : (b.planAt b.indices).instances.Nodup := by
  refine (indices_nodup b).filterMap fun i j token kill_i kill_j => ?_
  obtain ⟨used_i, _, rfl⟩ := running_of_toKill sound kill_i
  obtain ⟨used_j, _, eq⟩ := running_of_toKill sound kill_j
  exact sound.identity_unique used_i used_j
    (congrArg (fun token => token.start.transition.serviceIdentity) eq.symm)

lemma drained_running {row : ServiceLifecycleRow}
    (running : row.transition.phase = .running) (nowNs) :
    row.drained nowNs = row.stopped row.transition.stopping row.builderState nowNs := by
  rw [ServiceLifecycleRow.drained, if_neg (by rw [running]; decide), if_pos running]

lemma Effect.kill (effect : Effect b outcome b') (sound : Sound b)
    {token : ServiceLifecycleInstanceToken} (killed : token ∈ outcome.kills) :
    ¬Passed 2 b token.start ∧ Passed 2 b' token.start := by
  cases effect with
  | refused | closed => cases killed
  | @moved _ row index used _ _ move =>
    cases move with
    | kill running =>
      cases mem_singleton.mp killed
      refine passed_move sound used ?_ (show 2 ≤ 2 by decide) rfl
      rw [running]
      decide
    | _ => cases killed
  | @drained nowNs _ =>
    obtain ⟨index, _, kill⟩ := mem_filterMap.mp killed
    obtain ⟨used, running, rfl⟩ := running_of_toKill sound kill
    constructor
    · intro passed
      have reached := (passed_ticket sound used).mp passed
      rw [running] at reached
      exact absurd reached (by decide)
    · refine ⟨rfl, index, used, ?_, .inr ⟨?_, ?_⟩⟩ <;>
        rw [drainedAt_row_of_mem (mem_indices.mpr used), drained_running running]
      · rfl
      · rfl
      · exact Nat.le_refl 2

lemma Effect.kills_nodup (effect : Effect b outcome b') (sound : Sound b) :
    outcome.kills.Nodup := by
  cases effect with
  | drained _ => exact planAt_instances_nodup sound
  | moved _ _ _ move =>
    cases move with
    | kill _ => exact nodup_singleton _
    | _ => exact nodup_nil
  | _ => exact nodup_nil

end Passed

section Conserved

variable {b b' : ServiceLifecycleBroker} {outcome : Outcome} {epoch : Nat}
  {row row' : ServiceLifecycleRow}

lemma builds_of_none (done : row.builderState = .none) :
    row.builds epoch = none := if_neg (not_not.mpr done)

lemma builds_of_ne_none (building : row.builderState ≠ .none) :
    row.builds epoch = some (row.ticket epoch) :=
  if_pos building

lemma runs_of_not_live (dead : ¬row.transition.live) : row.runs epoch = none := if_neg dead

lemma runs_of_live (live : row.transition.live) :
    row.runs epoch = some (row.token epoch) := if_pos live

lemma not_live_of_idle {state : ServiceTransitionState} (idle : state.idle) : ¬state.live :=
  fun live => live.elim idle.2.1 idle.2.2

lemma not_live_of_starting {state : ServiceTransitionState} (starting : state.phase = .starting) :
    ¬state.live := by
  rintro (running | stopping)
  · exact nomatch starting.symm.trans running
  · exact nomatch starting.symm.trans stopping

lemma starting_building (ok : RowOk row) (starting : row.transition.phase = .starting) :
    row.builderState ≠ .none := by
  intro done
  have canonical := ok.builder
  rw [builderStateIsCanonical, done] at canonical
  exact of_decide_eq_true canonical starting

/-- A move starts to build what it reserves and is done with what it retires. -/
lemma Move.builds (move : Move epoch row outcome row') (ok : RowOk row) :
    ((row'.builds epoch).toList : Multiset ServiceLifecycleStartTicket) + outcome.retired.toList
      = (row.builds epoch).toList + outcome.reservation.toList := by
  cases move with
  | reserve idle notExhausted room builder =>
    rw [builds_of_none builder]
    rfl
  | exhaust idle last builder =>
    rfl
  | fail starting constructing | publish starting constructing valid | cancel starting =>
    rw [builds_of_ne_none (starting_building ok starting)]
    rfl
  | acknowledge cancelled =>
    have building : row.builderState ≠ .none := by
      rw [cancelled]
      decide
    rw [builds_of_ne_none building]
    rfl
  | _ => rfl

/-- A move makes live what it publishes and ends what it sees exit. -/
lemma Move.runs (move : Move epoch row outcome row') :
    ((row'.runs epoch).toList : Multiset ServiceLifecycleInstanceToken) + outcome.exit.toList
      = (row.runs epoch).toList + outcome.publication.toList := by
  cases move with
  | reserve idle notExhausted room builder | exhaust idle last builder =>
    rw [runs_of_not_live (not_live_of_idle idle)]
    rfl
  | fail starting constructing | publish starting constructing valid =>
    rw [runs_of_not_live (not_live_of_starting starting)]
    rfl
  | acknowledge cancelled | ready running builder => rfl
  | cancel starting =>
    have after : ¬(row.transition.settled (stoppedPhase row.transition.generation)).live :=
      not_live_of_idle (stoppedPhase_idle _)
    rw [runs_of_not_live (not_live_of_starting starting)]
    simp only [ServiceLifecycleRow.runs, ServiceLifecycleRow.stopped, after, if_false]
    rfl
  | kill running =>
    rw [runs_of_live (.inl running)]
    rfl
  | exit live =>
    have after : ¬(row.transition.settled (if row.transition.phase = .stopping then
        stoppedPhase row.transition.generation else .exited)).live :=
      not_live_of_idle (exitedPhase_idle ..)
    rw [runs_of_live live]
    simp only [ServiceLifecycleRow.runs, after, if_false]
    rfl

lemma option_eq_of_toList {α : Type*} {a b : Option α}
    (same : (a.toList : Multiset α) + 0 = b.toList + 0) : a = b := by
  cases a <;> cases b <;> simp_all

lemma drained_holds (ok : RowOk row) (nowNs : Nat) :
    (row.drained nowNs).builds epoch = row.builds epoch ∧
      (row.drained nowNs).runs epoch = row.runs epoch := by
  rcases drained_cases epoch nowNs row with ⟨same, _, _⟩ | ⟨_, move⟩ | ⟨_, move⟩
  · rw [same]
    exact ⟨rfl, rfl⟩
  all_goals exact ⟨option_eq_of_toList (move.builds ok), option_eq_of_toList move.runs⟩

def ServiceLifecycleBroker.building (b : ServiceLifecycleBroker) :
    Multiset ServiceLifecycleStartTicket :=
  gather (fun row => row.builds b.brokerEpoch) b.rows

def ServiceLifecycleBroker.running (b : ServiceLifecycleBroker) :
    Multiset ServiceLifecycleInstanceToken :=
  gather (fun row => row.runs b.brokerEpoch) b.rows

lemma drainedAt_holds (sound : Sound b) (nowNs) :
    ({ b with state := .draining }.drainedAt b.indices nowNs).building = b.building ∧
      ({ b with state := .draining }.drainedAt b.indices nowNs).running = b.running := by
  have same := @forall_drainedAt { b with state := .draining }
    (fun other row' => row'.builds b.brokerEpoch = (b.rows other).builds b.brokerEpoch ∧
      row'.runs b.brokerEpoch = (b.rows other).runs b.brokerEpoch) nowNs
    (fun _ => ⟨rfl, rfl⟩) fun other used => drained_holds (sound.row other used) nowNs
  exact ⟨gather_congr fun index => (same index).1, gather_congr fun index => (same index).2⟩

lemma Effect.building (effect : Effect b outcome b') (sound : Sound b) :
    b'.building + outcome.retired.toList = b.building + outcome.reservation.toList := by
  cases effect with
  | refused | closed => rfl
  | moved used _ _ move => exact gather_update (move.builds (sound.row _ used))
  | drained _ =>
    rw [(drainedAt_holds sound _).1]
    rfl

lemma Effect.running (effect : Effect b outcome b') (sound : Sound b) :
    b'.running + outcome.exit.toList = b.running + outcome.publication.toList := by
  cases effect with
  | refused | closed => rfl
  | moved used _ _ move => exact gather_update move.runs
  | drained _ =>
    rw [(drainedAt_holds sound _).2]
    rfl

lemma Initialized.holds (init : Initialized b) : b.building = 0 ∧ b.running = 0 := by
  constructor
  all_goals
    refine gather_eq_zero fun index => ?_
    obtain ⟨identity, mask, eq⟩ := init.row index
    rw [eq]
    rfl

lemma mem_building :
    ticket ∈ b.building ↔ ∃ index, (b.rows index).builds b.brokerEpoch = some ticket :=
  mem_gather

lemma mem_running : token ∈ b.running ↔ ∃ index, (b.rows index).runs b.brokerEpoch = some token :=
  mem_gather

-- the sums over all rows are never computed
attribute [irreducible] ServiceLifecycleBroker.building ServiceLifecycleBroker.running

end Conserved

section History

variable {b b' : ServiceLifecycleBroker} {es : List Event}

lemma Step.effect (sound : Sound b) (st : Step b event b') : Effect b event.outcome b' :=
  (st.explained sound).effect

lemma settlement_of_publication {outcome : Outcome} {token}
    (published : outcome.publication = some token)
    : outcome.settlement = some token.start := by
  cases outcome <;> cases published
  rfl

lemma Step.building (sound : Sound b) (st : Step b event b') :
    b'.building + event.outcome.retired.toList = b.building + event.outcome.reservation.toList :=
  (st.effect sound).building sound

lemma Step.running (sound : Sound b) (st : Step b event b') :
    b'.running + event.outcome.exit.toList = b.running + event.outcome.publication.toList :=
  (st.effect sound).running sound

lemma builds_eq_some (sound : Sound b)
    (builds : (b.rows index).builds b.brokerEpoch = some ticket) :
    index.val < b.serviceCount ∧ (b.rows index).builderState ≠ .none ∧
      (b.rows index).ticket b.brokerEpoch = ticket := by
  unfold ServiceLifecycleRow.builds at builds
  split at builds
  next building =>
    refine ⟨Nat.not_le.mp fun beyond => ?_, building, Option.some.inj builds⟩
    exact building (sound.unused index beyond).1
  · cases builds

lemma runs_eq_some (sound : Sound b) (runs : (b.rows index).runs b.brokerEpoch = some token) :
    index.val < b.serviceCount ∧ (b.rows index).transition.live ∧
      (b.rows index).token b.brokerEpoch = token := by
  unfold ServiceLifecycleRow.runs at runs
  split at runs
  next live =>
    refine ⟨Nat.not_le.mp fun beyond => ?_, live, Option.some.inj runs⟩
    exact not_live_of_idle (sound.unused index beyond).2 live
  · cases runs

lemma Effect.kill_running (effect : Effect b outcome b') (sound : Sound b)
    (killed : token ∈ outcome.kills) :
    ∃ index, (b.rows index).runs b.brokerEpoch = some token := by
  cases effect with
  | @moved _ row index _ _ _ move =>
    cases move with
    | kill running =>
      cases mem_singleton.mp killed
      exact ⟨index, runs_of_live (.inl running)⟩
    | _ => cases killed
  | drained _ =>
    obtain ⟨index, _, kill⟩ := mem_filterMap.mp killed
    obtain ⟨_, running, rfl⟩ := running_of_toKill sound kill
    exact ⟨index, runs_of_live (.inl running)⟩
  | _ => cases killed

lemma outcome_of_token {event : Event} (presented : event.token = some token) :
    event.outcome = .quiet ∨ event.outcome = .readied token ∨ event.outcome = .exited token := by
  cases event <;> cases presented
  · rename_i result
    by_cases both : result.lifecycleStatus = .ok ∧ result.directoryStatus = .ok
    · exact .inr (.inl (if_pos both))
    · exact .inl (if_neg both)
  · rename_i status
    by_cases ok : status = .ok
    · exact .inr (.inr (if_pos ok))
    · exact .inl (if_neg ok)

lemma Effect.stays_shut (effect : Effect b outcome b') (shut : b.state ≠ .open) :
    b'.state ≠ .open := by
  cases effect with
  | refused | moved _ _ _ _ => exact shut
  | drained isOpen => exact absurd isOpen shut
  | closed => exact nofun

variable (init : Initialized b) (run : Run b es b')

include init run

lemma Run.reservations_nodup : (reservations es).Nodup :=
  (run.issued_nodup (I := Sound) (P := Passed 0) (Sound.of_initialized init) Step.sound
    (fun sound st => (st.effect sound).reservation sound)
    (fun sound st => (st.effect sound).passed sound)).1

lemma Run.settlements_nodup : (settlements es).Nodup :=
  (run.issued_nodup (I := Sound) (P := Passed 1) (Sound.of_initialized init) Step.sound
    (fun sound st => (st.effect sound).settlement sound)
    (fun sound st => (st.effect sound).passed sound)).1

lemma Run.kills_nodup : (kills es).Nodup :=
  (run.issued_all_nodup (I := Sound) (P := fun b token => Passed 2 b token.start)
    (Sound.of_initialized init) Step.sound (fun sound st => (st.effect sound).kills_nodup sound)
    (fun sound st => (st.effect sound).kill sound)
    (fun sound st => (st.effect sound).passed sound)).1

lemma Run.exits_nodup : (exits es).Nodup :=
  (run.issued_nodup (I := Sound) (P := fun b token => Passed 3 b token.start)
    (Sound.of_initialized init) Step.sound (fun sound st => (st.effect sound).exit sound)
    (fun sound st => (st.effect sound).passed sound)).1

lemma Run.publications_nodup : (publications es).Nodup :=
  (run.issued_nodup (I := Sound) (P := fun b token => Passed 1 b token.start)
    (Sound.of_initialized init) Step.sound
    (fun sound st published =>
      (st.effect sound).settlement sound (settlement_of_publication published))
    (fun sound st => (st.effect sound).passed sound)).1

lemma Run.building_conserved : b'.building + retirements es = reservations es := by
  have conserved := run.conserved_items (I := Sound) (h := ServiceLifecycleBroker.building)
    (p := fun e => e.outcome.reservation) (q := fun e => e.outcome.retired)
    (Sound.of_initialized init) Step.sound Step.building
  rwa [init.holds.1, zero_add] at conserved

lemma Run.running_conserved : b'.running + exits es = publications es := by
  have conserved := run.conserved_items (I := Sound) (h := ServiceLifecycleBroker.running)
    (p := fun e => e.outcome.publication) (q := fun e => e.outcome.exit)
    (Sound.of_initialized init) Step.sound Step.running
  rwa [init.holds.2, zero_add] at conserved

lemma Run.building_iff :
    Building es ticket ↔ ∃ index, (b'.rows index).builds b'.brokerEpoch = some ticket := by
  rw [← mem_building]
  exact (Bag.mem_held_iff (Run.building_conserved init run) (Run.reservations_nodup init run)).symm

lemma Run.live_iff : Live es token ↔ ∃ index, (b'.rows index).runs b'.brokerEpoch = some token := by
  rw [← mem_running]
  exact (Bag.mem_held_iff (Run.running_conserved init run) (Run.publications_nodup init run)).symm

lemma Run.current_row (current : Current es ticket) :
    ∃ index : Fin kServiceLifecycleCapacity, index.val < b'.serviceCount ∧
      (b'.rows index).ticket b'.brokerEpoch = ticket := by
  have sound := Run.sound init run
  rcases current with building | ⟨token, live, rfl⟩
  · obtain ⟨index, builds⟩ := (Run.building_iff init run).mp building
    obtain ⟨used, _, eq⟩ := builds_eq_some sound builds
    exact ⟨index, used, eq⟩
  · obtain ⟨index, runs⟩ := (Run.live_iff init run).mp live
    obtain ⟨used, _, rfl⟩ := runs_eq_some sound runs
    exact ⟨index, used, rfl⟩

lemma Run.current_unique (current₁ : Current es ticket₁) (current₂ : Current es ticket₂)
    (same : ticket₁.transition.serviceIdentity = ticket₂.transition.serviceIdentity) :
    ticket₁ = ticket₂ := by
  obtain ⟨i, used_i, rfl⟩ := Run.current_row init run current₁
  obtain ⟨j, used_j, rfl⟩ := Run.current_row init run current₂
  cases (Run.sound init run).identity_unique used_i used_j same
  rfl

lemma Run.exits_subset : ∀ token ∈ exits es, token ∈ publications es := by
  intro token mem
  have all : token ∈ b'.running + exits es := Multiset.mem_add.mpr (.inr mem)
  rw [Run.running_conserved init run] at all
  exact all

lemma Run.kills_subset : ∀ token ∈ kills es, token ∈ publications es := by
  induction run with
  | nil => exact nofun
  | snoc run st ih =>
    have sound := Run.sound init run
    intro token mem
    rw [publications, filterMap_append]
    refine mem_append.mpr (.inl ?_)
    rw [kills, flatMap_append, flatMap_singleton] at mem
    rcases mem_append.mp mem with old | new
    · exact ih token old
    · exact ((Run.live_iff init run).mpr ((st.effect sound).kill_running sound new)).1

lemma Run.stale_ticket (st : Step b' event b'') (presented : event.ticket = some ticket)
    (stale : ¬Building es ticket) : b'' = b' := by
  have sound := Run.sound init run
  have explained := st.explained sound
  have used := explained.ticket presented
  have effect := explained.effect
  -- only a refusal is quiet, and only a row with this ticket's builder retires it
  generalize event.outcome = outcome at effect used
  cases effect with
  | refused => rfl
  | @moved _ row index _ _ _ move =>
    refine absurd ((Run.building_iff init run).mpr ⟨index, ?_⟩) stale
    cases move with
    | fail starting constructing | publish starting constructing valid =>
      cases used.resolve_left nofun
      exact builds_of_ne_none (by rw [constructing]; decide)
    | acknowledge cancelled =>
      cases used.resolve_left nofun
      exact builds_of_ne_none (by rw [cancelled]; decide)
    | _ => cases used with | inl quiet => cases quiet | inr eq => cases eq
  | drained _ | closed => cases used with | inl quiet => cases quiet | inr eq => cases eq

lemma Run.stale_token (st : Step b' event b'') (presented : event.token = some token)
    (stale : ¬Live es token) : b'' = b' := by
  have sound := Run.sound init run
  have used := outcome_of_token presented
  have effect := st.effect sound
  generalize event.outcome = outcome at effect used
  rcases used with rfl | rfl | rfl
  · cases effect with
    | refused => rfl
    | moved _ _ _ move => cases move
  · cases effect with
    | @moved _ row index _ _ _ move =>
      cases move with
      | ready running builder =>
        exact absurd ((Run.live_iff init run).mpr ⟨index, runs_of_live (.inl running)⟩) stale
  · cases effect with
    | @moved _ row index _ _ _ move =>
      cases move with
      | exit live => exact absurd ((Run.live_iff init run).mpr ⟨index, runs_of_live live⟩) stale

lemma Run.shut (drained : ∃ nowNs plan, Event.beginDrain nowNs .ok plan ∈ es) :
    b'.state ≠ .open := by
  obtain ⟨nowNs, plan, mem⟩ := drained
  induction run with
  | nil => cases mem
  | snoc run st ih =>
    have effect := st.effect (Run.sound init run)
    rcases mem_append.mp mem with old | new
    · exact effect.stays_shut (ih old)
    cases mem_singleton.mp new
    cases effect with
    | moved _ _ _ move => cases move
    | drained _ => exact nofun

lemma Run.never_corrupt : ∀ event ∈ es, event.status ≠ .corruptState := by
  induction run with
  | nil => exact nofun
  | snoc run st ih =>
    intro event mem
    rcases mem_append.mp mem with old | new
    · exact ih event old
    · cases mem_singleton.mp new
      exact (st.explained (Run.sound init run)).status

end History

/-- Along every run from an initialised broker: it stays canonical and no operation finds it
corrupt; a service has at most one current start, which is the one of its row; no start is published
or failed twice; no published instance is asked to die or seen to exit twice; a ticket whose builder
is done and a token whose instance is gone, or that never existed, change nothing; and after a drain
began nothing is starting or running. -/
theorem service_starts_settle_once {b b' : ServiceLifecycleBroker} {es : List Event}
    (init : Initialized b) (run : Run b es b') :
    (brokerIsCanonical b' ∧ ∀ event ∈ es, event.status ≠ .corruptState) ∧ ((reservations es).Nodup ∧
        (∀ ticket₁ ticket₂, Current es ticket₁ → Current es ticket₂ →
          ticket₁.transition.serviceIdentity = ticket₂.transition.serviceIdentity →
            ticket₁ = ticket₂) ∧
        ∀ ticket, Current es ticket → ∃ index : Fin kServiceLifecycleCapacity,
          index.val < b'.serviceCount ∧ (b'.rows index).ticket b'.brokerEpoch = ticket) ∧
            (settlements es).Nodup ∧
      ((publications es).Nodup ∧ (kills es).Nodup ∧ (∀ token ∈ kills es, token ∈ publications es) ∧
        (exits es).Nodup ∧ ∀ token ∈ exits es, token ∈ publications es) ∧
      (∀ event b'', Step b' event b'' →
        (∀ ticket, event.ticket = some ticket → ¬Building es ticket → b'' = b') ∧
        (∀ token, event.token = some token → ¬Live es token → b'' = b')) ∧
      ((∃ nowNs plan, Event.beginDrain nowNs .ok plan ∈ es) →
        ∀ index : Fin kServiceLifecycleCapacity, index.val < b'.serviceCount →
          (b'.rows index).transition.phase ≠ .starting ∧
          (b'.rows index).transition.phase ≠ .running) := by
  have sound := Run.sound init run
  refine ⟨⟨sound.isCanonical, Run.never_corrupt init run⟩,
    ⟨Run.reservations_nodup init run, ?_, ?_⟩,
    Run.settlements_nodup init run, ⟨Run.publications_nodup init run, Run.kills_nodup init run,
      Run.kills_subset init run, Run.exits_nodup init run, Run.exits_subset init run⟩, ?_, ?_⟩
  · exact fun _ _ current₁ current₂ => Run.current_unique init run current₁ current₂
  · exact fun _ current => Run.current_row init run current
  · intro event b'' st
    exact ⟨fun _ presented stale => Run.stale_ticket init run st presented stale,
      fun _ presented stale => Run.stale_token init run st presented stale⟩
  · exact fun drained => sound.draining (Run.shut init run drained)

/-- A service that is started, published, drained and seen to exit: its ticket has no use any
more. -/
theorem service_starts_settle_once_sample :
    ∃ b b', Initialized b ∧ Run b [.reserveStart 3 0 5 ⟨.ok, ⟨9, ⟨3, 1⟩⟩⟩,
        .commitPublication ⟨9, ⟨3, 1⟩⟩ ⟨11, 12⟩ 6 ⟨.ok, ⟨⟨9, ⟨3, 1⟩⟩, ⟨11, 12⟩⟩⟩,
        .beginDrain 8 .ok ⟨[⟨⟨9, ⟨3, 1⟩⟩, ⟨11, 12⟩⟩], []⟩,
        .observeExit ⟨⟨9, ⟨3, 1⟩⟩, ⟨11, 12⟩⟩ 9 false .ok, .finishDrain .ok] b' ∧
          brokerIsCanonical b' ∧
      ∀ event b'', Step b' event b'' → event.ticket = some ⟨9, ⟨3, 1⟩⟩ → b'' = b' := by
  -- the second service depends on the first
  let b : ServiceLifecycleBroker := ⟨.open, 1, 2, 1, 0, 9, 20, 21, [1], 592, fun index =>
    ⟨serviceTransitionInitialize (if index.val = 0 then 3 else if index.val = 1 then 7 else 0),
      if index.val = 1 then 1 else 0, 0, 0, 0, 0, 0, .none, false, 0, 0, 0⟩⟩
  let token : ServiceLifecycleInstanceToken := ⟨⟨9, ⟨3, 1⟩⟩, ⟨11, 12⟩⟩
  have init : Initialized b := ⟨by decide +kernel, rfl, fun _ => ⟨_, _, rfl⟩⟩
  have reserved := @Step.reserveStart b 3 0 5 ⟨.ok, token.start⟩ _
    (fst_eq_iff.mp (by decide +kernel))
  have published := (Lts.Run.single reserved).snoc
    (@Step.commitPublication _ token.start token.process 6 ⟨.ok, token⟩ _
      (fst_eq_iff.mp (by decide +kernel)))
  have drained := published.snoc (@Step.beginDrain _ 8 .ok ⟨[token], []⟩ _
    (Prod.ext (by decide +kernel) (Prod.fst_eq_iff.mp (by decide +kernel))))
  have exited := drained.snoc
    (@Step.observeExit _ token 9 false .ok _ (fst_eq_iff.mp (by decide +kernel)))
  have run := exited.snoc (@Step.finishDrain _ .ok _ (fst_eq_iff.mp (by decide +kernel)))
  obtain ⟨⟨canonical, _⟩, _, _, _, stale, _⟩ := service_starts_settle_once init run
  refine ⟨b, _, init, run, canonical, fun event b'' st presented => ?_⟩
  exact (stale event b'' st).1 _ presented fun building => building.2 (by decide +kernel)

end DuetOS.Lifecycle
