import UntitledGame.Client.Numbering
import UntitledGame.Client.Replication
import UntitledGame.Client.UdpTurn

/-!
# The order in which snapshots are applied

A datagram may come late or twice, so the client passes over a snapshot whose
number is not above the last one. Under a simulated latency a snapshot is held
back before it is applied, and the filter is off until the first one has been
applied: while nothing but held back snapshots is there, every number passes.

`never_stale` is about the runs in which no snapshot makes use of that. A log
runs beside the client; nothing reads it.
-/

namespace UntitledGame.Client.Staleness

open Net NetClient UdpTurn
open Std (ExtTreeMap)

/-- The snapshots of a session: those held back, with their numbers, the numbers of those
applied, in that order, and how many arrived. -/
structure Log where
  waiting : List (UInt32 × DelayedPacket)
  applied : List UInt32
  arrived : Nat

/-- A session in which nothing has arrived. -/
def Log.fresh : Log := ⟨[], [], 0⟩

/-- What a datagram did to the client, which was `c` before it and is `c'` after it. -/
def noteDatagram (c c' : NetClient) (buffer : Bytes) (log : Log) : Log :=
  match snapshotNumber buffer with
  | none => log
  | some n =>
      ⟨log.waiting ++ (c'.mDelayedIncoming.drop c.mDelayedIncoming.length).map (n, ·),
        if c'.mSnapshotsReceived = c.mSnapshotsReceived then log.applied else log.applied ++ [n],
        log.arrived + 1⟩

/-- The packets that are due are no longer held back; those that decode are applied. -/
def noteFlush (now : ℚ) (log : Log) : Log :=
  ⟨log.waiting.dropWhile (·.2.dueAt ≤ now),
    log.applied ++ ((log.waiting.takeWhile (·.2.dueAt ≤ now)).filter
      fun p => (decodeSnapshot p.2.data).isSome).map (·.1),
    log.arrived⟩

/-- One turn of the loop over the datagrams. -/
def hear (now : ℚ) (s : NetClient × Log) (buffer : Bytes) : NetClient × Log :=
  (s.1.handleDatagram now buffer, noteDatagram s.1 (s.1.handleDatagram now buffer) buffer s.2)

/-- What a call adds to the log; a session ends with a login or a logout. -/
def noteCall (c : NetClient) (log : Log) : Call → Log
  | .login _ _ _ _ => .fresh
  | .poll now os =>
      match turn c now os with
      | none => log
      | some d => noteFlush now (Lib.Runs.run (hear now) (d, log) (taken os.datagrams)).2
  | .sendInput _ _ => log
  | .logout => .fresh

def watch (s : NetClient × Log) (e : Call) : NetClient × Log := (call s.1 e, noteCall s.1 s.2 e)

def watched (mFakeLatency mFakeLoss : ℚ) (calls : List Call) : NetClient × Log :=
  Lib.Runs.run watch (NetClient.init mFakeLatency mFakeLoss, .fresh) calls

theorem run_hear_fst (now : ℚ) (s : NetClient × Log) (buffers : List Bytes) :
    (Lib.Runs.run (hear now) s buffers).1 =
      Lib.Runs.run (fun c buffer => c.handleDatagram now buffer) s.1 buffers := by
  induction buffers generalizing s with
  | nil => rfl
  | cons b buffers ih => exact ih (hear now s b)

/-- Keeping the log does not change the run. -/
theorem watched_fst (mFakeLatency mFakeLoss : ℚ) (calls : List Call) :
    (watched mFakeLatency mFakeLoss calls).1 = run mFakeLatency mFakeLoss calls := by
  have hrun : ∀ s : NetClient × Log, (Lib.Runs.run watch s calls).1 = Lib.Runs.run call s.1 calls := by
    induction calls with
    | nil => exact fun s => rfl
    | cons e calls ih => exact fun s => ih (watch s e)
  exact hrun _

/-- The snapshots of the session, applied and held back, are in the order of their numbers, and
none is above the mark. -/
structure Ordered (r : Replica) (log : Log) : Prop where
  held : log.waiting.map (·.2) = r.mDelayedIncoming
  increasing : (log.applied ++ log.waiting.map (·.1)).Pairwise (· < ·)
  marked : ∀ n ∈ log.applied ++ log.waiting.map (·.1), n ≤ r.mLastSnapshotSequence
  counted : r.mSnapshotsReceived = UInt32.ofNat log.applied.length
  arrived : log.applied.length + log.waiting.length ≤ log.arrived
  direct : r.mFakeLatency ≤ 0 → r.mDelayedIncoming = []

/-- As long as the count of those applied has not wrapped. -/
def Tracked (c : NetClient) (log : Log) : Prop := log.arrived < 2 ^ 32 → Ordered (replica c) log

/-- A snapshot that is held back while the filter is off comes after those before it. -/
def Newer (c : NetClient) (buffer : Bytes) : Prop :=
  ∀ n ∈ snapshotNumber buffer, 0 < c.mFakeLatency → c.mSnapshotsReceived = 0 →
    c.mDelayedIncoming = [] ∨ c.mLastSnapshotSequence < n

instance (c : NetClient) (buffer : Bytes) : Decidable (Newer c buffer) :=
  Option.decidableForallMem (snapshotNumber buffer)

/-- All snapshots of a poll are, each in the state in which the loop comes to it. -/
def Orderly (s : NetClient × Log) : Call → Prop
  | .poll now os => ∀ d ∈ turn s.1 now os,
      Lib.Runs.Along (fun c buffer => c.handleDatagram now buffer) Newer d (taken os.datagrams)
  | _ => True

instance (s : NetClient × Log) : ∀ e : Call, Decidable (Orderly s e)
  | .poll now os => inferInstanceAs (Decidable (∀ d ∈ turn s.1 now os, _))
  | .login _ _ _ _ => inferInstanceAs (Decidable True)
  | .sendInput _ _ => inferInstanceAs (Decidable True)
  | .logout => inferInstanceAs (Decidable True)

section Datagram

variable {r : Replica} {log : Log}

theorem Ordered.waiting_nil (h : Ordered r log) (hempty : r.mDelayedIncoming = []) :
    log.waiting = [] := by
  have hheld := h.held
  rw [hempty] at hheld
  exact List.map_eq_nil_iff.mp hheld

/-- Nothing has been applied while the counter is zero. -/
theorem Ordered.applied_nil (h : Ordered r log) (hfew : log.arrived < 2 ^ 32)
    (hzero : r.mSnapshotsReceived = 0) : log.applied = [] := by
  have hlength : log.applied.length < UInt32.size := by
    have harrived := h.arrived
    simp only [UInt32.size]
    omega
  have hcounted := congrArg UInt32.toNat h.counted
  rw [hzero, UInt32.toNat_ofNat_of_lt' hlength] at hcounted
  exact List.length_eq_zero_iff.mp hcounted.symm

/-- What the filter lets through comes after everything that the session has seen. -/
theorem Ordered.below (h : Ordered r log) (hfew : log.arrived < 2 ^ 32) {n : UInt32}
    (hfilter : 0 < r.mSnapshotsReceived → r.mLastSnapshotSequence < n)
    (hnewer : 0 < r.mFakeLatency → r.mSnapshotsReceived = 0 →
      r.mDelayedIncoming = [] ∨ r.mLastSnapshotSequence < n) :
    ∀ q ∈ log.applied ++ log.waiting.map (·.1), q < n := by
  intro q hq
  have hmarked := h.marked q hq
  by_cases hzero : r.mSnapshotsReceived = 0
  · have hempty : r.mDelayedIncoming = [] ∨ r.mLastSnapshotSequence < n := by
      by_cases hlatency : 0 < r.mFakeLatency
      · exact hnewer hlatency hzero
      · exact Or.inl (h.direct (not_lt.mp hlatency))
    cases hempty with
    | inl hempty =>
        rw [h.applied_nil hfew hzero, h.waiting_nil hempty] at hq
        cases hq
    | inr hlt => exact UInt32.lt_of_le_of_lt hmarked hlt
  · exact UInt32.lt_of_le_of_lt hmarked (hfilter (UInt32.pos_iff_ne_zero.mpr hzero))

theorem Ordered.pass (h : Ordered r log) : Ordered r { log with arrived := log.arrived + 1 } :=
  { h with arrived := Nat.le_succ_of_le h.arrived }

theorem pairwise_concat {ns : List UInt32} {n : UInt32} (h : ns.Pairwise (· < ·))
    (hbelow : ∀ q ∈ ns, q < n) : (ns ++ [n]).Pairwise (· < ·) := by
  rw [List.pairwise_append]
  refine ⟨h, List.pairwise_singleton _ _, fun q hq m hm => ?_⟩
  rw [List.mem_singleton.mp hm]
  exact hbelow q hq

theorem le_of_mem_concat {ns : List UInt32} {n : UInt32} (hbelow : ∀ q ∈ ns, q < n) :
    ∀ q ∈ ns ++ [n], q ≤ n := by
  intro q hq
  cases List.mem_append.mp hq with
  | inl hq => exact UInt32.le_of_lt (hbelow q hq)
  | inr hq => exact UInt32.le_of_eq (List.mem_singleton.mp hq)

/-- A snapshot is held back. -/
theorem Ordered.hold (h : Ordered r log) (hlatency : 0 < r.mFakeLatency) {n : UInt32}
    (hbelow : ∀ q ∈ log.applied ++ log.waiting.map (·.1), q < n) (p : DelayedPacket) :
    Ordered { r with mDelayedIncoming := r.mDelayedIncoming ++ [p], mLastSnapshotSequence := n }
      ⟨log.waiting ++ [(n, p)], log.applied, log.arrived + 1⟩ := by
  have hsplit : log.applied ++ (log.waiting ++ [(n, p)]).map (·.1) =
      log.applied ++ log.waiting.map (·.1) ++ [n] := by simp
  constructor
  · simp [h.held]
  · rw [hsplit]
    exact pairwise_concat h.increasing hbelow
  · rw [hsplit]
    exact le_of_mem_concat hbelow
  · exact h.counted
  · have harrived := h.arrived
    simp only [List.length_append, List.length_singleton]
    omega
  · intro hle
    exact absurd hlatency (not_lt.mpr hle)

/-- A snapshot is applied as it comes. -/
theorem Ordered.put (h : Ordered r log) (hlatency : r.mFakeLatency ≤ 0) {n : UInt32}
    (hbelow : ∀ q ∈ log.applied ++ log.waiting.map (·.1), q < n)
    (entities : ExtTreeMap UInt32 Replicated) (timeOfDay : UInt32) :
    Ordered ⟨entities, timeOfDay, n, r.mSnapshotsReceived + 1, r.mDelayedIncoming, r.mFakeLatency⟩
      ⟨log.waiting, log.applied ++ [n], log.arrived + 1⟩ := by
  have hnil := h.waiting_nil (h.direct hlatency)
  have hincreasing := h.increasing
  simp only [hnil, List.map_nil, List.append_nil] at hincreasing hbelow
  constructor
  · exact h.held
  · simp only [hnil, List.map_nil, List.append_nil]
    exact pairwise_concat hincreasing hbelow
  · simp only [hnil, List.map_nil, List.append_nil]
    exact le_of_mem_concat hbelow
  · rw [h.counted, List.length_append, List.length_singleton]
    exact (UInt32.ofNat_add _ 1).symm
  · have harrived := h.arrived
    simp only [List.length_append, List.length_singleton]
    omega
  · exact h.direct

theorem noteDatagram_pass {c c' : NetClient} {buffer : Bytes} {n : UInt32}
    (hn : snapshotNumber buffer = some n) (hqueue : c'.mDelayedIncoming = c.mDelayedIncoming)
    (hcount : c'.mSnapshotsReceived = c.mSnapshotsReceived) (log : Log) :
    noteDatagram c c' buffer log = { log with arrived := log.arrived + 1 } := by
  simp [noteDatagram, hn, hqueue, hcount]

theorem noteDatagram_hold {c c' : NetClient} {buffer : Bytes} {n : UInt32} {p : DelayedPacket}
    (hn : snapshotNumber buffer = some n)
    (hqueue : c'.mDelayedIncoming = c.mDelayedIncoming ++ [p])
    (hcount : c'.mSnapshotsReceived = c.mSnapshotsReceived) (log : Log) :
    noteDatagram c c' buffer log =
      ⟨log.waiting ++ [(n, p)], log.applied, log.arrived + 1⟩ := by
  simp [noteDatagram, hn, hqueue, hcount]

theorem noteDatagram_put {c c' : NetClient} {buffer : Bytes} {n : UInt32}
    (hn : snapshotNumber buffer = some n) (hqueue : c'.mDelayedIncoming = c.mDelayedIncoming)
    (hcount : c'.mSnapshotsReceived = c.mSnapshotsReceived + 1) (log : Log) :
    noteDatagram c c' buffer log = ⟨log.waiting, log.applied ++ [n], log.arrived + 1⟩ := by
  simp [noteDatagram, hn, hqueue, hcount]

/-- One datagram. -/
theorem tracked_hear (now : ℚ) {s : NetClient × Log} {buffer : Bytes} (h : Tracked s.1 s.2)
    (hnewer : Newer s.1 buffer) : Tracked (hear now s buffer).1 (hear now s buffer).2 := by
  obtain ⟨c, log⟩ := s
  cases hn : snapshotNumber buffer with
  | none =>
      simp only [hear, noteDatagram, hn, handleDatagram_of_other hn]
      exact h
  | some n =>
      obtain ⟨header, bodyOffset, -, -, heq⟩ := handleDatagram_of_snapshot hn c now
      intro hfew
      have hfew' : log.arrived < 2 ^ 32 := by
        simp only [hear, noteDatagram, hn] at hfew
        omega
      have hordered : Ordered (replica c) log := h hfew'
      simp only [hear]
      by_cases hfilter : 0 < c.mSnapshotsReceived ∧ n ≤ c.mLastSnapshotSequence
      · rw [heq, if_pos hfilter, noteDatagram_pass hn rfl rfl]
        exact hordered.pass
      · have hbelow : ∀ q ∈ log.applied ++ log.waiting.map (·.1), q < n := by
          refine hordered.below hfew' (fun hpos => ?_) (hnewer n hn)
          exact UInt32.not_le.mp fun hle => hfilter ⟨hpos, hle⟩
        rw [if_neg hfilter] at heq
        by_cases hlatency : 0 < c.mFakeLatency
        · rw [heq, if_pos hlatency, noteDatagram_hold hn]
          · exact hordered.hold hlatency hbelow _
          · rfl
          · rfl
        · rw [if_neg hlatency] at heq
          rw [heq]
          simp only [applySnapshotPacket]
          split
          · rw [noteDatagram_pass hn rfl rfl]
            exact hordered.pass
          · rw [noteDatagram_put hn]
            · exact hordered.put (not_lt.mp hlatency) hbelow _ _
            · rfl
            · rfl

/-- All datagrams of a poll. -/
theorem tracked_hears (now : ℚ) {c : NetClient} {log : Log} {buffers : List Bytes}
    (h : Tracked c log)
    (hnewer : Lib.Runs.Along (fun c buffer => c.handleDatagram now buffer) Newer c buffers) :
    Tracked (Lib.Runs.run (hear now) (c, log) buffers).1
      (Lib.Runs.run (hear now) (c, log) buffers).2 := by
  induction buffers generalizing c log with
  | nil => exact h
  | cons buffer buffers ih =>
      have hone := tracked_hear now (s := (c, log)) h hnewer.1
      exact ih hone hnewer.2

end Datagram

/-- The packets that are due, applied one after the other: the mark stays. -/
theorem foldl_applySnapshotPacket (now : ℚ) (packets : List DelayedPacket) (c : NetClient) :
    let d := packets.foldl (fun c p => c.applySnapshotPacket p.data c.mLastSnapshotSequence now) c
    d.mLastSnapshotSequence = c.mLastSnapshotSequence ∧ d.mFakeLatency = c.mFakeLatency ∧
      d.mSnapshotsReceived = c.mSnapshotsReceived +
        UInt32.ofNat (packets.filter fun p => (decodeSnapshot p.data).isSome).length := by
  induction packets generalizing c with
  | nil => exact ⟨rfl, rfl, (UInt32.add_zero _).symm⟩
  | cons p packets ih =>
      obtain ⟨hmark, hlatency, hcount⟩ :=
        ih (c.applySnapshotPacket p.data c.mLastSnapshotSequence now)
      simp only [List.foldl_cons, hmark, hlatency, hcount, List.filter_cons]
      simp only [applySnapshotPacket]
      cases hdecode : decodeSnapshot p.data with
      | none => exact ⟨rfl, rfl, rfl⟩
      | some snapshot =>
          refine ⟨rfl, rfl, ?_⟩
          rw [Option.isSome_some, if_pos rfl, List.length_cons, UInt32.ofNat_add, UInt32.add_assoc,
            UInt32.add_comm 1]
          rfl

/-- What is due leaves the queue at its front, so the order is kept. -/
theorem tracked_flushDelayed (now : ℚ) {c : NetClient} {log : Log} (h : Tracked c log) :
    Tracked (c.flushDelayed now) (noteFlush now log) := by
  intro hfew
  have hordered := h hfew
  have hout := replica_of_transmits (transmits_flushOutgoing c now)
  rw [← hout] at hordered
  simp only [flushDelayed]
  generalize c.flushOutgoing now = d at hordered
  have hheld : log.waiting.map (·.2) = d.mDelayedIncoming := hordered.held
  obtain ⟨hmark, hlatency, hcount⟩ :=
    foldl_applySnapshotPacket now (d.mDelayedIncoming.takeWhile (·.dueAt ≤ now)) d
  have hsub : ((noteFlush now log).applied ++ (noteFlush now log).waiting.map (·.1)).Sublist
      (log.applied ++ log.waiting.map (·.1)) := by
    simp only [noteFlush, List.append_assoc]
    refine List.Sublist.append (List.Sublist.refl _) ?_
    rw [← List.map_append]
    have hdue := List.filter_sublist (p := fun p : UInt32 × DelayedPacket =>
      (decodeSnapshot p.2.data).isSome) (l := log.waiting.takeWhile (·.2.dueAt ≤ now))
    have hall := (hdue.append (List.Sublist.refl (log.waiting.dropWhile (·.2.dueAt ≤ now)))).map (·.1)
    rwa [List.takeWhile_append_dropWhile] at hall
  constructor
  · simp only [noteFlush, flushIncoming, replica, ← hheld]
    rw [List.dropWhile_map]
    rfl
  · exact hordered.increasing.sublist hsub
  · intro n hn
    have hle := hordered.marked n (hsub.subset hn)
    simp only [flushIncoming, replica, hmark]
    exact hle
  · simp only [noteFlush, flushIncoming, replica, hcount, List.length_append, List.length_map]
    rw [UInt32.ofNat_add]
    have hcounted : d.mSnapshotsReceived = UInt32.ofNat log.applied.length := hordered.counted
    rw [hcounted, ← hheld, List.takeWhile_map, List.filter_map, List.length_map]
    rfl
  · have hlength := hsub.length_le
    have harrived := hordered.arrived
    simp only [List.length_append, List.length_map] at hlength
    simp only [noteFlush] at hlength ⊢
    omega
  · intro hle
    simp only [flushIncoming, replica, hlatency] at hle ⊢
    rw [show d.mDelayedIncoming = [] from hordered.direct hle]
    rfl

/-- A new session has seen nothing. -/
theorem tracked_fresh {c : NetClient} (hempty : c.mDelayedIncoming = [])
    (hzero : c.mSnapshotsReceived = 0) : Tracked c .fresh := by
  intro _
  refine ⟨hempty.symm, List.Pairwise.nil, ?_, hzero, Nat.le_refl 0, fun _ => hempty⟩
  intro n hn
  cases hn

theorem tracked_watch (s : NetClient × Log) (e : Call) (h : Tracked s.1 s.2)
    (horderly : Orderly s e) : Tracked (watch s e).1 (watch s e).2 := by
  cases e with
  | login host username password os =>
      simp only [watch, call, noteCall, login]
      split
      · exact tracked_fresh rfl rfl
      · split
        · exact tracked_fresh rfl rfl
        · exact tracked_fresh rfl rfl
  | poll now os =>
      simp only [watch, call, noteCall]
      cases hturn : turn s.1 now os with
      | none =>
          intro hfew
          rw [(poll_of_no_turn hturn).1]
          exact h hfew
      | some d =>
          rw [poll_of_turn hturn, receiveDatagrams_eq]
          apply tracked_flushDelayed
          have hd : Tracked d s.2 := by
            intro hfew
            rw [replica_of_negotiates (negotiates_turn hturn)]
            exact h hfew
          rw [← run_hear_fst now (d, s.2)]
          exact tracked_hears now hd (horderly d hturn)
  | sendInput input dropped =>
      intro hfew
      have hsame : replica (s.1.sendInput input dropped) = replica s.1 :=
        replica_of_transmits (transmits_sendInput s.1 input dropped)
      simp only [watch, call, hsame]
      exact h hfew
  | logout => exact tracked_fresh rfl rfl

/-- In every run in which no snapshot that is held back while the filter is off comes behind one
with a higher number, the snapshots of a session of fewer than `2 ^ 32` are applied in the order
of their numbers. -/
theorem never_stale (mFakeLatency mFakeLoss : ℚ) (calls : List Call)
    (horderly : Lib.Runs.Along watch Orderly (NetClient.init mFakeLatency mFakeLoss, .fresh) calls)
    (hfew : (watched mFakeLatency mFakeLoss calls).2.arrived < 2 ^ 32) :
    (watched mFakeLatency mFakeLoss calls).2.applied.Pairwise (· < ·) := by
  have htracked : Tracked (watched mFakeLatency mFakeLoss calls).1
      (watched mFakeLatency mFakeLoss calls).2 :=
    Lib.Runs.run_invariant tracked_watch (tracked_fresh rfl rfl) horderly
  exact (List.pairwise_append.mp (htracked hfew).increasing).1

section Sessions

open Client.Numbering

/-- An empty snapshot with this number. -/
def numbered (n : UInt32) : Address × Bytes :=
  (localhost, Replication.snapshotPacket n ⟨n, 0, n, []⟩)

/-- Into the world, where the first snapshots come with the join response. -/
def joining (datagrams : List (Address × Bytes)) : List Call :=
  let writable : Os := { Os.quiet with writable := true, connectResult := true }
  [.login "127.0.0.1" [1] [2] { Os.quiet with resolve := some localhost, connect := true },
    .poll 0 writable, .poll 0 (arriving loginAccepted [] []), .poll 0 writable,
    .poll 0 (arriving joinAccepted [(true, some localhost)] datagrams)]

def later (now : ℚ) (datagrams : List (Address × Bytes)) : Call :=
  .poll now { Os.quiet with datagrams := datagrams }

theorem never_stale_latency :
    (watched (1 / 10) 0 (joining [numbered 3, numbered 5] ++
        [later (1 / 5) [], later (1 / 4) [numbered 4, numbered 7], later 1 []])).2.applied.Pairwise
          (· < ·) ∧
      (watched (1 / 10) 0 (joining [numbered 3, numbered 5] ++
        [later (1 / 5) [], later (1 / 4) [numbered 4, numbered 7], later 1 []])).2.applied =
          [3, 5, 7] :=
  ⟨never_stale (1 / 10) 0 _ (by decide +kernel) (by decide +kernel), by decide +kernel⟩

/-- The first two snapshots come in the wrong order, and the older one is what remains. -/
theorem stale_before_first :
    (watched (1 / 10) 0 (joining [numbered 5, numbered 3] ++ [later (1 / 5) []])).2.arrived = 2 ∧
      (watched (1 / 10) 0 (joining [numbered 5, numbered 3] ++ [later (1 / 5) []])).2.applied =
        [5, 3] ∧
      ¬ (watched (1 / 10) 0 (joining [numbered 5, numbered 3] ++
        [later (1 / 5) []])).2.applied.Pairwise (· < ·) ∧
      (run (1 / 10) 0 (joining [numbered 5, numbered 3] ++ [later (1 / 5) []])).mTimeOfDay = 3 := by
  decide +kernel

end Sessions

end UntitledGame.Client.Staleness
