import UntitledGame.Client.Application
import UntitledGame.Client.Traffic
import UntitledGame.Server.Datagrams
import UntitledGame.Sim.Acknowledgement

/-!
# The numbers of the inputs of a session

The counter that numbers inputs lives in the prediction, which the application
ticks whether or not it is active and which starts again at one when it is
initialised. The world server refuses an input with a lower number than the one
it has.

`numbered_run` says what the numbers sent in a session are in every run in which
no prediction is initialised once inputs have been sent.
-/

namespace UntitledGame.Client.Numbering

open NetClient Net

/-- The numbers of the inputs among these datagrams, as the server reads them. -/
def numbers (packets : List Bytes) : List UInt32 :=
  packets.filterMap fun p => (Server.decodeClientInput p).map (·.sequence)

/-- The numbers of the inputs sent since the session began. -/
def sent (c : NetClient) : List UInt32 := numbers (c.outbox.map (·.2))

/-- The numbers of the inputs that the simulated latency holds back. -/
def queued (c : NetClient) : List UInt32 := numbers (c.mDelayedOutgoing.map (·.data))

@[simp] theorem numbers_nil : numbers [] = [] := rfl

theorem numbers_append (xs ys : List Bytes) : numbers (xs ++ ys) = numbers xs ++ numbers ys := by
  simp [numbers]

theorem numbers_inputPacket (playerId : UInt64) (input : InputBits) :
    numbers [inputPacket playerId input] = [input.sequence] := by
  simp [numbers, Server.decodeClientInput_inputPacket]

/-- From `c` to `c'` no input was added to those sent or held back, and their order is kept. -/
structure Quiet (c c' : NetClient) : Prop where
  sublist : (sent c' ++ queued c').Sublist (sent c ++ queued c)
  latency : c'.mFakeLatency = c.mFakeLatency
  empty : c.mDelayedOutgoing = [] → c'.mDelayedOutgoing = []

theorem Quiet.refl (c : NetClient) : Quiet c c := ⟨List.Sublist.refl _, rfl, id⟩

theorem Quiet.trans {c d e : NetClient} (h : Quiet c d) (k : Quiet d e) : Quiet c e :=
  ⟨k.sublist.trans h.sublist, k.latency.trans h.latency, k.empty ∘ h.empty⟩

theorem Quiet.of_eq {c c' : NetClient} (houtbox : c'.outbox = c.outbox)
    (hqueue : c'.mDelayedOutgoing = c.mDelayedOutgoing)
    (hlatency : c'.mFakeLatency = c.mFakeLatency) : Quiet c c' where
  sublist := by
    simp only [sent, queued, houtbox, hqueue]
    exact List.Sublist.refl _
  latency := hlatency
  empty h := hqueue.trans h

section Poll

/-- A hello is no input. -/
theorem quiet_of_negotiates {c c' : NetClient} (h : Negotiates c c') : Quiet c c' := by
  obtain ⟨hellos, houtbox, hhello⟩ := h.outbox
  have htraffic := h.traffic
  simp only [traffic, Prod.mk.injEq] at htraffic
  obtain ⟨-, -, -, -, -, hqueue, hlatency⟩ := htraffic
  have hnone : numbers (hellos.map (·.2)) = [] := by
    apply List.filterMap_eq_nil_iff.mpr
    intro packet hpacket
    obtain ⟨d, hd, rfl⟩ := List.mem_map.mp hpacket
    obtain ⟨playerId, token, heq⟩ := hhello d hd
    rw [heq, Server.decodeClientInput_helloPacket, Option.map_none]
  refine ⟨?_, hlatency, hqueue.trans⟩
  simp only [sent, queued, houtbox, hqueue, List.map_append, numbers_append, hnone,
    List.append_nil]
  exact List.Sublist.refl _

/-- A client that receives sends nothing. -/
theorem quiet_of_receives {c c' : NetClient} (h : Receives c c') : Quiet c c' := by
  obtain ⟨_, _, _, _, _, _, rfl⟩ := h
  exact Quiet.of_eq rfl rfl rfl

/-- The packets that are due move from the queue to the socket, in their order. -/
theorem quiet_flushOutgoing (c : NetClient) (now : ℚ) : Quiet c (c.flushOutgoing now) := by
  obtain ⟨taken, hsub, heq⟩ := foldl_sendTo (c.mDelayedOutgoing.takeWhile (·.dueAt ≤ now)) c
  simp only [flushOutgoing, heq]
  refine ⟨?_, rfl, fun h => by simp [h]⟩
  have hsplit : queued c = numbers ((c.mDelayedOutgoing.takeWhile (·.dueAt ≤ now)).map (·.data)) ++
      numbers ((c.mDelayedOutgoing.dropWhile (·.dueAt ≤ now)).map (·.data)) := by
    rw [← numbers_append, ← List.map_append, List.takeWhile_append_dropWhile, queued]
  rw [hsplit]
  simp only [sent, queued, List.map_append, numbers_append, List.append_assoc, List.map_map]
  refine List.Sublist.append (List.Sublist.refl _) (List.Sublist.append ?_ (List.Sublist.refl _))
  simpa [numbers, Function.comp_def] using hsub.filterMap _

/-- A poll adds no input. -/
theorem quiet_poll (c : NetClient) (now : ℚ) (os : Os) : Quiet c (c.poll now os) := by
  obtain ⟨d, hd, heq | heq⟩ := poll_cases c now os
  · rw [heq]
    exact quiet_of_negotiates hd
  · have hreceived := quiet_of_receives (receives_receiveDatagrams d now os.datagrams)
    have hflushed := quiet_flushOutgoing (d.receiveDatagrams now os.datagrams) now
    rw [heq]
    refine ((quiet_of_negotiates hd).trans (hreceived.trans hflushed)).trans ?_
    exact quiet_of_receives (receives_flushIncoming _ now)

end Poll

/-- What `sendInput` adds, if the queue is only used under a simulated latency. -/
theorem sendInput_stream (c : NetClient) (input : InputBits) (dropped : Bool)
    (hqueue : c.mFakeLatency ≤ 0 → c.mDelayedOutgoing = []) :
    let c' := c.sendInput input dropped
    (sent c' ++ queued c' = sent c ++ queued c ∨
        sent c' ++ queued c' = sent c ++ queued c ++ [input.sequence]) ∧
      c'.mFakeLatency = c.mFakeLatency ∧ (c.mFakeLatency ≤ 0 → c'.mDelayedOutgoing = []) := by
  simp only [sendInput]
  split
  · exact ⟨Or.inl rfl, rfl, hqueue⟩
  · split
    · exact ⟨Or.inl rfl, rfl, hqueue⟩
    · split
      · rename_i hlatency
        refine ⟨Or.inr ?_, rfl, fun hle => absurd hlatency (not_lt.mpr hle)⟩
        simp [sent, queued, numbers_append, numbers_inputPacket]
      · rename_i hlatency
        have hempty := hqueue (not_lt.mp hlatency)
        simp only [sendTo]
        split
        · refine ⟨Or.inr ?_, rfl, fun _ => hempty⟩
          simp [sent, queued, hempty, numbers_append, numbers_inputPacket]
        · exact ⟨Or.inl rfl, rfl, fun _ => hempty⟩

section Counter

variable {F : Type*} [Scalar F]

/-- Ticks so far, and a number that the counter stands for: no input of the session has
reached it. -/
structure Counted (c : NetClient) (prediction : Prediction F) (ticks k : Nat) : Prop where
  started : 1 ≤ k
  bounded : k ≤ ticks + 1
  counter : prediction.mNextSequence = UInt32.ofNat k
  increasing : (sent c ++ queued c).Pairwise (· < ·)
  below : ∀ q ∈ sent c ++ queued c, q.toNat < k
  queue : c.mFakeLatency ≤ 0 → c.mDelayedOutgoing = []

/-- The counter is ahead of the session, as long as it has not wrapped. -/
def Ahead (a : Application F) : Prop :=
  a.ticks < 2 ^ 32 → ∃ k, Counted a.mNet a.mPrediction a.ticks k

section Quiet

omit [Scalar F]

theorem Counted.quiet {c c' : NetClient} {prediction prediction' : Prediction F} {ticks k : Nat}
    (h : Counted c prediction ticks k) (hquiet : Quiet c c')
    (hcounter : prediction'.mNextSequence = prediction.mNextSequence) :
    Counted c' prediction' ticks k where
  started := h.started
  bounded := h.bounded
  counter := hcounter.trans h.counter
  increasing := h.increasing.sublist hquiet.sublist
  below q hq := h.below q (hquiet.sublist.subset hq)
  queue hle := hquiet.empty (h.queue (hquiet.latency ▸ hle))

/-- A step of the application that sends nothing and leaves the counter alone. -/
theorem Ahead.quiet {a b : Application F} (h : Ahead a) (hnet : Quiet a.mNet b.mNet)
    (hcounter : b.mPrediction.mNextSequence = a.mPrediction.mNextSequence)
    (hticks : b.ticks = a.ticks) : Ahead b := by
  intro hlt
  obtain ⟨k, hk⟩ := h (hticks ▸ hlt)
  refine ⟨k, ?_⟩
  rw [hticks]
  exact hk.quiet hnet hcounter

/-- A session that has sent nothing yet is behind every counter. -/
theorem ahead_of_silent {a : Application F} (hsilent : sent a.mNet ++ queued a.mNet = [])
    (hqueue : a.mNet.mFakeLatency ≤ 0 → a.mNet.mDelayedOutgoing = []) {k : Nat}
    (hk : 1 ≤ k) (hle : k ≤ a.ticks + 1)
    (hcounter : a.mPrediction.mNextSequence = UInt32.ofNat k) : Ahead a := by
  intro _
  refine ⟨k, hk, hle, hcounter, ?_, ?_, hqueue⟩
  · rw [hsilent]
    exact List.Pairwise.nil
  · intro q hq
    rw [hsilent] at hq
    cases hq

/-- Sending the next number. -/
theorem Counted.send {c : NetClient} {prediction prediction' : Prediction F} {ticks k : Nat}
    (h : Counted c prediction ticks k) (hlt : ticks + 1 < 2 ^ 32) {input : InputBits}
    (hinput : input.sequence = prediction.mNextSequence)
    (hcounter : prediction'.mNextSequence = prediction.mNextSequence + 1) (dropped : Bool) :
    Counted (c.sendInput input dropped) prediction' (ticks + 1) (k + 1) := by
  obtain ⟨hstream, hlatency, hqueue⟩ := sendInput_stream c input dropped h.queue
  have hk : (UInt32.ofNat k).toNat = k := by
    have hbounded := h.bounded
    exact UInt32.toNat_ofNat_of_lt' (by simp only [UInt32.size]; omega)
  have hnumber : input.sequence.toNat = k := by rw [hinput, h.counter, hk]
  have hbelow : ∀ q ∈ sent c ++ queued c, q < input.sequence := by
    intro q hq
    rw [UInt32.lt_iff_toNat_lt, hnumber]
    exact h.below q hq
  constructor
  · exact Nat.le_add_left 1 k
  · exact Nat.succ_le_succ h.bounded
  · rw [hcounter, h.counter]
    exact (UInt32.ofNat_add k 1).symm
  · cases hstream with
    | inl hsame =>
        rw [hsame]
        exact h.increasing
    | inr hone =>
        rw [hone, List.pairwise_append]
        refine ⟨h.increasing, List.pairwise_singleton _ _, fun q hq r hr => ?_⟩
        rw [List.mem_singleton.mp hr]
        exact hbelow q hq
  · intro q hq
    cases hstream with
    | inl hsame =>
        rw [hsame] at hq
        exact Nat.lt_succ_of_lt (h.below q hq)
    | inr hone =>
        rw [hone] at hq
        cases List.mem_append.mp hq with
        | inl hq => exact Nat.lt_succ_of_lt (h.below q hq)
        | inr hq =>
            rw [List.mem_singleton.mp hq, hnumber]
            exact Nat.lt_succ_self k
  · intro hle
    exact hqueue (hlatency ▸ hle)

end Quiet

theorem step_counter (phys : Sim.Physics F) (prediction : Prediction F)
    (intent : Prediction.Intent F) :
    (prediction.step phys intent).1.mNextSequence = prediction.mNextSequence + 1 ∧
      (prediction.step phys intent).2.sequence = prediction.mNextSequence := by
  simp only [Prediction.step]
  split
  · exact ⟨rfl, rfl⟩
  · exact ⟨rfl, rfl⟩

theorem ahead_tick (host : Host F) (intent : Prediction.Intent F) (dropped : Bool)
    {a : Application F} (h : Ahead a) : Ahead (a.tick host intent dropped) := by
  obtain ⟨hcounter, hstamp⟩ := step_counter host.phys a.mPrediction intent
  simp only [Application.tick]
  split
  · intro hlt
    have hlt' : a.ticks + 1 < 2 ^ 32 := hlt
    obtain ⟨k, hk⟩ := h (by omega)
    exact ⟨k, { hk with bounded := Nat.le_succ_of_le hk.bounded }⟩
  · intro hlt
    have hlt' : a.ticks + 1 < 2 ^ 32 := hlt
    obtain ⟨k, hk⟩ := h (by omega)
    exact ⟨k + 1, hk.send hlt' hstamp hcounter dropped⟩

theorem ahead_tickLoop (host : Host F) (intent : Prediction.Intent F) (fuel : Nat)
    (dropped : List Bool) {a : Application F} (h : Ahead a) :
    Ahead (a.tickLoop host intent fuel dropped) := by
  apply Application.tickLoop_preserves host intent fuel dropped _ h
  exact fun b drop hb _ => ahead_tick host intent drop hb

theorem ahead_transition {a : Application F} (h : Ahead a) : Ahead a.transition := by
  simp only [Application.transition]
  split
  · split
    · exact h.quiet (Quiet.refl _) rfl rfl
    · split
      · exact h.quiet (Quiet.refl _) rfl rfl
      · exact h
  · split
    · exact h.quiet (Quiet.refl _) rfl rfl
    · exact h

theorem ahead_advance (host : Host F) {a : Application F} (h : Ahead a) (f : Frame F) :
    Ahead (a.advance host f) := by
  have hpoll : Ahead { a with
      mElapsedSeconds := a.mElapsedSeconds + f.deltaSeconds
      mNet := a.mNet.poll (a.mElapsedSeconds + f.deltaSeconds) f.os } :=
    h.quiet (quiet_poll _ _ _) rfl rfl
  have hfollow := ahead_transition hpoll
  simp only [Application.advance]
  refine Ahead.quiet (ahead_tickLoop host f.intent Application.kMaxTicks f.dropped ?_)
    (Quiet.refl _) rfl rfl
  exact hfollow.quiet (Quiet.refl _) rfl rfl

/-- The replication that is about to run initialises the prediction. -/
def Starts (a : Application F) : Prop :=
  a.mDemoScene.mLoaded = true ∧ a.mPrediction.mActive = false ∧
    (a.mNet.mEntities[a.mNet.mOwnEntityId]?).any (·.state.type = EntityType.player.toU8) = true

instance (a : Application F) : Decidable (Starts a) :=
  inferInstanceAs (Decidable (_ ∧ _ ∧ _))

/-- How predicting the own character moves the counter. -/
theorem predictOwn_counter (host : Host F) (a : Application F) (e : EntityState F) :
    let b := a.predictOwn host e
    (b.mNet = a.mNet ∧ b.ticks = a.ticks) ∧
      (b.mPrediction.mNextSequence = a.mPrediction.mNextSequence ∧
          b.mPrediction.mActive = a.mPrediction.mActive ∨
        b.mPrediction.mNextSequence = 1 ∧ a.mPrediction.mActive = false ∧
          b.mPrediction.mActive = true) := by
  cases hactive : a.mPrediction.mActive with
  | false =>
      simp [Application.predictOwn, hactive, Prediction.init]
  | true =>
      simp only [Application.predictOwn, hactive, Bool.not_true, Bool.false_eq_true, if_false]
      split
      · obtain ⟨_, _, heq⟩ := Prediction.reconcile_eq host.phys hactive e
        refine ⟨⟨rfl, rfl⟩, Or.inl ⟨?_, ?_⟩⟩
        · exact Prediction.reconcile_nextSequence host.phys a.mPrediction e
        · rw [heq]
          exact hactive
      · exact ⟨⟨rfl, rfl⟩, Or.inl ⟨rfl, hactive⟩⟩

/-- One turn of the loop over the entities. -/
theorem replicateEntity_counter (host : Host F) (a : Application F)
    (present : Std.ExtTreeSet UInt32) (id : UInt32) (x : Replicated) :
    let b := (Application.replicateEntity host (a, present) (id, x)).1
    (b.mNet = a.mNet ∧ b.ticks = a.ticks) ∧
      (b.mPrediction.mNextSequence = a.mPrediction.mNextSequence ∧
          b.mPrediction.mActive = a.mPrediction.mActive ∨
        b.mPrediction.mNextSequence = 1 ∧ a.mPrediction.mActive = false ∧
          b.mPrediction.mActive = true ∧ id = a.mNet.mOwnEntityId ∧
          x.state.type = EntityType.player.toU8) := by
  simp only [Application.replicateEntity]
  split
  · rename_i htype
    split
    · rename_i hown
      obtain ⟨hframe, hcounter⟩ := predictOwn_counter host a (x.state.map host.ofBits)
      refine ⟨hframe, hcounter.imp_right ?_⟩
      rintro ⟨hone, hinactive, hactive⟩
      exact ⟨hone, hinactive, hactive, hown, htype⟩
    · exact ⟨⟨rfl, rfl⟩, Or.inl ⟨rfl, rfl⟩⟩
  · exact ⟨⟨rfl, rfl⟩, Or.inl ⟨rfl, rfl⟩⟩

/-- The loop over the entities: the network stays, and the counter stays or starts again. -/
theorem foldl_replicateEntity_counter (host : Host F) (entries : List (UInt32 × Replicated))
    (a : Application F) (present : Std.ExtTreeSet UInt32) :
    let b := (entries.foldl (Application.replicateEntity host) (a, present)).1
    (b.mNet = a.mNet ∧ b.ticks = a.ticks) ∧
      (b.mPrediction.mNextSequence = a.mPrediction.mNextSequence ∨
        b.mPrediction.mNextSequence = 1 ∧ a.mPrediction.mActive = false ∧
          ∃ r, (a.mNet.mOwnEntityId, r) ∈ entries ∧ r.state.type = EntityType.player.toU8) := by
  induction entries generalizing a present with
  | nil => exact ⟨⟨rfl, rfl⟩, Or.inl rfl⟩
  | cons entry entries ih =>
      obtain ⟨id, x⟩ := entry
      obtain ⟨⟨hnet, hticks⟩, hfirst⟩ := replicateEntity_counter host a present id x
      obtain ⟨⟨hnet', hticks'⟩, hrest⟩ := ih (Application.replicateEntity host (a, present) (id, x)).1
        (Application.replicateEntity host (a, present) (id, x)).2
      refine ⟨⟨hnet'.trans hnet, hticks'.trans hticks⟩, ?_⟩
      rcases hfirst with ⟨hsame, hactive⟩ | ⟨hone, hinactive, hactive, hid, htype⟩
      · rcases hrest with hrest | ⟨hone, hinactive, r, hr, htype⟩
        · exact Or.inl (hrest.trans hsame)
        · refine Or.inr ⟨hone, hactive.symm.trans hinactive, r, ?_, htype⟩
          rw [hnet] at hr
          exact List.mem_cons_of_mem _ hr
      · rcases hrest with hrest | ⟨-, hinactive', -⟩
        · exact Or.inr ⟨hrest.trans hone, hinactive, x, by rw [hid]; simp, htype⟩
        · rw [hactive] at hinactive'
          cases hinactive'

/-- A replication restarts the counter only when it initialises the prediction. -/
theorem ahead_applyReplication (host : Host F) {a : Application F} (h : Ahead a)
    (hcalm : Starts a → sent a.mNet ++ queued a.mNet = []) : Ahead (a.applyReplication host) := by
  simp only [Application.applyReplication]
  split
  · exact h
  · rename_i hloaded
    obtain ⟨⟨hnet, hticks⟩, hcounter⟩ :=
      foldl_replicateEntity_counter host a.mNet.mEntities.toList a ∅
    rcases hcounter with hsame | ⟨hone, hinactive, r, hr, htype⟩
    · refine h.quiet ?_ hsame hticks
      dsimp only
      rw [hnet]
      exact Quiet.refl _
    · have hown := Std.ExtTreeMap.mem_toList_iff_getElem?_eq_some.mp hr
      have hstarts : Starts a := ⟨by simpa using hloaded, hinactive, by simp [hown, htype]⟩
      intro hlt
      obtain ⟨k, hk⟩ := h (hticks ▸ hlt)
      refine ahead_of_silent ?_ ?_ (Nat.le_refl 1) (Nat.le_add_left 1 _) hone hlt
      · dsimp only
        rw [hnet]
        exact hcalm hstarts
      · dsimp only
        rw [hnet]
        exact hk.queue

/-- A session ends with everything that it sent. -/
theorem quiet_disconnect (c : NetClient) : Quiet c c.disconnect where
  sublist := List.nil_sublist _
  latency := rfl
  empty _ := rfl

theorem quiet_login (c : NetClient) (host : String) (username password : Bytes) (os : Os) :
    Quiet c (c.login host username password os) := by
  apply (quiet_disconnect c).trans
  simp only [login]
  split
  · exact Quiet.of_eq rfl rfl rfl
  · split
    · exact Quiet.of_eq rfl rfl rfl
    · exact Quiet.of_eq rfl rfl rfl

theorem ahead_drawUi (host : Host F) {a : Application F} (h : Ahead a) (f : Frame F) :
    Ahead (a.drawUi host f) := by
  have hlogin : Ahead (a.drawLogin host f) := by
    simp only [Application.drawLogin]
    split
    · exact h.quiet (Quiet.refl _) rfl rfl
    · split
      · simp only [Application.beginLogin]
        split
        · exact h.quiet (Quiet.refl _) rfl rfl
        · exact h.quiet (quiet_login _ _ _ _ _) rfl rfl
      · exact h.quiet (Quiet.refl _) rfl rfl
  simp only [Application.drawUi]
  split
  · exact hlogin
  · exact hlogin
  · split
    · exact h.quiet (Quiet.refl _) rfl rfl
    · exact h
  · split
    · exact h.quiet (Quiet.refl _) rfl rfl
    · split
      · exact h.quiet (quiet_disconnect _) rfl rfl
      · exact h

/-- In this frame no prediction is initialised after an input of the session was sent. -/
def Calm (host : Host F) (a : Application F) (f : Frame F) : Prop :=
  Starts (a.advance host f) →
    sent (a.advance host f).mNet ++ queued (a.advance host f).mNet = []

instance (host : Host F) (a : Application F) (f : Frame F) : Decidable (Calm host a f) :=
  inferInstanceAs (Decidable (_ → _))

theorem ahead_frame (host : Host F) {a : Application F} (h : Ahead a) {f : Frame F}
    (hcalm : Calm host a f) : Ahead (a.frame host f) :=
  ahead_drawUi host (ahead_applyReplication host (ahead_advance host h f) hcalm) f

theorem ahead_init (mFakeLatency mFakeLoss : ℚ) :
    Ahead (Application.init mFakeLatency mFakeLoss : Application F) :=
  ahead_of_silent rfl (fun _ => rfl) (Nat.le_refl 1) (Nat.le_refl 1) rfl

/-- In every run of fewer than `2 ^ 32` ticks in which no prediction is initialised after an
input of its session was sent, the numbers sent in the session increase, and whatever part of
them from some moment on reaches a fresh player of a simulation in order, with ticks and other
calls in between, is accepted whole. -/
theorem numbered_run (host : Host F) (mFakeLatency mFakeLoss : ℚ) (frames : List (Frame F))
    (hcalm : Lib.Runs.Along (Application.frame host) (Calm host)
      (Application.init mFakeLatency mFakeLoss) frames)
    (hticks : (Application.run host mFakeLatency mFakeLoss frames).ticks < 2 ^ 32) :
    let numbers := sent (Application.run host mFakeLatency mFakeLoss frames).mNet
    numbers.Pairwise (· < ·) ∧
      ∀ (late : List UInt32) (s : Sim.Simulation F) (p : Nat) (calls : List (Sim.Simulation.Call F)),
        late <:+ numbers → s.mPlayers[p]? = none → (∀ c ∈ calls, c ≠ .removePlayer p) →
        (Sim.Acknowledgement.offered p calls).map (·.sequence) = late →
          (Sim.Acknowledgement.life host.phys s p calls).ledger.accepted =
            Sim.Acknowledgement.offered p calls := by
  have hahead : Ahead (Application.run host mFakeLatency mFakeLoss frames) :=
    Lib.Runs.run_invariant (fun a f (ha : Ahead a) hf => ahead_frame host ha hf)
      (ahead_init mFakeLatency mFakeLoss) hcalm
  obtain ⟨k, hk⟩ := hahead hticks
  have hincreasing := (List.pairwise_append.mp hk.increasing).1
  refine ⟨hincreasing, fun late s p calls hlate hnone hstays hoffered => ?_⟩
  have hinc : (Sim.Acknowledgement.offered p calls).Pairwise
      fun i j => i.sequence < j.sequence := by
    rw [← List.pairwise_map (f := fun i : Sim.CharacterInput F => i.sequence), hoffered]
    exact hincreasing.sublist hlate.sublist
  exact (Sim.Acknowledgement.accepted_eq_offered host.phys hnone calls hstays hinc).1

end Counter

section Sessions

def localhost : Address := ⟨0x7F000001, 7001⟩

/-- Level ground, on which a wire float of all zeros is the only one that occurs. -/
def levelHost : Host ℚ := ⟨"127.0.0.1", .level, fun _ => 1, fun _ => 0, fun _ => 0, fun x => x⟩

/-- A frame in which nothing happens for this long. -/
def still (deltaSeconds : ℚ) : Frame ℚ :=
  ⟨deltaSeconds, .quiet, ⟨0, 0, 0, false, false⟩, [], .none, .quiet⟩

def arriving (m : Message) (udpOpens : List (Bool × Option Address))
    (datagrams : List (Address × Bytes)) : Os :=
  { Os.quiet with
    arriving := MessageStream.frame m
    receives := [.ready 4096]
    resolve := some localhost
    connect := true
    udpOpens := udpOpens
    datagrams := datagrams }

def loginAccepted : Message :=
  ⟨AuthMessage.loginResponse.toU16, ByteWriter.u8 0 ++ ByteWriter.string [3] ++
    ByteWriter.string [4] ++ ByteWriter.u16 7002 ++ ByteWriter.u64 1 ++ ByteWriter.u8 0⟩

def joinAccepted : Message :=
  ⟨WorldMessage.joinResponse.toU16, ByteWriter.u8 0 ++ ByteWriter.u64 1 ++ ByteWriter.u16 7003 ++
    ByteWriter.string [5] ++ ByteWriter.u32 1000⟩

/-- A snapshot with the client's own player in it. -/
def ownSnapshot : Address × Bytes :=
  (localhost, writeUdpHeader WorldMessage.snapshot.toU16 0 ++ encodeSnapshot ⟨1, 0, 0,
    [⟨1000, EntityType.player.toU8, ⟨0, 0, 0⟩, ⟨0, 0, 0, 0⟩, ⟨0, 0, 0⟩, ⟨0, 0, 0⟩, 0⟩]⟩)

/-- Logging in, up to the join request. -/
def loggingIn : List (Frame ℚ) :=
  [{ still 0 with
      ui := { UiInput.none with username := [1], password := [2], submit := true }
      loginOs := { Os.quiet with resolve := some localhost, connect := true } },
    { still 0 with os := { Os.quiet with writable := true, connectResult := true } },
    { still 0 with os := arriving loginAccepted [] [] },
    { still 0 with os := { Os.quiet with writable := true, connectResult := true } }]

/-- The first snapshot comes with the join response, and two ticks follow. -/
def promptSession : List (Frame ℚ) :=
  loggingIn ++
    [{ still 0 with os := arriving joinAccepted [(true, some localhost)] [ownSnapshot] },
      still (1 / 60), still (1 / 60)]

/-- Two ticks run before the first snapshot comes, and one after it. -/
def lateSession : List (Frame ℚ) :=
  loggingIn ++
    [{ still (1 / 30) with os := arriving joinAccepted [(true, some localhost)] [] },
      { still 0 with os := { Os.quiet with datagrams := [ownSnapshot] } }, still (1 / 60)]

theorem numbered_run_promptSession :
    (sent (Application.run levelHost 0 0 promptSession).mNet).Pairwise (· < ·) ∧
      sent (Application.run levelHost 0 0 promptSession).mNet = [1, 2] :=
  ⟨(numbered_run levelHost 0 0 promptSession (by decide +kernel) (by decide +kernel)).1,
    by decide +kernel⟩

/-- The first input after the snapshot starts again at one, and the server refuses it. -/
theorem number_restarted :
    (Application.run levelHost 0 0 lateSession).ticks < 2 ^ 32 ∧
      sent (Application.run levelHost 0 0 lateSession).mNet = [1, 2, 1] ∧
      ¬ (sent (Application.run levelHost 0 0 lateSession).mNet).Pairwise (· < ·) ∧
      (Sim.Acknowledgement.life Sim.Physics.level Sim.Simulation.blank 1
        [.setInput 1 ⟨1, 0, 0, 0, false, false⟩, .setInput 1 ⟨2, 0, 0, 0, false, false⟩,
          .setInput 1 ⟨1, 0, 0, 0, false, false⟩]).ledger.accepted =
        [⟨1, 0, 0, 0, false, false⟩, ⟨2, 0, 0, 0, false, false⟩] := by
  decide +kernel

end Sessions

end UntitledGame.Client.Numbering
