import UntitledGame.Server.Cadence

/-!
# The backlog of the UDP socket

An empty datagram, which anyone can send, ends the drain of a turn, and what waits
behind it stays in the socket. So a datagram waits one turn for each empty one that
is in front of it, and no longer: nothing is lost, handled twice or overtaken. As in the
turns themselves, `recvfrom` is assumed to report no errors.
-/

namespace UntitledGame.Server.MainLoop

open Net Sim
open Client (Address)

variable {F : Type*} [Scalar F] (atof : Bytes → F) (setup : Setup F)

/-- A datagram that does not end a drain. -/
def Full (d : Address × Bytes) : Bool := d.2 ≠ []

/-- The datagram of a piece of work. -/
def datagramOf : SimulatedLink.Event F → Option (Address × Bytes)
  | .loop (.datagram data source _) => some (source, data)
  | _ => none

/-- The datagrams that a run of turns handles, in order. -/
def served (m : MainLoop F) (turns : List (LoopTurn F)) : List (Address × Bytes) :=
  (workOf atof setup m turns).filterMap datagramOf

section Turns

variable (m : MainLoop F) (t : LoopTurn F)

omit [Scalar F] in
/-- What waits is the datagrams without the clocks. -/
theorem queued_datagrams :
    (queued m t).map (fun d => (d.source, d.data)) = m.socket ++ t.arrived := by
  rw [queued, List.map_map]
  exact List.zipIdx_map_fst 0 _

omit [Scalar F] in
/-- A turn handles what stands in front of the first empty datagram. -/
theorem work_datagrams :
    (work m t).filterMap datagramOf = (m.socket ++ t.arrived).takeWhile Full := by
  have hpolled : (polledWork t).filterMap datagramOf = [] := by
    rw [List.filterMap_eq_nil_iff]
    intro e he
    simp only [polledWork, List.mem_append, List.mem_map, List.mem_singleton] at he
    rcases he with (((⟨w, -, rfl⟩ | rfl) | ⟨r, -, rfl⟩) | hlost) | ⟨l, -, rfl⟩
    · cases w <;> rfl
    · rfl
    · rfl
    · split at hlost
      · rw [List.mem_singleton.mp hlost]
        rfl
      · cases hlost
    · rfl
  have hhandled : ((handled (queued m t)).map fun d =>
      (.loop (.datagram d.data d.source d.now) : SimulatedLink.Event F)).filterMap datagramOf =
        (handled (queued m t)).map fun d => (d.source, d.data) := by
    rw [List.filterMap_map]
    exact congrFun List.filterMap_eq_map' _
  have hticks : ∀ n, ((List.range n).map fun i =>
      (.loop (.tick (t.tickedAt i)) : SimulatedLink.Event F)).filterMap datagramOf = [] := by
    intro n
    rw [List.filterMap_map, List.filterMap_eq_nil_iff]
    exact fun i _ => rfl
  have hfront : (handled (queued m t)).map (fun d => (d.source, d.data)) =
      (m.socket ++ t.arrived).takeWhile Full := by
    rw [← queued_datagrams, List.takeWhile_map]
    rfl
  rw [work, List.filterMap_append, List.filterMap_append, List.filterMap_append, hpolled, hhandled,
    hticks, List.nil_append, List.append_nil, hfront]
  exact List.append_nil _

/-- The first empty datagram is gone, and what stands behind it stays. -/
theorem turn_socket :
    (turn atof setup m t).socket = ((m.socket ++ t.arrived).dropWhile Full).tail := by
  have hleft : (turn atof setup m t).socket =
      ((queued m t).dropWhile fun d => d.data ≠ []).tail.map fun d => (d.source, d.data) := by
    simp only [turn, tickLoop_eq, drainUdp, drainInbound_eq]
  rw [hleft, ← queued_datagrams, List.dropWhile_map, List.map_tail]
  rfl

end Turns

theorem served_cons (m : MainLoop F) (t : LoopTurn F) (turns : List (LoopTurn F)) :
    served atof setup m (t :: turns) =
      (m.socket ++ t.arrived).takeWhile Full ++ served atof setup (turn atof setup m t) turns := by
  rw [served, workOf, List.filterMap_append, work_datagrams]
  rfl

/-- Where a queue is cut at its first empty datagram, no other one goes. -/
theorem filter_front (queue : List (Address × Bytes)) :
    queue.filter Full = queue.takeWhile Full ++ (queue.dropWhile Full).tail.filter Full := by
  induction queue with
  | nil => rfl
  | cons d rest ih =>
      cases hd : Full d with
      | false =>
          have hempty : ¬ Full d = true := by simp [hd]
          rw [List.filter_cons_of_neg hempty, List.takeWhile_cons_of_neg hempty,
            List.dropWhile_cons_of_neg hempty, List.nil_append, List.tail_cons]
      | true =>
          rw [List.filter_cons_of_pos hd, List.takeWhile_cons_of_pos hd,
            List.dropWhile_cons_of_pos hd, ih, List.cons_append]

/-- Every datagram that arrives is handled once, in the order of arrival, or waits behind those that
are handled. -/
theorem served_conserved (m : MainLoop F) (turns : List (LoopTurn F)) :
    served atof setup m turns ++ (Lib.Runs.run (turn atof setup) m turns).socket.filter Full =
      (m.socket ++ turns.flatMap LoopTurn.arrived).filter Full := by
  induction turns generalizing m with
  | nil => simp [served, workOf]
  | cons t turns ih =>
      rw [served_cons, Lib.Runs.run_cons, List.append_assoc, ih, turn_socket, List.filter_append,
        ← List.append_assoc, ← filter_front, ← List.filter_append, List.flatMap_cons,
        List.append_assoc]

/-- A datagram is handled as soon as there have been as many turns as there are empty ones in front
of it. -/
theorem served_within (m : MainLoop F) {t : LoopTurn F} {turns : List (LoopTurn F)}
    {front rest : List (Address × Bytes)} {d : Address × Bytes}
    (hqueue : m.socket ++ t.arrived = front ++ d :: rest) (hd : Full d = true)
    (hturns : front.countP (fun e => !Full e) ≤ turns.length) :
    front.filter Full ++ [d] <+: served atof setup m (t :: turns) := by
  induction turns generalizing m t front rest with
  | nil =>
      have hfull : ∀ e ∈ front, Full e = true := by
        intro e he
        have hnone := List.countP_eq_zero.mp (Nat.le_zero.mp hturns) e he
        simpa using hnone
      rw [served_cons, hqueue, List.takeWhile_append_of_pos hfull, List.takeWhile_cons_of_pos hd,
        List.filter_eq_self.mpr hfull]
      exact ⟨rest.takeWhile Full ++ served atof setup (turn atof setup m t) [], by simp⟩
  | cons next turns ih =>
      rw [served_cons, hqueue]
      cases hcut : front.dropWhile Full with
      | nil =>
          have hfull : ∀ e ∈ front, Full e = true := List.dropWhile_eq_nil_iff.mp hcut
          rw [List.takeWhile_append_of_pos hfull, List.takeWhile_cons_of_pos hd,
            List.filter_eq_self.mpr hfull]
          exact ⟨rest.takeWhile Full ++ served atof setup (turn atof setup m t) (next :: turns),
            by simp⟩
      | cons e behind =>
          have hsplit : front = front.takeWhile Full ++ e :: behind := by
            rw [← hcut, List.takeWhile_append_dropWhile]
          have hempty : ¬ Full e = true := by
            have hhead := List.head_dropWhile_not Full (l := front)
              (by rw [hcut]; exact List.cons_ne_nil _ _)
            simpa [hcut] using hhead
          have hfront : (front ++ d :: rest).takeWhile Full = front.takeWhile Full := by
            conv_lhs => rw [hsplit]
            rw [List.append_assoc, List.takeWhile_append_of_pos fun f hf =>
              List.mem_takeWhile_imp hf, List.cons_append, List.takeWhile_cons_of_neg hempty,
              List.append_nil]
          have hsocket : (turn atof setup m t).socket = behind ++ d :: rest := by
            rw [turn_socket, hqueue, hsplit, List.append_assoc, List.cons_append,
              List.dropWhile_append_of_pos fun f hf => List.mem_takeWhile_imp hf,
              List.dropWhile_cons_of_neg hempty, List.tail_cons]
          have hcount : behind.countP (fun e => !Full e) ≤ turns.length := by
            rw [hsplit, List.countP_append, List.countP_cons_of_pos (by simp [hempty])] at hturns
            have hlen : (next :: turns).length = turns.length + 1 := rfl
            omega
          have hbehind : (turn atof setup m t).socket ++ next.arrived =
              behind ++ d :: (rest ++ next.arrived) := by
            rw [hsocket, List.append_assoc, List.cons_append]
          have hlater := ih (turn atof setup m t) hbehind hcount
          rw [hfront, filter_front front, hcut, List.tail_cons, List.append_assoc]
          exact List.prefix_append_right_inj _ |>.mpr hlater

theorem workOf_append (m : MainLoop F) (before after : List (LoopTurn F)) :
    workOf atof setup m (before ++ after) =
      workOf atof setup m before ++
        workOf atof setup (Lib.Runs.run (turn atof setup) m before) after := by
  induction before generalizing m with
  | nil => rfl
  | cons t before ih =>
      rw [List.cons_append, workOf, workOf, ih, List.append_assoc, Lib.Runs.run_cons]

/-- In every run of turns the datagrams are handled once and in the order in which they arrive, and
each of them is handled, behind those in front of it, as soon as there have been as many further
turns as there are empty datagrams in front of it. -/
theorem waits_its_turn (start : ClockReading F) {before turns : List (LoopTurn F)} {t : LoopTurn F}
    {front rest : List (Address × Bytes)} {d : Address × Bytes}
    (hqueue : (run atof setup start before).socket ++ t.arrived = front ++ d :: rest)
    (hd : Full d = true) (hturns : front.countP (fun e => !Full e) ≤ turns.length) :
    let all := before ++ t :: turns
    let handled := served atof setup (init setup start)
    handled all ++ (run atof setup start all).socket.filter Full =
        (all.flatMap LoopTurn.arrived).filter Full ∧
      handled before ++ front.filter Full ++ [d] <+: handled all := by
  intro all handled
  refine ⟨served_conserved atof setup (init setup start) all, ?_⟩
  have hsplit : handled all = handled before ++
      served atof setup (run atof setup start before) (t :: turns) := by
    rw [show handled all = _ from congrArg (List.filterMap datagramOf)
      (workOf_append atof setup _ before (t :: turns)), List.filterMap_append]
    rfl
  rw [hsplit, List.append_assoc]
  apply (List.prefix_append_right_inj _).mpr
  exact served_within atof setup _ hqueue hd hturns

/-- A hello behind an empty datagram is handled in the next turn. -/
theorem waits_its_turn_behind :
    let hello : Address × Bytes := (⟨1, 7⟩, [1])
    let turns := [{ idle 0 with arrived := [(⟨9, 9⟩, []), hello] }, idle 0]
    [hello] <+: served (fun _ => 0) .level (init .level Clocks.noon.clock) turns := by
  intro hello turns
  have hqueue : (run (fun _ => 0) .level Clocks.noon.clock []).socket ++
      LoopTurn.arrived { idle 0 with arrived := [(⟨9, 9⟩, []), hello] } =
        [(⟨9, 9⟩, [])] ++ hello :: [] := rfl
  have hnext : [((⟨9, 9⟩, []) : Address × Bytes)].countP (fun e => !Full e) ≤
      [idle 0].length := by decide
  exact (waits_its_turn (fun _ => 0) .level Clocks.noon.clock hqueue (by decide) hnext).2

end UntitledGame.Server.MainLoop
