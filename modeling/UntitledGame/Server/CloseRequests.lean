import UntitledGame.Server.SocketServer

/-!
# Messages after a request to close

`closeConnection` puts the id on a list, and the connection stays in the table
until the end of the next `poll`. So the loop over the messages, which looks the
id up after each of them, goes on handing out what is buffered, and a later turn
of the loop over the ids reads a connection that is to be closed.

`dispatched_iff` says in which runs nothing is handed out after a request.
-/

namespace UntitledGame.Server.CloseRequests

open Net SocketServer

/-- Not a request to close a connection and a message of it. -/
def Apart : Entry → Entry → Prop
  | .closing id, .message k _ => id ≠ k
  | _, _ => True

instance : DecidableRel Apart := by
  intro e e'
  unfold Apart
  split
  · infer_instance
  · infer_instance

/-- No message is handed out after a request to close its connection. -/
def Silent (log : List Entry) : Prop := log.Pairwise Apart

instance (log : List Entry) : Decidable (Silent log) :=
  inferInstanceAs (Decidable (log.Pairwise Apart))

/-- When the loop over the messages comes around for a connection that is to be closed, no complete
message is left in its buffer. -/
def Settled (s : SocketServer) (e : Event) : Prop :=
  match e, s.polls with
  | .next, .dispatching id _ :: _ =>
      .closing id ∈ s.log → ∀ c ∈ s.mConnections[id]?, c.stream.next = none
  | _, _ => True

instance (s : SocketServer) : ∀ e : Event, Decidable (Settled s e)
  | .next =>
      match h : s.polls with
      | .dispatching id _ :: _ =>
          decidable_of_iff
            (.closing id ∈ s.log → ∀ c ∈ s.mConnections[id]?, c.stream.next = none)
            (by simp only [Settled, h])
      | .accepting _ :: _ => isTrue (by simp only [Settled, h])
      | .reading _ :: _ => isTrue (by simp only [Settled, h])
      | [] => isTrue (by simp only [Settled, h])
  | .send _ _ _ => inferInstanceAs (Decidable True)
  | .closeConnection _ => inferInstanceAs (Decidable True)
  | .poll => inferInstanceAs (Decidable True)
  | .accept _ => inferInstanceAs (Decidable True)
  | .accepted => inferInstanceAs (Decidable True)
  | .read _ => inferInstanceAs (Decidable True)
  | .finish => inferInstanceAs (Decidable True)

theorem apart_of_not_message {e' : Entry} (h : ∀ id m, e' ≠ .message id m) (e : Entry) :
    Apart e e' := by
  cases e' with
  | message id m => exact absurd rfl (h id m)
  | connect _ _ _ | disconnect _ _ | wrote _ _ _ | closing _ => simp [Apart]

/-- Entries that are no messages come after anything. -/
theorem silent_append {log more : List Entry} (h : ∀ e ∈ more, ∀ id m, e ≠ .message id m) :
    Silent (log ++ more) ↔ Silent log := by
  rw [Silent, List.pairwise_append]
  constructor
  · exact fun hsilent => hsilent.1
  · intro hsilent
    refine ⟨hsilent, ?_, fun e _ e' he' => apart_of_not_message (h e' he') e⟩
    exact List.pairwise_of_forall_mem_list fun e _ e' he' => apart_of_not_message (h e' he') e

theorem silent_message {log : List Entry} (id : UInt64) (m : Message) :
    Silent (log ++ [.message id m]) ↔ Silent log ∧ .closing id ∉ log := by
  rw [Silent, List.pairwise_append]
  constructor
  · rintro ⟨hsilent, -, hcross⟩
    exact ⟨hsilent, fun hclosing => hcross _ hclosing _ List.mem_cons_self rfl⟩
  · rintro ⟨hsilent, hnone⟩
    refine ⟨hsilent, List.pairwise_singleton _ _, fun e he e' he' => ?_⟩
    rw [List.mem_singleton.mp he']
    cases e with
    | closing k =>
        intro hk
        subst hk
        exact hnone he
    | connect _ _ _ | message _ _ | disconnect _ _ | wrote _ _ _ => simp [Apart]

/-- A connection is reported closed, or was gone. -/
theorem log_disconnect (s : SocketServer) (id : UInt64) :
    ∃ more, (s.disconnect id).log = s.log ++ more ∧ ∀ e ∈ more, ∀ k m, e ≠ .message k m := by
  rw [disconnect]
  split
  · exact ⟨[], (List.append_nil _).symm, by simp⟩
  · refine ⟨_, rfl, fun e he k m => ?_⟩
    rw [List.mem_singleton.mp he]
    exact Entry.noConfusion

theorem silent_closeDeferred (s : SocketServer) : Silent s.closeDeferred.log ↔ Silent s.log := by
  have hall : ∀ (ids : List UInt64) (t : SocketServer),
      Silent (ids.foldl disconnect t).log ↔ Silent t.log := by
    intro ids
    induction ids with
    | nil => exact fun t => Iff.rfl
    | cons id ids ih =>
        intro t
        obtain ⟨more, hlog, hmore⟩ := log_disconnect t id
        rw [List.foldl_cons, ih, hlog, silent_append hmore]
  exact hall s.mClosing s

/-- What a step makes of it. -/
theorem silent_step (s : SocketServer) (e : Event) :
    Silent (step s e).log ↔ Silent s.log ∧ Settled s e := by
  have hone : ∀ entry : Entry, (∀ id m, entry ≠ .message id m) →
      (Silent (s.log ++ [entry]) ↔ Silent s.log) := by
    intro entry hentry
    apply silent_append
    intro e he
    rw [List.mem_singleton.mp he]
    exact hentry
  have hstretch := step_stretch s e
  generalize step s e = s' at hstretch ⊢
  cases hstretch with
  | send id m outcomes =>
      simp only [Settled, and_true, send]
      split
      · exact Iff.rfl
      · exact hone _ nofun
  | closeConnection id =>
      simp only [Settled, and_true]
      exact hone _ nofun
  | poll => simp [Settled]
  | accept h peer =>
      simp only [Settled, and_true]
      exact hone _ nofun
  | accepted h => simp [Settled]
  | read h ready =>
      simp only [Settled, and_true, SocketServer.read]
      split
      · split
        · exact Iff.rfl
        · exact hone _ nofun
      · exact Iff.rfl
  | next h =>
      simp only [Settled, h, SocketServer.next]
      split
      · rename_i hc
        simp [hc]
      · rename_i c hc
        split
        · rename_i hnone
          simp [hc, hnone]
        · rename_i m stream hnext
          simp only [silent_message, hc, Option.mem_some_iff, forall_eq', hnext, reduceCtorEq]
  | finish h =>
      simp only [Settled, and_true]
      exact silent_closeDeferred s
  | stay h =>
      have hsettled : Settled s e := by
        unfold Settled
        split
        · rename_i hpolls
          exact absurd hpolls (h _ _ _)
        · trivial
      exact (iff_of_eq (and_true _)).symm.trans (and_congr_right' (iff_of_true trivial hsettled))

/-- In a run no message is handed out after a request to close its connection if and only if,
whenever the loop over the messages comes around for a connection that is to be closed, no complete
message is left in its buffer. -/
theorem dispatched_iff (events : List Event) :
    Silent (run events).log ↔ Lib.Runs.Along step Settled listening events := by
  have hiff := Lib.Runs.run_iff_along (fun _ => True) (fun s => Silent s.log)
    (fun _ _ _ => trivial) (fun s e _ => silent_step s e) (s := listening) trivial events
  rw [run, hiff]
  exact and_iff_right List.Pairwise.nil

section Examples

/-- A connection, and a poll that finds two messages of it. -/
def twoMessages : List Event :=
  [.poll, .accept ⟨1, 7⟩, .accepted, .finish, .poll, .accepted,
    .read (some (MessageStream.frame ⟨3, [9]⟩ ++ MessageStream.frame ⟨4, []⟩, [.ready 4096]))]

/-- The handler of the first message closes the connection, and the second one is handed out. In
the other run the connection is closed between two polls, and the next poll reads it. -/
theorem dispatched_after_close :
    ((run (twoMessages ++ [.next, .closeConnection 1, .next])).log =
        [.connect 1 ⟨1, 7⟩ 0, .message 1 ⟨3, [9]⟩, .closing 1, .message 1 ⟨4, []⟩] ∧
      ¬ Silent (run (twoMessages ++ [.next, .closeConnection 1, .next])).log) ∧
    let swept := twoMessages.take 4 ++ .closeConnection 1 :: twoMessages.drop 4 ++ [.next]
    (run swept).log = [.connect 1 ⟨1, 7⟩ 0, .closing 1, .message 1 ⟨3, [9]⟩] ∧
      ¬ Silent (run swept).log := by
  decide +kernel

end Examples

end UntitledGame.Server.CloseRequests
