import UntitledGame.Lib.Queues
import UntitledGame.Server.Console
import UntitledGame.Server.UdpSteps

/-!
# The simulated link

While the simulated latency is above zero, inputs and snapshots wait in two
queues, each until the clock reading at which it joined plus the latency in force
then. A release pass looks at the front of each queue. An authorised request and
a line at the console both change the latency while packets wait, and after it
is lowered a packet can be due before one in front of it.

`Traced` keeps, beside the server, every packet that ever joined a queue. A pass
is `Punctual` if it releases what is due and nothing else; `Orderly` is the
condition on the due times under which it is.
-/

namespace UntitledGame.Server.SimulatedLink

open Net Sim WorldServer Endpoints
open Lib.Queues (InOrder Left)

section Defs

variable {F : Type*} [Scalar F]

/-- A piece of work of the main loop, or a line at the console. -/
inductive Event (F : Type*) where
  | loop (e : WorldServer.Event F)
  | line (text : Bytes) (hashed : Option Bytes) (now : ClockReading F)
  deriving DecidableEq, Repr

variable (atof : Bytes → F) (setup : Setup F)

def step (w : WorldServer F) : Event F → WorldServer F
  | .loop e => w.step setup e
  | .line text hashed now => Console.runConsoleCommand atof setup w text hashed now

def run (start : ClockReading F) (events : List (Event F)) : WorldServer F :=
  Lib.Runs.run (step atof setup) (init setup start) events

/-- The input that joins its queue, with the reading at which it is due. -/
def heldInputs (w : WorldServer F) : Event F → List (DelayedInput F)
  | .loop (.datagram data source now) =>
      if 0 < w.simulatedLatencyMs then
        (submitted setup w data source).toList.map fun p =>
          ⟨now.steadySeconds + w.latencySeconds, p.1, p.2⟩
      else []
  | _ => []

/-- The snapshots that join their queue. -/
def heldOutgoing (w : WorldServer F) : Event F → List (DelayedPacket F)
  | .loop (.tick now) =>
      if 0 < w.simulatedLatencyMs then
        (snapshots setup w (.tick now)).map fun o =>
          ⟨now.steadySeconds + w.latencySeconds, o.address, o.packet⟩
      else []
  | _ => []

/-- The server, and everything that ever joined its queues. -/
structure Traced (F : Type*) where
  world : WorldServer F
  inputs : List (DelayedInput F)
  outgoing : List (DelayedPacket F)

def trace (t : Traced F) (e : Event F) : Traced F :=
  ⟨step atof setup t.world e, t.inputs ++ heldInputs setup t.world e,
    t.outgoing ++ heldOutgoing setup t.world e⟩

def traced (start : ClockReading F) (events : List (Event F)) : Traced F :=
  Lib.Runs.run (trace atof setup) ⟨init setup start, [], []⟩ events

/-- The reading of a release pass. -/
def pass : Event F → Option F
  | .loop (.release now) => some now
  | _ => none

def passes (events : List (Event F)) : List F := events.filterMap pass

/-- The pass hands on every input and every snapshot that is due, in order, and keeps the others. -/
structure Punctual (w : WorldServer F) (now : F) : Prop where
  inputs : (w.release now).simulation = (w.delayedInputs.filter (·.dueAt ≤ now)).foldl
    (fun s d => s.setInput d.playerId d.input) w.simulation
  inputsLeft : (w.release now).delayedInputs = w.delayedInputs.filter (¬ ·.dueAt ≤ now)
  outgoing : (w.release now).datagrams = w.datagrams ++
    (w.delayedOutgoing.filter (·.dueAt ≤ now)).map fun d => (d.address, d.data)
  outgoingLeft : (w.release now).delayedOutgoing = w.delayedOutgoing.filter (¬ ·.dueAt ≤ now)

/-- The reading of a pass does not lie between the due times of two packets of a queue of which the
one that joined later is due first. -/
def Orderly (t : Traced F) (e : Event F) : Prop :=
  ∀ now ∈ pass e, InOrder DelayedInput.dueAt now t.inputs ∧ InOrder DelayedPacket.dueAt now t.outgoing

instance (t : Traced F) (e : Event F) : Decidable (Orderly t e) :=
  Option.decidableForallMem (pass e)

omit [Scalar F] in
theorem pass_eq_some {e : Event F} {now : F} : pass e = some now ↔ e = .loop (.release now) := by
  constructor
  · intro h
    cases e with
    | line text hashed at_ => cases h
    | loop e =>
        cases e with
        | release now' => rw [Option.some.inj h]
        | _ => cases h
  · rintro rfl
    rfl

/-- A pass is punctual if and only if its queues are in order. -/
theorem punctual_iff (w : WorldServer F) (now : F) : Punctual w now ↔
    InOrder DelayedInput.dueAt now w.delayedInputs ∧
      InOrder DelayedPacket.dueAt now w.delayedOutgoing := by
  constructor
  · intro h
    exact ⟨Lib.Queues.dropWhile_eq_filter_iff.mp h.inputsLeft,
      Lib.Queues.dropWhile_eq_filter_iff.mp h.outgoingLeft⟩
  · rintro ⟨hinputs, houtgoing⟩
    refine ⟨?_, Lib.Queues.dropWhile_eq_filter_iff.mpr hinputs, ?_,
      Lib.Queues.dropWhile_eq_filter_iff.mpr houtgoing⟩
    · rw [← Lib.Queues.takeWhile_eq_filter hinputs]
      rfl
    · rw [← Lib.Queues.takeWhile_eq_filter houtgoing]
      rfl

section Queues

variable {atof setup} {w : WorldServer F} {e : Event F}

/-- The two queues. -/
def queues (w : WorldServer F) : List (DelayedInput F) × List (DelayedPacket F) :=
  (w.delayedInputs, w.delayedOutgoing)

omit [Scalar F] in
theorem accountCommand_queues (hashed : Option Bytes) (rest : List Bytes) :
    queues (Console.accountCommand w hashed rest) = queues w := by
  have hcreate : ∀ name password rest,
      queues (Console.createAccount w hashed name password rest) = queues w := by
    intro name password rest
    simp only [Console.createAccount]
    split
    · rfl
    · split <;> rfl
  have hlevel : ∀ name digits, queues (Console.setLevel w name digits) = queues w := by
    intro name digits
    simp only [Console.setLevel]
    split <;> rfl
  rw [Console.accountCommand.eq_def]
  split
  · split
    · exact hcreate _ _ _
    · split
      · rfl
      · split
        · exact hlevel _ _
        · rfl
  · split <;> rfl
  · rfl

theorem timeCommand_queues (now : ClockReading F) (rest : List Bytes) :
    queues (Console.timeCommand atof setup w now rest) = queues w := by
  have hclock : ∀ text, queues (Console.setClock setup w text now) = queues w := by
    intro text
    rw [Console.setClock]
    dsimp only
    split
    · rfl
    · split <;> rfl
  rw [Console.timeCommand.eq_def]
  split
  · rfl
  · split
    · rfl
    · split
      · rfl
      · split
        · exact hclock _
        · split <;> rfl

/-- A line at the console leaves the queues alone. -/
theorem line_queues (text : Bytes) (hashed : Option Bytes) (now : ClockReading F) :
    queues (Console.runConsoleCommand atof setup w text hashed now) = queues w := by
  rw [Console.runConsoleCommand]
  split
  · rfl
  · split
    · rw [Console.latencyCommand.eq_def]
      split
      · split <;> rfl
      · rfl
    · split
      · exact timeCommand_queues now _
      · split
        · exact accountCommand_queues hashed _
        · rfl

theorem step_delayedInputs (h : ∀ now, e ≠ .loop (.release now)) :
    (step atof setup w e).delayedInputs = w.delayedInputs ++ heldInputs setup w e := by
  cases e with
  | line text hashed now =>
      exact (congrArg Prod.fst (line_queues text hashed now)).trans (List.append_nil _).symm
  | loop e =>
      have heffect := step_effect setup w e
      rw [step]
      generalize WorldServer.step setup w e = w' at heffect ⊢
      cases heffect with
      | quiet htaken hinputs hsnapshots haccepted hquiet =>
          rw [hquiet.delayedInputs]
          cases e with
          | datagram data source now =>
              rw [taken] at htaken
              simp [heldInputs, htaken]
          | _ => exact (List.append_nil _).symm
      | joined token session now hjoining hquiet =>
          rw [hquiet.delayedInputs]
          obtain ⟨requestId, session', now', token', rfl, -⟩ := joining_eq_some hjoining
          exact (List.append_nil _).symm
      | bound haccepted =>
          simp [heldInputs, submitted_of_accepted setup w haccepted]
      | queued haccepted hsubmitted hlatency hquiet =>
          simp [heldInputs, hsubmitted, hlatency]
      | applied haccepted hsubmitted hlatency hquiet =>
          simp only [heldInputs, if_neg hlatency, List.append_nil]
          exact hquiet.delayedInputs
      | tick now =>
          rw [(onTick_ticked setup w now).delayedInputs]
          exact (List.append_nil _).symm
      | release now => exact absurd rfl (h now)

theorem sendSnapshot_queue (snapshot : Snapshot UInt32) (now : Clocks F)
    (entry : Nat × Player F) :
    (sendSnapshot snapshot now w entry).simulatedLatencyMs = w.simulatedLatencyMs ∧
      (sendSnapshot snapshot now w entry).delayedOutgoing = w.delayedOutgoing ++
        if 0 < w.simulatedLatencyMs then
          (packetFor snapshot entry.2).toList.map fun o =>
            ⟨now.steadySeconds + w.latencySeconds, o.address, o.packet⟩
        else [] := by
  obtain ⟨c, player⟩ := entry
  rw [sendSnapshot, packetFor]
  dsimp only
  by_cases hbound : player.udpBound = true
  · rw [if_neg (by simp [hbound]), if_pos hbound]
    split
    · exact ⟨rfl, rfl⟩
    · exact ⟨rfl, (List.append_nil _).symm⟩
  · rw [if_pos (by simpa using hbound), if_neg hbound]
    simp

/-- The players of a tick join the queue one after the other. -/
theorem sendSnapshots_queue (snapshot : Snapshot UInt32) (now : Clocks F)
    (entries : List (Nat × Player F)) :
    (entries.foldl (sendSnapshot snapshot now) w).delayedOutgoing = w.delayedOutgoing ++
      if 0 < w.simulatedLatencyMs then
        (entries.filterMap fun p => packetFor snapshot p.2).map fun o =>
          ⟨now.steadySeconds + w.latencySeconds, o.address, o.packet⟩
      else [] := by
  induction entries generalizing w with
  | nil => simp
  | cons entry entries ih =>
      obtain ⟨hlatency, hqueue⟩ := sendSnapshot_queue (w := w) snapshot now entry
      rw [List.foldl_cons, ih, hqueue, latencySeconds, latencySeconds, hlatency, List.append_assoc]
      congr 1
      split
      · cases hpacket : packetFor snapshot entry.2 with
        | none => simp [hpacket]
        | some o => simp [hpacket]
      · rfl

theorem step_delayedOutgoing (h : ∀ now, e ≠ .loop (.release now)) :
    (step atof setup w e).delayedOutgoing = w.delayedOutgoing ++ heldOutgoing setup w e := by
  cases e with
  | line text hashed now =>
      exact (congrArg Prod.snd (line_queues text hashed now)).trans (List.append_nil _).symm
  | loop e =>
      have heffect := step_effect setup w e
      rw [step]
      generalize WorldServer.step setup w e = w' at heffect ⊢
      cases heffect with
      | quiet htaken hinputs hsnapshots haccepted hquiet =>
          rw [hquiet.delayedOutgoing]
          cases e with
          | tick now => simp [heldOutgoing, hsnapshots]
          | _ => exact (List.append_nil _).symm
      | joined token session now hjoining hquiet =>
          rw [hquiet.delayedOutgoing]
          obtain ⟨requestId, session', now', token', rfl, -⟩ := joining_eq_some hjoining
          exact (List.append_nil _).symm
      | bound haccepted => exact (List.append_nil _).symm
      | queued haccepted hsubmitted hlatency hquiet =>
          exact hquiet.delayedOutgoing.trans (List.append_nil _).symm
      | applied haccepted hsubmitted hlatency hquiet =>
          exact hquiet.delayedOutgoing.trans (List.append_nil _).symm
      | tick now =>
          have htick := sendSnapshots_queue
            (w := { w with simulation := w.simulation.step setup.phys tickSeconds now.clock })
            (tickSnapshot setup w now) now w.playersByConnection.toList
          exact htick
      | release now => exact absurd rfl (h now)

end Queues

section Traced

variable (start : ClockReading F) (events : List (Event F))

theorem traced_world : (traced atof setup start events).world = run atof setup start events := by
  induction events using List.reverseRecOn with
  | nil => rfl
  | append_singleton events e ih =>
      rw [traced, run, Lib.Runs.run_concat, Lib.Runs.run_concat]
      exact congrArg (fun w => step atof setup w e) ih

/-- The queues are what the passes so far have left of what joined them. -/
theorem traced_left :
    Left DelayedInput.dueAt (traced atof setup start events).inputs
        (traced atof setup start events).world.delayedInputs (passes events) ∧
      Left DelayedPacket.dueAt (traced atof setup start events).outgoing
        (traced atof setup start events).world.delayedOutgoing (passes events) := by
  induction events using List.reverseRecOn with
  | nil => exact ⟨Lib.Queues.left_nil, Lib.Queues.left_nil⟩
  | append_singleton events e ih =>
      obtain ⟨hinputs, houtgoing⟩ := ih
      rw [traced, Lib.Runs.run_concat, passes, List.filterMap_append]
      cases hpass : pass e with
      | some now =>
          obtain rfl := pass_eq_some.mp hpass
          simp only [trace, heldInputs, heldOutgoing, List.append_nil]
          exact ⟨hinputs.pass now, houtgoing.pass now⟩
      | none =>
          have hother : ∀ now, e ≠ .loop (.release now) := by
            rintro now rfl
            cases hpass
          have hnone : [e].filterMap pass = [] := List.filterMap_cons_none hpass
          simp only [trace, hnone, List.append_nil, step_delayedInputs hother,
            step_delayedOutgoing hother]
          exact ⟨hinputs.hold _, houtgoing.hold _⟩

end Traced

section Clock

variable [IsTrans F (· ≤ ·)] (start : ClockReading F)

/-- Packets that are gone do not matter to a pass. -/
theorem punctual_iff_traced {pre : List (Event F)} {now : F}
    (hclock : ∀ t ∈ passes pre, t ≤ now) : Punctual (run atof setup start pre) now ↔
      InOrder DelayedInput.dueAt now (traced atof setup start pre).inputs ∧
        InOrder DelayedPacket.dueAt now (traced atof setup start pre).outgoing := by
  obtain ⟨hinputs, houtgoing⟩ := traced_left atof setup start pre
  rw [punctual_iff, ← traced_world]
  exact and_congr (hinputs.inOrder_iff hclock).symm (houtgoing.inOrder_iff hclock).symm

/-- Every packet is released by the first pass whose reading is at or after its due time, and by no
earlier one, if and only if no pass lies between the due times of two packets of a queue of which
the one that joined later is due first. -/
theorem punctual_iff_orderly (events : List (Event F))
    (hclock : (passes events).Pairwise (· ≤ ·)) :
    (∀ pre now, pre ++ [.loop (.release now)] <+: events →
        Punctual (run atof setup start pre) now) ↔
      Lib.Runs.Along (trace atof setup) Orderly ⟨init setup start, [], []⟩ events := by
  have hpunctual : ∀ pre now, pre ++ [.loop (.release now)] <+: events →
      (Punctual (run atof setup start pre) now ↔
        InOrder DelayedInput.dueAt now (traced atof setup start pre).inputs ∧
          InOrder DelayedPacket.dueAt now (traced atof setup start pre).outgoing) := by
    rintro pre now ⟨rest, rfl⟩
    apply punctual_iff_traced
    rw [passes, List.filterMap_append, List.filterMap_append] at hclock
    intro t ht
    have hbefore := (List.pairwise_append.mp (List.pairwise_append.mp hclock).1).2.2
    exact hbefore t ht now (by simp [pass])
  rw [Lib.Runs.along_iff_forall]
  constructor
  · intro h pre e hpre now hnow
    obtain rfl := pass_eq_some.mp hnow
    exact (hpunctual pre now hpre).mp (h pre now hpre)
  · intro h pre now hpre
    exact (hpunctual pre now hpre).mpr (h pre _ hpre now rfl)

end Clock

end Defs

section Runs

def at_ (seconds : ℚ) : Clocks ℚ := ⟨⟨seconds, 0⟩, seconds, 0⟩

def input (sequence : UInt32) (seconds : ℚ) : Event ℚ :=
  .loop (.datagram (Client.NetClient.inputPacket 1 ⟨sequence, 0, 0, 0, false, false⟩) ⟨1, 7⟩
    (at_ seconds))

/-- A line at the console. -/
def typed (text : String) : Event ℚ := .line (Console.ascii text) none ⟨0, 0⟩

/-- A player joins and binds its address. -/
def joining : List (Event ℚ) :=
  [.loop .accept, .loop (.message 1 (joinMessage [1])),
    .loop (.reply 1 (.sessionLookup true ⟨1, [97], 0⟩) (at_ 0)),
    .loop (.datagram (Client.NetClient.helloPacket 1 [1]) ⟨1, 7⟩ (at_ 0))]

/-- The latency is raised between two inputs, and only the first of them is due at the pass. -/
theorem punctual_raised :
    let queued := joining ++
      [typed "latency set 100", input 1 0, typed "latency set 2000", input 2 0]
    Punctual (run (fun _ => 0) .level ⟨0, 0⟩ queued) 1 := by
  intro queued
  have hall := (punctual_iff_orderly (fun _ => 0) .level ⟨0, 0⟩
    (queued ++ [.loop (.release 1), .loop (.release 2)]) (by decide +kernel)).mpr (by decide +kernel)
  exact hall queued 1 ⟨[.loop (.release 2)], by simp⟩

/-- The latency is lowered between two inputs. -/
def lowered : List (Event ℚ) :=
  joining ++ [typed "latency set 2000", input 1 0, typed "latency set 100", input 2 0,
    .loop (.release 1)]

/-- The second input is due after a tenth of a second, and after one it still waits for the first. -/
theorem lowered_late : ¬ ∀ pre now, pre ++ [.loop (.release now)] <+: lowered →
    Punctual (run (fun _ => 0) .level ⟨0, 0⟩ pre) now := by
  intro h
  have hleft := congrArg List.length (h (lowered.dropLast) 1 ⟨[], rfl⟩).inputsLeft
  revert hleft
  decide +kernel

end Runs

end UntitledGame.Server.SimulatedLink
