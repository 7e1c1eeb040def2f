import UntitledGame.Client.NetClient

/-!
# The datagrams that clients send

The bodies of `ClientHello` and `ClientInput` as the world server reads them, and
that it reads what `NetClient` writes.
-/

namespace UntitledGame.Server

open Net ByteReader

structure ClientHello where
  playerId : UInt64
  token : Bytes
  deriving DecidableEq, Repr

/-- The body of a hello, and whether a read failed. -/
def readClientHello : StateM ByteReader (ClientHello × Bool) := do
  let playerId ← u64
  let token ← string
  return (⟨playerId, token⟩, ← failed)

/-- The hello that a datagram carries, if it is one. -/
def decodeClientHello (datagram : Bytes) : Option ClientHello :=
  match readUdpHeader datagram with
  | none => none
  | some (header, bodyOffset) =>
      if WorldMessage.ofU16 header.type ≠ some .clientHello then none
      else
        let (hello, failed) := (readClientHello (start (datagram.drop bodyOffset))).1
        if failed then none else some hello

structure ClientInput where
  claimedId : UInt64
  sequence : UInt32
  moveForward : UInt32
  moveRight : UInt32
  yaw : UInt32
  buttons : UInt8
  deriving DecidableEq, Repr

def readClientInput : StateM ByteReader (ClientInput × Bool) := do
  let claimedId ← u64
  let sequence ← u32
  let moveForward ← f32
  let moveRight ← f32
  let yaw ← f32
  let buttons ← u8
  return (⟨claimedId, sequence, moveForward, moveRight, yaw, buttons⟩, ← failed)

/-- The input that a datagram carries, if it is one. -/
def decodeClientInput (datagram : Bytes) : Option ClientInput :=
  match readUdpHeader datagram with
  | none => none
  | some (header, bodyOffset) =>
      if WorldMessage.ofU16 header.type ≠ some .clientInput then none
      else
        let (input, failed) := (readClientInput (start (datagram.drop bodyOffset))).1
        if failed then none else some input

/-- The server reads the input that the client wrote. -/
theorem decodeClientInput_inputPacket (playerId : UInt64) (input : Client.NetClient.InputBits) :
    decodeClientInput (Client.NetClient.inputPacket playerId input) =
      some ⟨playerId, input.sequence, input.moveForward, input.moveRight, input.yaw,
        Client.NetClient.buttons input.jump input.sprint⟩ := by
  have hread : Yields readClientInput
      (ByteWriter.u64 playerId ++ ByteWriter.u32 input.sequence ++
        ByteWriter.f32 input.moveForward ++ ByteWriter.f32 input.moveRight ++
        ByteWriter.f32 input.yaw ++
        ByteWriter.u8 (Client.NetClient.buttons input.jump input.sprint))
      (⟨playerId, input.sequence, input.moveForward, input.moveRight, input.yaw,
        Client.NetClient.buttons input.jump input.sprint⟩, false) [] := by
    simp only [List.append_assoc]
    rw [← List.append_nil (ByteWriter.u8 _)]
    exact (yields_u64 _ _).bind <| (yields_u32 _ _).bind <| (yields_f32 _ _).bind <|
      (yields_f32 _ _).bind <| (yields_f32 _ _).bind <| (yields_u8 _ _).bind <|
      (yields_failed _).bind <| Yields.pure _ _
  obtain ⟨r, hr, -⟩ := hread _ (start_at _)
  rw [decodeClientInput, Client.NetClient.inputPacket, readUdpHeader_writeUdpHeader]
  simp only [List.drop_left' (writeUdpHeader_length _ _), WorldMessage.ofU16_toU16, ne_eq,
    not_true_eq_false, if_false, hr, Bool.false_eq_true]

/-- A hello is not an input. -/
theorem decodeClientInput_helloPacket (playerId : UInt64) (token : Bytes) :
    decodeClientInput (Client.NetClient.helloPacket playerId token) = none := by
  rw [decodeClientInput, Client.NetClient.helloPacket, List.append_assoc,
    readUdpHeader_writeUdpHeader]
  simp [WorldMessage.ofU16_toU16]

end UntitledGame.Server
