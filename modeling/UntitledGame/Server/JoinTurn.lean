import UntitledGame.Client.Session
import UntitledGame.Client.UdpTurn
import UntitledGame.Net.Chunks
import UntitledGame.Server.Codecs

/-!
# The client's side of a join

What a poll of the client comes to while it joins the world: which bytes it writes on
its world connection, and what the messages that it finds there make of it. `standing`
is the part of the client that a join is about.
-/

namespace UntitledGame.Server.JoinTurn

open Net Client NetClient ByteReader
open Client.Session (Tidy)

/-- The part of the client that a join is about: its state, its world connection, its token, and
who it has been told that it is. -/
def standing (c : NetClient) :
    State × Option MessageStream × Bool × Bytes × UInt64 × UInt32 × Bytes :=
  (c.mState, c.mWorld, c.mPendingWorldSocket, c.mToken, c.mPlayerId, c.mOwnEntityId, c.mUsername)

/-- There is a world connection, or one is being opened. -/
def Connecting (c : NetClient) : Prop := c.mPendingWorldSocket = true ∨ c.mWorld.isSome = true

instance (c : NetClient) : Decidable (Connecting c) := inferInstanceAs (Decidable (_ ∨ _))

/-- The client has given up. -/
def Hung (c : NetClient) : Prop := c.mState = .failed ∧ ¬ Connecting c

theorem hung_fail (c : NetClient) (message : String) : Hung (c.fail message) :=
  ⟨rfl, by simp [Connecting, fail]⟩

section Frames

theorem standing_of_transmits {c c' : NetClient} (h : Transmits c c') :
    standing c' = standing c := by
  obtain ⟨_, _, rfl⟩ := h
  rfl

/-- Datagrams are about something else. -/
theorem standing_pumpUdp (c : NetClient) (now : ℚ) (datagrams : List (Address × Bytes)) :
    standing (c.pumpUdp now datagrams) = standing c := by
  obtain ⟨_, _, _, _, _, _, _, _, _, heq⟩ := exchanges_pumpUdp c now datagrams
  rw [heq]
  rfl

/-- The sockets say in which states there is a world connection. -/
theorem world_of_tidy {c : NetClient} (h : Tidy c) :
    (c.mWorld.isSome = true ↔ Session.Joined c) ∧
      (c.mPendingWorldSocket = true ↔ c.mState = .connectingWorld) := by
  have hneeded : Session.sockets c = Session.needed c.mState := h
  cases hstate : c.mState <;>
    simp [hstate, Session.sockets, Session.needed, Session.Sockets.none] at hneeded <;>
    simp [Session.Joined, hstate, hneeded]

end Frames

section Tokens

theorem short_nil : Short [] := Nat.zero_le _

/-- A string that was read is one that can be written. -/
theorem short_string (r : ByteReader) : Short (string r).1 := by
  rcases hlength : u16 r with ⟨length, rest⟩
  simp only [string, hlength]
  split
  · exact short_nil
  · rename_i hok
    simp only [Bool.or_eq_true, decide_eq_true_eq, not_or, not_lt] at hok
    rw [Short, List.length_take]
    exact (Nat.min_le_left _ _).trans hok.1.2

theorem short_readLoginResponse (payload : Bytes) :
    Short (readLoginResponse (.start payload)).1.1.token := by
  have htoken : (readLoginResponse (.start payload)).1.1.token =
      (string (u8 (.start payload)).2).1 := rfl
  rw [htoken]
  exact short_string _

theorem short_handleAuth {c : NetClient} (h : Short c.mToken) (os : Os) (messages : List Message) :
    Short (c.handleAuth os messages).mToken := by
  induction messages with
  | nil => exact h
  | cons m rest ih =>
      simp only [handleAuth]
      split
      · exact ih
      · have hread := short_readLoginResponse m.payload
        simp only [handleLoginResponse]
        split
        · exact hread
        · split
          · exact hread
          · split
            · exact hread
            · split
              · exact hread
              · exact hread

end Tokens

section Messages

/-- A join response that refuses. -/
def refusal (result : JoinResult) : Message :=
  ⟨WorldMessage.joinResponse.toU16, WorldServer.joinResponse result 0 0 [] 0⟩

/-- A username arrives as far as the writer's cap. -/
theorem readJoinResponse_capped (result : JoinResult) (playerId : Nat) (udpPort : UInt16)
    (username : Bytes) (entityId : UInt32) :
    (readJoinResponse (start (WorldServer.joinResponse result playerId udpPort username
        entityId))).1 =
      (⟨result.toU8, UInt64.ofNat playerId, udpPort, capped username, entityId⟩, false) := by
  apply Yields.whole
  simp only [WorldServer.joinResponse, List.append_assoc]
  rw [← List.append_nil (ByteWriter.u32 entityId)]
  exact (yields_u8 _ _).bind <| (yields_u64 _ _).bind <| (yields_u16 _ _).bind <|
    (yields_string _ _).bind <| (yields_u32 _ _).bind <| (yields_failed _).bind <|
    Yields.pure _ _

theorem joinResponse_toU8_injective : Function.Injective JoinResult.toU8 := by
  intro result result' h
  cases result <;> cases result' <;> simp_all [JoinResult.toU8]

variable (c : NetClient) (now : ℚ) (udpOpens : List (Bool × Option Address))

/-- A refused client gives up. -/
theorem handleWorld_refusal {result : JoinResult} (h : result ≠ .success) :
    Hung (c.handleWorld now udpOpens [refusal result]) := by
  have htype : WorldMessage.ofU16 (refusal result).type = some .joinResponse :=
    WorldMessage.ofU16_toU16 .joinResponse
  have hread := readJoinResponse_capped result 0 0 [] 0
  have hresult : result.toU8 ≠ JoinResult.success.toU8 := joinResponse_toU8_injective.ne h
  have hhung : Hung (c.handleJoinResponse now (udpOpens.headD (false, none))
      (refusal result).payload) := by
    simp only [refusal, handleJoinResponse, hread, Bool.false_eq_true, if_false, ne_eq, hresult,
      not_false_eq_true, if_true]
    exact hung_fail _ _
  simp only [handleWorld, htype]
  rw [if_pos hhung.1]
  exact hhung

/-- An admitted client is in the world, as the player that the response describes, or it gives up
because it has no UDP socket. -/
theorem handleWorld_admission (playerId : Nat) (udpPort : UInt16) (username : Bytes)
    (entityId : UInt32) :
    let c' := c.handleWorld now udpOpens [⟨WorldMessage.joinResponse.toU16,
      WorldServer.joinResponse .success playerId udpPort username entityId⟩]
    Hung c' ∨ standing c' = (.inWorld, c.mWorld, c.mPendingWorldSocket, c.mToken,
      UInt64.ofNat playerId, entityId, capped username) := by
  have htype : WorldMessage.ofU16 WorldMessage.joinResponse.toU16 = some .joinResponse := by decide
  have hread := readJoinResponse_capped .success playerId udpPort username entityId
  let response := WorldServer.joinResponse .success playerId udpPort username entityId
  have houtcome :
      let c' := c.handleJoinResponse now (udpOpens.headD (false, none)) response
      Hung c' ∨ standing c' = (.inWorld, c.mWorld, c.mPendingWorldSocket, c.mToken,
        UInt64.ofNat playerId, entityId, capped username) := by
    simp only [response, handleJoinResponse, hread, Bool.false_eq_true, if_false, ne_eq,
      not_true_eq_false]
    split
    · exact Or.inl (hung_fail _ _)
    · split
      · exact Or.inl (hung_fail _ _)
      · right
        exact standing_of_transmits (transmits_sendUdpHello _)
  simp only [handleWorld, htype]
  split
  · exact houtcome
  · exact houtcome

end Messages

section Polls

/-- The join request goes out when the world connection has been made. -/
def written (c : NetClient) (os : Os) : Bytes :=
  if c.mState = .connectingWorld ∧ os.writable = true ∧ os.connectResult = true then
    (MessageStream.fresh.send (WorldServer.joinMessage c.mToken) [] os.sends).2
  else []

/-- A login starts with the auth server. -/
theorem login_fresh (c : NetClient) (host : String) (username password : Bytes) (os : Os) :
    let c' := c.login host username password os
    c'.mToken = [] ∧ ¬ Connecting c' := by
  simp only [login]
  split
  · exact ⟨rfl, (hung_fail _ _).2⟩
  · split
    · exact ⟨rfl, (hung_fail _ _).2⟩
    · exact ⟨rfl, by simp [Connecting, disconnect]⟩

/-- What a poll of a client with a world connection comes to. -/
theorem poll_joined {c : NetClient} (hjoined : Session.Joined c) {stream : MessageStream}
    (hworld : c.mWorld = some stream) (now : ℚ) (os : Os) :
    let pumped := (stream.pump os.arriving os.receives).1
    Hung (c.poll now os) ∨
      standing (c.poll now os) = standing (handleWorld
        { c with mLastPollTime := now, mWorld := some pumped.drain.2 } now os.udpOpens
        pumped.drain.1) := by
  have hpump : Hung (pumpWorld { c with mLastPollTime := now } now os) ∨
      standing (pumpWorld { c with mLastPollTime := now } now os) = standing (handleWorld
        { c with
          mLastPollTime := now
          mWorld := some (stream.pump os.arriving os.receives).1.drain.2 } now os.udpOpens
        (stream.pump os.arriving os.receives).1.drain.1) := by
    simp only [pumpWorld, hworld]
    split
    · exact Or.inl (hung_fail _ _)
    · split
      · exact Or.inr rfl
      · exact Or.inr (standing_pumpUdp _ now _)
  rw [Client.UdpTurn.poll_of_joined hjoined]
  exact hpump

theorem handleWorld_mToken (c : NetClient) (now : ℚ) (udpOpens : List (Bool × Option Address))
    (messages : List Message) : (c.handleWorld now udpOpens messages).mToken = c.mToken := by
  induction messages generalizing c udpOpens with
  | nil => rfl
  | cons m rest ih =>
      have hjoin : ∀ udpOpen, (c.handleJoinResponse now udpOpen m.payload).mToken = c.mToken := by
        intro udpOpen
        simp only [handleJoinResponse]
        split
        · rfl
        · split
          · rfl
          · split
            · rfl
            · split
              · rfl
              · exact congrArg (·.2.2.2.1) (standing_of_transmits (transmits_sendUdpHello _))
      simp only [handleWorld]
      split
      · split
        · exact hjoin _
        · exact (ih _ _).trans (hjoin _)
      · rfl
      · exact ih _ _

/-- On its world connection, the client keeps its token. -/
theorem poll_mToken {c : NetClient} (hjoined : Session.Joined c) (now : ℚ) (os : Os) :
    (c.poll now os).mToken = c.mToken := by
  rw [Client.UdpTurn.poll_of_joined hjoined]
  simp only [pumpWorld]
  split
  · rfl
  · split
    · rfl
    · split
      · exact handleWorld_mToken _ _ _ _
      · have hudp : ∀ d : NetClient, (d.pumpUdp now os.datagrams).mToken = d.mToken := fun d =>
          congrArg (·.2.2.2.1) (standing_pumpUdp d now os.datagrams)
        exact (hudp _).trans (handleWorld_mToken _ _ _ _)

theorem connecting_iff {c : NetClient} (h : Tidy c) :
    Connecting c ↔ c.mState = .connectingWorld ∨ Session.Joined c := by
  rw [Connecting, (world_of_tidy h).1, (world_of_tidy h).2]

/-- What the auth server says brings nobody into the world. -/
theorem handleAuth_outside {c : NetClient} (h : ¬ Session.Joined c) (os : Os)
    (messages : List Message) : ¬ Session.Joined (c.handleAuth os messages) := by
  induction messages with
  | nil => exact h
  | cons m rest ih =>
      simp only [handleAuth]
      split
      · exact ih
      · simp only [handleLoginResponse]
        split
        · simp [Session.Joined, fail]
        · split
          · simp [Session.Joined, fail]
          · split
            · simp [Session.Joined, fail]
            · split
              · simp [Session.Joined, fail]
              · simp [Session.Joined]

theorem pumpAuth_outside {c : NetClient} (hshort : Short c.mToken) (hjoined : ¬ Session.Joined c)
    (os : Os) : Short (c.pumpAuth os).mToken ∧ ¬ Session.Joined (c.pumpAuth os) := by
  simp only [pumpAuth]
  split
  · exact ⟨hshort, by simp [Session.Joined, fail]⟩
  · rename_i stream hstream
    split
    · exact ⟨hshort, by simp [Session.Joined, fail]⟩
    · let d : NetClient := { c with mAuth := some (stream.pump os.arriving os.receives).1.drain.2 }
      exact ⟨short_handleAuth (c := d) hshort os _, handleAuth_outside (c := d) hjoined os _⟩

/-- A client that talks to the auth server, after a poll. -/
theorem poll_login {c : NetClient} (hshort : Short c.mToken)
    (hconnecting : c.mState ≠ .connectingWorld) (hjoined : ¬ Session.Joined c) (now : ℚ) (os : Os) :
    let c' := c.poll now os
    Short c'.mToken ∧ ¬ Session.Joined c' := by
  simp only [poll]
  split
  · rename_i hstate
    simp only [pollConnectingAuth]
    split
    · exact ⟨hshort, hjoined⟩
    · split
      · exact ⟨hshort, by simp [Session.Joined, fail]⟩
      · exact ⟨hshort, by simp [Session.Joined]⟩
  · exact pumpAuth_outside (c := { c with mLastPollTime := now }) hshort hjoined os
  · rename_i hstate
    exact absurd hstate hconnecting
  · rename_i hstate
    exact absurd (Or.inl hstate) hjoined
  · rename_i hstate
    exact absurd (Or.inr hstate) hjoined
  · exact ⟨hshort, hjoined⟩
  · exact ⟨hshort, hjoined⟩

/-- A client that connects to the world server, after a poll: it waits on, it gives up, or it has
written its join request on the new connection. -/
theorem poll_connecting {c : NetClient} (hstate : c.mState = .connectingWorld) (now : ℚ) (os : Os) :
    let c' := c.poll now os
    c'.mToken = c.mToken ∧ (Hung c' ∨ c'.mState = .connectingWorld ∧ written c os = [] ∨
      c'.mState = .awaitingJoin ∧
        c'.mWorld = some (MessageStream.fresh.send (WorldServer.joinMessage c.mToken) []
          os.sends).1) := by
  simp only [poll, hstate, pollConnectingWorld]
  split
  · rename_i hwait
    refine ⟨rfl, Or.inr (Or.inl ⟨rfl, ?_⟩)⟩
    rw [Bool.not_eq_true'] at hwait
    simp [written, hwait]
  · split
    · exact ⟨rfl, Or.inl (hung_fail _ _)⟩
    · exact ⟨rfl, Or.inr (Or.inr ⟨rfl, rfl⟩)⟩

end Polls

end UntitledGame.Server.JoinTurn
