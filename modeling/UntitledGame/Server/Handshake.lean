import UntitledGame.Server.Incumbents
import UntitledGame.Server.JoinTurn
import UntitledGame.Server.TcpRefinement
import UntitledGame.Server.UdpAddresses

/-!
# The client and the world server agree on who joined

A client application and the world server, byte for byte on the connection between
them. Everything else is arbitrary: what other connections send, what the database
answers and when, every datagram, what the auth server says, and when each side gets
to do something. The client may give up, log out and log in again at any moment.

`in_world_agreed` says that a client which is in the world is the one that the server
admitted on its connection: with its token, under the player id and the entity id that
it believes to have, and nobody else was admitted there. `hello_binds_own` is what the
client gets out of it: its hello binds its own player.

## Implementation notes

`link` is the number of the client's connection at the server, once that has accepted
it. When the client drops its connection, the fields about it start afresh, and what
it had sent on the old one is for the server to receive as from anybody else. `heard`,
`handed`, `taken` and `popped` only record what the two streams have read and handed
out, and `log` what the server has said.
-/

namespace UntitledGame.Server.Handshake

open Net Client WorldServer JoinTurn Incumbents
open Net.Connection (frames)
open Net.Reader (Reads)
open Client.NetClient (Os InputBits)
open Client.Session (Tidy)
open TcpRefinement (sentOn)
open Std (ExtTreeMap)

structure Joining (F : Type*) where
  client : NetClient
  server : WorldServer F
  log : List Response
  link : Option Nat
  unheard : Bytes
  stream : MessageStream
  heard : Bytes
  handed : List Message
  taken : Bytes
  popped : List Message

inductive Act (F : Type*) where
  | login (host : String) (username password : Bytes) (os : Os)
  | logout
  | poll (now : ℚ) (os : Os)
  | sendInput (input : InputBits) (dropped : Bool)
  | accept
  | read (receives : List Receive)
  | next
  | work (e : Event F)

section System

variable {F : Type*} [Scalar F] (setup : Setup F)

/-- Before anything happens. -/
def Joining.init (mFakeLatency mFakeLoss : ℚ) (now : Sim.ClockReading F) : Joining F where
  client := .init mFakeLatency mFakeLoss
  server := WorldServer.init setup now
  log := []
  link := none
  unheard := []
  stream := .fresh
  heard := []
  handed := []
  taken := []
  popped := []

namespace Joining

/-- What the server has sent on the client's connection. -/
def offered (s : Joining F) : List Message :=
  match s.link with
  | none => []
  | some c => sentOn c s.server.server.sent

/-- The part of it that the client has not taken. -/
def incoming (s : Joining F) : Bytes := (frames s.offered).drop s.taken.length

/-- The client does something. -/
def follow (s : Joining F) (client : NetClient) : Joining F :=
  if Connecting client then { s with client := client }
  else
    { s with
      client := client
      link := none
      unheard := []
      stream := .fresh
      heard := []
      handed := []
      taken := []
      popped := [] }

/-- The server does something. -/
def serve (s : Joining F) (e : Event F) : Joining F :=
  { s with server := s.server.step setup e, log := s.log ++ responses setup s.server e }

/-- On its world connection the client reads what the server has sent; elsewhere it may write its
join request. -/
def poll (s : Joining F) (now : ℚ) (os : Os) : Joining F :=
  match s.client.mWorld with
  | some stream =>
      let os := { os with arriving := s.incoming }
      follow
        { s with
          taken := s.taken ++ Reader.pumped stream s.incoming os.receives
          popped := s.popped ++ (stream.pump s.incoming os.receives).1.drain.1 }
        (s.client.poll now os)
  | none => follow { s with unheard := s.unheard ++ written s.client os } (s.client.poll now os)

/-- The server accepts the client's connection. -/
def accept (s : Joining F) : Joining F :=
  if s.link = none ∧ Connecting s.client then
    { s.serve setup .accept with link := some s.server.server.mNextId }
  else s

/-- The server reads from the client's connection. -/
def read (s : Joining F) (receives : List Receive) : Joining F :=
  if s.link = none then s
  else
    { s with
      unheard := (s.stream.pump s.unheard receives).2.1
      stream := (s.stream.pump s.unheard receives).1
      heard := s.heard ++ Reader.pumped s.stream s.unheard receives }

/-- The server hands a message of the client to its handlers. -/
def next (s : Joining F) : Joining F :=
  match s.link, s.stream.next with
  | some c, some (m, stream) =>
      { s.serve setup (.message c m) with stream := stream, handed := s.handed ++ [m] }
  | _, _ => s

/-- A message on the client's connection comes from the client. -/
def Foreign (s : Joining F) : Event F → Prop
  | .message id _ => s.link ≠ some id
  | _ => True

instance (s : Joining F) : ∀ e : Event F, Decidable (s.Foreign e)
  | .message id _ => inferInstanceAs (Decidable (s.link ≠ some id))
  | .accept => inferInstanceAs (Decidable True)
  | .hangUp _ => inferInstanceAs (Decidable True)
  | .closeDeferred => inferInstanceAs (Decidable True)
  | .reply _ _ _ => inferInstanceAs (Decidable True)
  | .dbLost _ => inferInstanceAs (Decidable True)
  | .datagram _ _ _ => inferInstanceAs (Decidable True)
  | .tick _ => inferInstanceAs (Decidable True)
  | .release _ => inferInstanceAs (Decidable True)
  | .sweep _ => inferInstanceAs (Decidable True)

def step (s : Joining F) : Act F → Joining F
  | .login host username password os => s.follow (s.client.login host username password os)
  | .logout => s.follow s.client.logout
  | .poll now os => s.poll now os
  | .sendInput input dropped => s.follow (s.client.sendInput input dropped)
  | .accept => s.accept setup
  | .read receives => s.read receives
  | .next => s.next setup
  | .work e => if s.Foreign e then s.serve setup e else s

end Joining

def run (mFakeLatency mFakeLoss : ℚ) (now : Sim.ClockReading F) (acts : List (Act F)) : Joining F :=
  Lib.Runs.run (Joining.step setup) (Joining.init setup mFakeLatency mFakeLoss now) acts

end System

section Frames

/-- Of two lists of messages, the one whose bytes come first comes first. -/
theorem prefix_of_frames {ms ns : List Message} (hms : ∀ m ∈ ms, MessageStream.Sendable m)
    (hns : ∀ n ∈ ns, MessageStream.Sendable n) (h : frames ms <+: frames ns) : ms <+: ns := by
  refine Reader.prefix_of_frames (s := .fresh) rfl hms hns ?_
  rwa [show MessageStream.fresh.mReadBuffer = [] from rfl, List.append_nil]

/-- What a reader was handed of a writer's messages. -/
theorem handed_prefix {s : MessageStream} {received : Bytes} {handed sent : List Message}
    (hreads : Reads s received handed) (hsent : ∀ m ∈ sent, MessageStream.Sendable m)
    (h : received <+: frames sent) : handed <+: sent := by
  refine prefix_of_frames hreads.sendable hsent (List.IsPrefix.trans ?_ h)
  rw [hreads.bytes]
  exact List.prefix_append _ _

theorem joinRequest_sendable {token : Bytes} (h : Short token) :
    MessageStream.Sendable (joinMessage token) := by
  have hcap : token.length ≤ 1024 := h
  have hmax : MessageStream.kMaxPayloadSize = 1048576 := rfl
  rw [MessageStream.Sendable, hmax]
  simp only [joinMessage, NetClient.joinRequest, List.length_append, ByteWriter.u32_length,
    Codecs.string_length h]
  omega

end Frames

section Verdicts

/-- The log of one connection. -/
def entriesOn (c : Nat) (log : List Response) : List Response := log.filter fun r => r.id = c

theorem mem_sentOn {c : Nat} {m : Message} {messages : List (Nat × Message)} :
    m ∈ sentOn c messages ↔ (c, m) ∈ messages := by
  simp only [sentOn, List.mem_map, List.mem_filter, decide_eq_true_eq]
  constructor
  · rintro ⟨⟨id, m'⟩, ⟨hmem, rfl⟩, rfl⟩
    exact hmem
  · exact fun hmem => ⟨(c, m), ⟨hmem, rfl⟩, rfl⟩

/-- One message on a connection has one number. -/
theorem number_unique {c : Nat} {arrivals : List (Nat × Message)}
    (h : (sentOn c arrivals).length ≤ 1) {k k' : Nat} {m m' : Message}
    (hk : arrivals[k]? = some (c, m)) (hk' : arrivals[k']? = some (c, m')) : k = k' := by
  have hlt : ∀ {i j : Nat} {a b : Message}, arrivals[i]? = some (c, a) →
      arrivals[j]? = some (c, b) → ¬ i < j := by
    intro i j a b hi hj hij
    have hfirst : a ∈ sentOn c (arrivals.take j) := by
      rw [mem_sentOn]
      exact List.mem_of_getElem? (i := i) (by rw [List.getElem?_take_of_lt hij, hi])
    have hsecond : b ∈ sentOn c (arrivals.drop j) := by
      rw [mem_sentOn]
      exact List.mem_of_getElem? (i := 0) (by rw [List.getElem?_drop, Nat.add_zero, hj])
    have hsplit : sentOn c arrivals = sentOn c (arrivals.take j) ++ sentOn c (arrivals.drop j) := by
      rw [← TcpRefinement.sentOn_append, List.take_append_drop]
    rw [hsplit, List.length_append] at h
    have hpos := List.length_pos_of_mem hfirst
    have hpos' := List.length_pos_of_mem hsecond
    omega
  exact Nat.le_antisymm (Nat.not_lt.mp (hlt hk' hk)) (Nat.not_lt.mp (hlt hk hk'))

/-- What a server has sent on a connection is what its log has for it. -/
theorem sentOn_log (c : Nat) (log : List Response) :
    sentOn c (log.filterMap Response.sent) =
      (entriesOn c log).filterMap fun r => if r.delivered then r.message else none := by
  induction log with
  | nil => rfl
  | cons r log ih =>
      have hcons : sentOn c ((r :: log).filterMap Response.sent) =
          sentOn c (r.sent.toList) ++ sentOn c (log.filterMap Response.sent) := by
        rw [← TcpRefinement.sentOn_append, List.filterMap_cons]
        cases r.sent <;> rfl
      rw [hcons, ih]
      obtain ⟨request, id, message, delivered, admission⟩ := r
      by_cases hid : id = c
      · cases message <;> cases delivered <;> simp [Response.sent, sentOn, entriesOn, hid]
      · cases message <;> cases delivered <;> simp [Response.sent, sentOn, entriesOn, hid]

/-- What a client that has sent one join request finds: nothing yet, a refusal, or an admission
with its token. -/
inductive Verdict (udpPort : UInt16) (log : List Response) (c : Nat) (token : Bytes) :
    List Message → Prop
  | silent : Verdict udpPort log c token []
  | refused (result : JoinResult) (h : result ≠ .success) :
      Verdict udpPort log c token [refusal result]
  | admitted (r : Response) (a : Admission) (hr : r ∈ log) (hid : r.id = c)
      (ha : r.admission = some a) (htoken : a.token = token) :
      Verdict udpPort log c token [⟨WorldMessage.joinResponse.toU16, a.payload udpPort⟩]

theorem Verdict.length_le {udpPort : UInt16} {log : List Response} {c : Nat} {token : Bytes}
    {messages : List Message} (h : Verdict udpPort log c token messages) : messages.length ≤ 1 := by
  cases h with
  | silent => exact Nat.zero_le 1
  | refused result hresult => exact Nat.le_refl 1
  | admitted r a hr hid ha htoken => exact Nat.le_refl 1

theorem Verdict.sendable {udpPort : UInt16} {log : List Response} {c : Nat} {token : Bytes}
    {messages : List Message} (h : Verdict udpPort log c token messages) :
    ∀ m ∈ messages, MessageStream.Sendable m := by
  have hjoin : ∀ (result : JoinResult) (playerId : Nat) (username : Bytes) (entityId : UInt32)
      (port : UInt16), MessageStream.Sendable ⟨WorldMessage.joinResponse.toU16,
        joinResponse result playerId port username entityId⟩ := by
    intro result playerId username entityId port
    have hmax : MessageStream.kMaxPayloadSize = 1048576 := rfl
    have hcap : ByteWriter.kMaxStringLength = 1024 := rfl
    have hstring : (ByteWriter.string username).length ≤ 1026 := by
      simp only [ByteWriter.string, List.length_append, ByteWriter.u16_length, List.length_take]
      split <;> omega
    rw [MessageStream.Sendable, hmax]
    simp only [joinResponse, List.length_append, ByteWriter.u8_length, ByteWriter.u64_length,
      ByteWriter.u16_length, ByteWriter.u32_length]
    omega
  intro m hm
  cases h with
  | silent => cases hm
  | refused result hresult =>
      rw [List.mem_singleton.mp hm]
      exact hjoin _ _ _ _ _
  | admitted r a hr hid ha htoken =>
      rw [List.mem_singleton.mp hm]
      exact hjoin _ _ _ _ _

variable {F : Type*} [Scalar F] {setup : Setup F} {w : WorldServer F}
  {log : List Response} {c : Nat} {token : Bytes}

omit [Scalar F] in
/-- To one message there is one entry. -/
theorem entriesOn_length (h : Accounted setup [] w log) (hone : (sentOn c w.arrivals).length ≤ 1) :
    (entriesOn c log).length ≤ 1 := by
  cases hentries : entriesOn c log with
  | nil => exact Nat.zero_le 1
  | cons r rest =>
      have hmem : ∀ r' ∈ entriesOn c log, r' ∈ log ∧ r'.id = c := by
        intro r' hr'
        simpa [entriesOn] using hr'
      have hnumber : ∀ r' ∈ log, r'.id = c → ∃ m, w.arrivals[r'.request]? = some (c, m) := by
        intro r' hr' hid
        obtain ⟨type, ⟨m, hm, -⟩, -⟩ := h.given r' hr'
        exact ⟨m, by rw [← hid]; exact hm⟩
      obtain ⟨hr, hrid⟩ := hmem r (by rw [hentries]; exact List.mem_cons_self)
      obtain ⟨m, hm⟩ := hnumber r hr hrid
      have hcount : log.countP (fun r' => r'.id = c) ≤ log.countP (·.request = r.request) := by
        refine List.countP_mono_left fun r' hr' hid => ?_
        obtain ⟨m', hm'⟩ := hnumber r' hr' (by simpa using hid)
        simpa using number_unique hone hm' hm
      have hasked : Task.asked responseTo w.arrivals r.request ≤ 1 := Task.asked_le_one _
      have hbalance := h.balance r.request
      rw [← hentries, entriesOn, ← List.countP_eq_length_filter]
      omega

omit [Scalar F] in
theorem verdict (h : Accounted setup [] w log) (hshort : Short token)
    (honly : (sentOn c w.arrivals).Sublist [joinMessage token]) :
    Verdict setup.udpPort log c token (sentOn c w.server.sent) := by
  have honly' : ∀ m, (c, m) ∈ w.arrivals → m = joinMessage token := by
    intro m hm
    exact List.mem_singleton.mp (honly.subset (mem_sentOn.mpr hm))
  have hjoin : responseTo (joinMessage token) = some .joinResponse := by
    rw [responseTo, show (joinMessage token).type = WorldMessage.joinRequest.toU16 from rfl,
      WorldMessage.ofU16_toU16]
  have hlength := entriesOn_length h honly.length_le
  rw [h.sent, sentOn_log]
  cases hentries : entriesOn c log with
  | nil => exact .silent
  | cons r rest =>
      rw [hentries, List.length_cons] at hlength
      obtain rfl : rest = [] := List.eq_nil_of_length_eq_zero (by omega)
      obtain ⟨hr, hid⟩ : r ∈ log ∧ r.id = c := by
        have hmem : r ∈ entriesOn c log := by
          rw [hentries]
          exact List.mem_cons_self
        simpa [entriesOn] using hmem
      obtain ⟨type, ⟨m', hm', htype⟩, htrue⟩ := h.given r hr
      obtain rfl := honly' m' (hid ▸ List.mem_of_getElem? hm')
      obtain rfl := Option.some.inj (hjoin.symm.trans htype)
      rw [List.filterMap_cons, List.filterMap_nil]
      cases hdelivered : r.delivered with
      | false => exact .silent
      | true =>
          cases hmessage : r.message with
          | none => exact .silent
          | some m =>
              rw [Truthful, hmessage] at htrue
              cases hadmission : r.admission with
              | none =>
                  rw [hadmission] at htrue
                  obtain ⟨hmtype, hrefuses⟩ := htrue
                  obtain ⟨result, hresult, hpayload⟩ := hrefuses rfl
                  have hm : m = refusal result := by
                    obtain ⟨mtype, payload⟩ := m
                    rw [refusal, ← hmtype, ← hpayload]
                  rw [hm]
                  exact .refused result hresult
              | some a =>
                  rw [hadmission] at htrue
                  obtain ⟨-, rfl, m'', hm'', -, hread⟩ := htrue
                  obtain rfl := congrArg Prod.snd (Option.some.inj (hm'.symm.trans hm''))
                  refine .admitted r a hr hid hadmission ?_
                  rw [show (joinMessage token).payload = NetClient.joinRequest token from rfl,
                    Codecs.readJoinRequest_joinRequest hshort] at hread
                  exact (congrArg (·.2.1) hread).symm

end Verdicts

section Invariant

variable {F : Type*} [Scalar F] (setup : Setup F)

/-- The client is the one that the server admitted on its connection, and that is all it has been
told there. -/
def Agrees (s : Joining F) : Prop :=
  ∃ c, s.link = some c ∧ ∃ r ∈ s.log, r.id = c ∧ ∃ a, r.admission = some a ∧
    a.token = s.client.mToken ∧ UInt64.ofNat a.playerId = s.client.mPlayerId ∧
    a.entityId = s.client.mOwnEntityId ∧ capped a.username = s.client.mUsername ∧
    s.popped = [⟨WorldMessage.joinResponse.toU16, a.payload setup.udpPort⟩]

/-- Nothing has been written or read. -/
structure Silent (s : Joining F) : Prop where
  heard : s.heard ++ s.unheard = []
  taken : s.taken = []
  popped : s.popped = []

/-- What holds of the two sides in every state. -/
structure Inv (s : Joining F) : Prop where
  hosted : Hosted setup s.server s.log
  tidy : Tidy s.client
  short : Short s.client.mToken
  link : ∀ c, s.link = some c → Connecting s.client ∧ c < s.server.server.mNextId
  silent : ¬ Session.Joined s.client → Silent s
  reads : Reads s.stream s.heard s.handed
  wire : s.heard ++ s.unheard <+: frames [joinMessage s.client.mToken]
  arrived : ∀ c, s.link = some c → (sentOn c s.server.arrivals).Sublist s.handed
  takes : ∀ stream, s.client.mWorld = some stream → Reads stream s.taken s.popped
  begun : s.taken <+: frames s.offered
  waits : s.client.mState = .awaitingJoin → s.popped = []
  agrees : s.client.mState = .inWorld → Agrees setup s

variable {setup} {s : Joining F}

omit [Scalar F]

/-- The server has heard of the client's one message at most. -/
theorem Inv.sublist (h : Inv setup s) {c : Nat} (hc : s.link = some c) :
    (sentOn c s.server.arrivals).Sublist [joinMessage s.client.mToken] := by
  refine (h.arrived c hc).trans (List.IsPrefix.sublist ?_)
  refine handed_prefix h.reads ?_ ((List.prefix_append _ _).trans h.wire)
  intro m hm
  rw [List.mem_singleton.mp hm]
  exact joinRequest_sendable h.short

/-- What the server has said on the connection is one verdict, if anything. -/
theorem Inv.offered (h : Inv setup s) :
    s.offered = [] ∨ ∃ c, s.link = some c ∧
      Verdict setup.udpPort s.log c s.client.mToken s.offered := by
  cases hlink : s.link with
  | none =>
      left
      rw [Joining.offered, hlink]
  | some c =>
      right
      refine ⟨c, rfl, ?_⟩
      have hverdict := verdict h.hosted.accounted h.short (h.sublist hlink)
      rwa [Joining.offered, hlink]

theorem Inv.sendable (h : Inv setup s) : ∀ m ∈ s.offered, MessageStream.Sendable m := by
  rcases h.offered with hnone | ⟨c, -, hverdict⟩
  · rw [hnone]
    exact fun m hm => absurd hm List.not_mem_nil
  · exact hverdict.sendable

/-- Without a connection, everything is as it was at first. -/
theorem inv_left (hhosted : Hosted setup s.server s.log) {client : NetClient} (htidy : Tidy client)
    (hshort : Short client.mToken) (hleft : ¬ Connecting client) : Inv setup (s.follow client) := by
  have houtside : ¬ Session.Joined client := fun hjoined =>
    hleft ((connecting_iff htidy).mpr (Or.inr hjoined))
  rw [Joining.follow, if_neg hleft]
  exact {
    hosted := hhosted
    tidy := htidy
    short := hshort
    link := fun c hc => by cases hc
    silent := fun _ => ⟨rfl, rfl, rfl⟩
    reads := Reader.reads_fresh
    wire := List.nil_prefix
    arrived := fun c hc => by cases hc
    takes := fun stream hstream => by
      rw [Connecting, hstream] at hleft
      exact absurd (Or.inr rfl) hleft
    begun := List.nil_prefix
    waits := fun _ => rfl
    agrees := fun hstate => absurd (Or.inr hstate) houtside }

/-- Before there is a world connection, the client does what it likes. -/
theorem Inv.outside (h : Inv setup s) (hsilent : Silent s) {client : NetClient}
    (htidy : Tidy client) (hshort : Short client.mToken) (hjoined : ¬ Session.Joined client) :
    Inv setup (s.follow client) := by
  by_cases hconnecting : Connecting client
  · rw [Joining.follow, if_pos hconnecting]
    exact {
      hosted := h.hosted
      tidy := htidy
      short := hshort
      link := fun c hc => ⟨hconnecting, (h.link c hc).2⟩
      silent := fun _ => ⟨hsilent.heard, hsilent.taken, hsilent.popped⟩
      reads := h.reads
      wire := by
        dsimp only
        rw [hsilent.heard]
        exact List.nil_prefix
      arrived := h.arrived
      takes := fun stream hstream => by
        have hsome : client.mWorld.isSome = true := by rw [hstream]; rfl
        exact absurd ((world_of_tidy htidy).1.mp hsome) hjoined
      begun := h.begun
      waits := fun hstate => absurd (Or.inl hstate) hjoined
      agrees := fun hstate => absurd (Or.inr hstate) hjoined }
  · exact inv_left h.hosted htidy hshort hconnecting

/-- The client has read on, and it is still joined. -/
theorem Inv.joined (h : Inv setup s) {client : NetClient} (htidy : Tidy client)
    (hjoined : Session.Joined client) (htoken : client.mToken = s.client.mToken) {taken : Bytes}
    {popped : List Message} (hbegun : taken <+: frames s.offered)
    (htakes : ∀ stream, client.mWorld = some stream → Reads stream taken popped)
    (hwaits : client.mState = .awaitingJoin → popped = [])
    (hagrees : client.mState = .inWorld →
      Agrees setup { s with client := client, taken := taken, popped := popped }) :
    Inv setup ({ s with taken := taken, popped := popped }.follow client) := by
  have hconnecting : Connecting client := (connecting_iff htidy).mpr (Or.inr hjoined)
  rw [Joining.follow, if_pos hconnecting]
  exact {
    hosted := h.hosted
    tidy := htidy
    short := by
      rw [htoken]
      exact h.short
    link := fun c hc => ⟨hconnecting, (h.link c hc).2⟩
    silent := fun hout => absurd hjoined hout
    reads := h.reads
    wire := by
      rw [htoken]
      exact h.wire
    arrived := h.arrived
    takes := htakes
    begun := hbegun
    waits := hwaits
    agrees := hagrees }

end Invariant

section Turns

variable {F : Type*} [Scalar F] {setup : Setup F} {s : Joining F}

section Calls

omit [Scalar F]

theorem Inv.login (h : Inv setup s) (host : String) (username password : Bytes) (os : Os) :
    Inv setup (s.follow (s.client.login host username password os)) := by
  obtain ⟨htoken, hleft⟩ := login_fresh s.client host username password os
  refine inv_left h.hosted (Session.tidy_login _ _ _ _ _) ?_ hleft
  rw [htoken]
  exact short_nil

theorem Inv.logout (h : Inv setup s) : Inv setup (s.follow s.client.logout) :=
  inv_left h.hosted (Session.tidy_disconnect s.client) short_nil
    (by simp [Connecting, NetClient.logout, NetClient.disconnect])

theorem Inv.sendInput (h : Inv setup s) (input : InputBits) (dropped : Bool) :
    Inv setup (s.follow (s.client.sendInput input dropped)) := by
  have htransmits := Client.NetClient.transmits_sendInput s.client input dropped
  have hstanding := standing_of_transmits htransmits
  have htidy := h.tidy.of_status (Session.status_of_transmits htransmits)
  generalize s.client.sendInput input dropped = client at hstanding htidy ⊢
  simp only [standing, Prod.mk.injEq] at hstanding
  obtain ⟨hstate, hworld, -, htoken, hplayerId, hentityId, husername⟩ := hstanding
  have hjoined : Session.Joined client ↔ Session.Joined s.client := by
    rw [Session.Joined, Session.Joined, hstate]
  by_cases hin : Session.Joined s.client
  · refine h.joined htidy (hjoined.mpr hin) htoken h.begun (fun stream hstream => ?_)
      (fun hwaits => h.waits (hstate ▸ hwaits)) (fun hworld' => ?_)
    · exact h.takes stream (hworld ▸ hstream)
    · rw [Agrees, htoken, hplayerId, hentityId, husername]
      exact h.agrees (hstate ▸ hworld')
  · refine h.outside (h.silent hin) htidy ?_ (fun hout => hin (hjoined.mp hout))
    rw [htoken]
    exact h.short

end Calls

/-- The part of the stream that the client reads. -/
theorem pumped_append (stream : MessageStream) (arriving : Bytes) (receives : List Receive) :
    Reader.pumped stream arriving receives ++ (stream.pump arriving receives).2.1 = arriving := by
  obtain ⟨chunk, -, hbytes⟩ := MessageStream.pump_conserves receives stream arriving
  have hchunk : Reader.pumped stream arriving receives = chunk := by
    have hlength := congrArg List.length hbytes
    rw [List.length_append] at hlength
    rw [Reader.pumped, hlength, Nat.add_sub_cancel]
    conv_lhs => rw [hbytes]
    exact List.take_left
  rw [hchunk]
  exact hbytes.symm

omit [Scalar F] in
theorem Inv.read (h : Inv setup s) (receives : List Receive) : Inv setup (s.read receives) := by
  rw [Joining.read]
  split
  · exact h
  · have hbytes : s.heard ++ Reader.pumped s.stream s.unheard receives ++
        (s.stream.pump s.unheard receives).2.1 = s.heard ++ s.unheard := by
      rw [List.append_assoc, pumped_append]
    exact {
      hosted := h.hosted
      tidy := h.tidy
      short := h.short
      link := h.link
      silent := fun hout => ⟨hbytes.trans (h.silent hout).heard, (h.silent hout).taken,
        (h.silent hout).popped⟩
      reads := h.reads.pump _ _
      wire := by
        rw [hbytes]
        exact h.wire
      arrived := h.arrived
      takes := h.takes
      begun := h.begun
      waits := h.waits
      agrees := h.agrees }

/-- The server does something. -/
theorem Inv.serve (h : Inv setup s) {e : Event F}
    (harrived : ∀ c, s.link = some c →
      (sentOn c (s.server.step setup e).arrivals).Sublist s.handed) :
    Inv setup (s.serve setup e) := by
  have hhosted := h.hosted.step e
  have hgrows : s.offered <+: (s.serve setup e).offered := by
    have hsent : s.server.server.sent <+: (s.server.step setup e).server.sent := by
      rw [hhosted.accounted.sent, h.hosted.accounted.sent, List.filterMap_append]
      exact List.prefix_append _ _
    obtain ⟨later, hlater⟩ := hsent
    simp only [Joining.offered, Joining.serve]
    cases s.link with
    | none => exact List.prefix_refl _
    | some c =>
        dsimp only
        rw [← hlater, TcpRefinement.sentOn_append]
        exact List.prefix_append _ _
  obtain ⟨more, hmore⟩ := hgrows
  exact {
    hosted := hhosted
    tidy := h.tidy
    short := h.short
    link := fun c hc => ⟨(h.link c hc).1,
      Nat.lt_of_lt_of_le (h.link c hc).2 (mNextId_le_step setup s.server e)⟩
    silent := fun hout => ⟨(h.silent hout).heard, (h.silent hout).taken, (h.silent hout).popped⟩
    reads := h.reads
    wire := h.wire
    arrived := harrived
    takes := h.takes
    begun := by
      rw [← hmore, Connection.frames_append]
      exact h.begun.trans (List.prefix_append _ _)
    waits := h.waits
    agrees := fun hstate => by
      obtain ⟨c, hc, r, hr, hrest⟩ := h.agrees hstate
      exact ⟨c, hc, r, List.mem_append_left _ hr, hrest⟩ }

/-- What a message of somebody else leaves of it. -/
theorem Inv.foreign (h : Inv setup s) {e : Event F} (hforeign : s.Foreign e) :
    Inv setup (s.serve setup e) := by
  refine h.serve fun c hc => ?_
  rw [step_arrivals setup s.server e, TcpRefinement.sentOn_append]
  have hnone : sentOn c (recorded s.server e) = [] := by
    refine TcpRefinement.sentOn_eq_nil fun entry hentry => ?_
    cases e with
    | message id m =>
        rw [recorded] at hentry
        split at hentry
        · obtain rfl := List.mem_singleton.mp hentry
          rintro rfl
          exact hforeign hc
        · cases hentry
    | _ => cases hentry
  rw [hnone, List.append_nil]
  exact h.arrived c hc

theorem Inv.next (h : Inv setup s) : Inv setup (s.next setup) := by
  rw [Joining.next]
  split
  · rename_i c m stream hlink hnext
    have hpopped : Inv setup { s with stream := stream, handed := s.handed ++ [m] } := {
      hosted := h.hosted
      tidy := h.tidy
      short := h.short
      link := h.link
      silent := fun hout => ⟨(h.silent hout).heard, (h.silent hout).taken, (h.silent hout).popped⟩
      reads := h.reads.next hnext
      wire := h.wire
      arrived := fun k hk => (h.arrived k hk).trans (List.sublist_append_left _ _)
      takes := h.takes
      begun := h.begun
      waits := h.waits
      agrees := h.agrees }
    refine hpopped.serve (e := .message c m) fun k hk => ?_
    obtain rfl := Option.some.inj (hlink.symm.trans hk)
    dsimp only
    rw [step_arrivals setup s.server, TcpRefinement.sentOn_append]
    refine (h.arrived c hlink).append ?_
    rw [recorded]
    split
    · simp [sentOn]
    · exact List.nil_sublist _
  · exact h

theorem Inv.accept (h : Inv setup s) : Inv setup (s.accept setup) := by
  rw [Joining.accept]
  split
  · rename_i hopen
    have hserved : Inv setup (s.serve setup .accept) := h.foreign (e := .accept) trivial
    have hnew : ∀ {messages : List (Nat × Message)},
        (∀ entry ∈ messages, entry.1 < s.server.server.mNextId) →
          sentOn s.server.server.mNextId messages = [] := fun hold =>
      TcpRefinement.sentOn_eq_nil fun entry hentry => (hold entry hentry).ne
    have htaken : s.taken = [] := by
      have hbegun := h.begun
      rw [Joining.offered, hopen.1] at hbegun
      exact List.prefix_nil.mp hbegun
    exact {
      hosted := hserved.hosted
      tidy := h.tidy
      short := h.short
      link := fun c hc => by
        obtain rfl := Option.some.inj hc
        exact ⟨hopen.2, Nat.lt_succ_self _⟩
      silent := fun hout => ⟨(h.silent hout).heard, (h.silent hout).taken, (h.silent hout).popped⟩
      reads := h.reads
      wire := h.wire
      arrived := fun c hc => by
        obtain rfl := Option.some.inj hc
        have hnone : sentOn s.server.server.mNextId
            (s.server.step setup .accept).arrivals = [] := hnew h.hosted.arrived
        exact hnone ▸ List.nil_sublist _
      takes := h.takes
      begun := by
        dsimp only [Joining.serve]
        rw [htaken]
        exact List.nil_prefix
      waits := h.waits
      agrees := fun hstate => by
        obtain ⟨c, hc, -⟩ := h.agrees hstate
        rw [hopen.1] at hc
        cases hc }
  · exact h

omit [Scalar F] in
/-- What the client reads next. -/
theorem Inv.popped (h : Inv setup s) {stream : MessageStream}
    (hstream : s.client.mWorld = some stream) (receives : List Receive) :
    let pumped := (stream.pump s.incoming receives).1
    let taken := s.taken ++ Reader.pumped stream s.incoming receives
    taken <+: frames s.offered ∧ Reads pumped.drain.2 taken (s.popped ++ pumped.drain.1) ∧
      s.popped ++ pumped.drain.1 <+: s.offered := by
  intro pumped taken
  have hbegun : taken <+: frames s.offered := by
    obtain ⟨rest, hrest⟩ := h.begun
    have hincoming : s.incoming = rest := by rw [Joining.incoming, ← hrest, List.drop_left]
    refine ⟨(stream.pump s.incoming receives).2.1, ?_⟩
    rw [List.append_assoc, pumped_append, hincoming, hrest]
  have hreads := Chunks.reads_drainUpTo ((h.takes stream hstream).pump s.incoming receives)
    pumped.mReadBuffer.length
  exact ⟨hbegun, hreads, handed_prefix hreads h.sendable hbegun⟩

theorem connecting_of_standing {c c' : NetClient} (h : standing c' = standing c) :
    Connecting c' ↔ Connecting c := by
  simp only [standing, Prod.mk.injEq] at h
  rw [Connecting, Connecting, h.2.1, h.2.2.1]

section Polls

omit [Scalar F]

/-- What it has not been told before: nothing, or the verdict, which it waits for. -/
theorem Inv.told (h : Inv setup s) (hjoined : Session.Joined s.client) {messages : List Message}
    (hfront : s.popped ++ messages <+: s.offered) :
    messages = [] ∨ s.client.mState = .awaitingJoin ∧ s.popped = [] ∧ ∃ c, s.link = some c ∧
      Verdict setup.udpPort s.log c s.client.mToken messages := by
  rcases h.offered with hnone | ⟨c, hc, hverdict⟩
  · rw [hnone, List.prefix_nil, List.append_eq_nil_iff] at hfront
    exact Or.inl hfront.2
  · have hone := hverdict.length_le
    have hlength := hfront.length_le
    rw [List.length_append] at hlength
    rcases hjoined with hstate | hstate
    · have hpopped := h.waits hstate
      rw [hpopped, List.nil_append] at hfront
      cases hmessages : messages with
      | nil => exact Or.inl rfl
      | cons m rest =>
          rw [hmessages] at hfront hlength
          rw [List.length_cons] at hlength
          rw [← hfront.eq_of_length (by simp only [List.length_cons]; omega)] at hverdict
          exact Or.inr ⟨hstate, hpopped, c, hc, hverdict⟩
    · obtain ⟨_, _, _, _, _, _, _, _, _, _, _, hpopped⟩ := h.agrees hstate
      rw [hpopped, List.length_singleton] at hlength
      exact Or.inl (List.eq_nil_of_length_eq_zero (by omega))

/-- A client with a world connection reads on. -/
theorem Inv.pollJoined (h : Inv setup s) {stream : MessageStream}
    (hstream : s.client.mWorld = some stream) (now : ℚ) (os : Os) :
    Inv setup (s.poll now os) := by
  have hjoined : Session.Joined s.client := by
    rw [← (world_of_tidy h.tidy).1, hstream]
    rfl
  let reading : Os := { os with arriving := s.incoming }
  have htidy := Session.tidy_poll h.tidy now reading
  have htoken := poll_mToken hjoined now reading
  have hpoll := poll_joined hjoined hstream now reading
  obtain ⟨hbegun, hreads, hfront⟩ := h.popped hstream os.receives
  have htold := h.told hjoined hfront
  rw [Joining.poll, hstream]
  change Inv setup (Joining.follow _ (s.client.poll now reading))
  dsimp only [reading] at hpoll
  generalize s.client.poll now reading = client at htidy htoken hpoll ⊢
  generalize (stream.pump s.incoming os.receives).1.drain = drained at *
  obtain ⟨messages, rest⟩ := drained
  dsimp only at *
  have hgivesUp : Hung client → Inv setup (Joining.follow _ client) := fun hhung =>
    inv_left (s := { s with
      taken := s.taken ++ Reader.pumped stream s.incoming os.receives
      popped := s.popped ++ messages }) h.hosted htidy (htoken ▸ h.short) hhung.2
  have hfollows : ∀ {d : NetClient}, Hung d → standing client = standing d → Hung client := by
    intro d hhung hsame
    exact ⟨(congrArg (·.1) hsame).trans hhung.1,
      fun hconnecting => hhung.2 ((connecting_of_standing hsame).mp hconnecting)⟩
  rcases hpoll with hhung | hstanding
  · exact hgivesUp hhung
  rcases htold with rfl | ⟨hwaits, hpopped, c, hc, hverdict⟩
  · -- nothing new
    simp only [NetClient.handleWorld, standing, Prod.mk.injEq] at hstanding
    obtain ⟨hstate, hworld, -, -, hplayerId, hentityId, husername⟩ := hstanding
    rw [List.append_nil] at hreads ⊢
    have hjoined' : Session.Joined client := by rwa [Session.Joined, hstate]
    refine h.joined htidy hjoined' htoken hbegun (fun later hlater => ?_)
      (fun hwaits => h.waits (hstate ▸ hwaits)) (fun hworld' => ?_)
    · rw [hworld] at hlater
      obtain rfl := Option.some.inj hlater
      exact hreads
    · rw [Agrees, htoken, hplayerId, hentityId, husername]
      exact h.agrees (hstate ▸ hworld')
  · cases hverdict with
    | silent =>
        simp only [NetClient.handleWorld, standing, Prod.mk.injEq] at hstanding
        obtain ⟨hstate, hworld, -⟩ := hstanding
        rw [List.append_nil] at hreads ⊢
        rw [hwaits] at hstate
        refine h.joined htidy (Or.inl hstate) htoken hbegun (fun later hlater => ?_)
          (fun _ => hpopped) (fun hworld' => by rw [hstate] at hworld'; cases hworld')
        rw [hworld] at hlater
        obtain rfl := Option.some.inj hlater
        exact hreads
    | refused result hresult =>
        exact hgivesUp (hfollows (handleWorld_refusal _ now os.udpOpens hresult) hstanding)
    | admitted r a hr hid ha hatoken =>
        rcases handleWorld_admission { s.client with
            mLastPollTime := now
            mWorld := some rest } now os.udpOpens a.playerId setup.udpPort a.username a.entityId
          with hhung | hadmitted
        · exact hgivesUp (hfollows hhung hstanding)
        · have hsame := hstanding.trans hadmitted
          simp only [standing, Prod.mk.injEq] at hsame
          obtain ⟨hstate, hworld, -, -, hplayerId, hentityId, husername⟩ := hsame
          refine h.joined htidy (Or.inr hstate) htoken hbegun (fun later hlater => ?_)
            (fun hwaits' => by rw [hstate] at hwaits'; cases hwaits') (fun _ => ?_)
          · rw [hworld] at hlater
            obtain rfl := Option.some.inj hlater
            exact hreads
          · refine ⟨c, hc, r, hr, hid, a, ha, hatoken.trans htoken.symm, hplayerId.symm,
              hentityId.symm, husername.symm, ?_⟩
            rw [hpopped, List.nil_append]

/-- The client writes its join request. -/
theorem Inv.joins (h : Inv setup s) (hstate : s.client.mState = .connectingWorld) {now : ℚ}
    {os : Os} (hawaits : (s.client.poll now os).mState = .awaitingJoin)
    (htoken : (s.client.poll now os).mToken = s.client.mToken)
    (hstream : (s.client.poll now os).mWorld = some (MessageStream.fresh.send
      (joinMessage s.client.mToken) [] os.sends).1) :
    Inv setup ({ s with unheard := s.unheard ++ written s.client os }.follow
      (s.client.poll now os)) := by
  have hout : ¬ Session.Joined s.client := by simp [Session.Joined, hstate]
  obtain ⟨hheard, htaken, hpopped⟩ := h.silent hout
  have htidy := Session.tidy_poll h.tidy now os
  have hconnecting : Connecting (s.client.poll now os) :=
    (connecting_iff htidy).mpr (Or.inr (Or.inl hawaits))
  have hwritten : written s.client os <+: frames [joinMessage s.client.mToken] := by
    rw [written]
    split
    · refine ⟨(MessageStream.fresh.send (joinMessage s.client.mToken) [] os.sends).1.unsent, ?_⟩
      rw [(MessageStream.send_conserves _ _ _ _ (Nat.le_refl _)).1, Connection.frames_cons,
        Connection.frames_nil, List.append_nil]
      rfl
    · exact List.nil_prefix
  rw [Joining.follow, if_pos hconnecting]
  exact {
    hosted := h.hosted
    tidy := htidy
    short := by
      rw [htoken]
      exact h.short
    link := fun c hc => ⟨hconnecting, (h.link c hc).2⟩
    silent := fun hout => absurd (Or.inl hawaits) hout
    reads := h.reads
    wire := by
      dsimp only
      rw [htoken, ← List.append_assoc, hheard, List.nil_append]
      exact hwritten
    arrived := h.arrived
    takes := fun stream hlater => by
      obtain rfl := Option.some.inj (hstream.symm.trans hlater)
      dsimp only
      rw [htaken, hpopped]
      exact Reader.reads_fresh.of_buffer (Reader.send_mReadBuffer _ _ _ _)
    begun := h.begun
    waits := fun _ => hpopped
    agrees := fun hworld => by
      rw [hawaits] at hworld
      cases hworld }

theorem Inv.poll (h : Inv setup s) (now : ℚ) (os : Os) : Inv setup (s.poll now os) := by
  cases hworld : s.client.mWorld with
  | some stream => exact h.pollJoined hworld now os
  | none =>
      have hout : ¬ Session.Joined s.client := by
        rw [← (world_of_tidy h.tidy).1, hworld]
        exact Bool.false_ne_true
      have hsilent := h.silent hout
      have htidy := Session.tidy_poll h.tidy now os
      rw [Joining.poll, hworld]
      dsimp only
      by_cases hstate : s.client.mState = .connectingWorld
      · obtain ⟨htoken, hhung | ⟨hwaits, hwritten⟩ | ⟨hawaits, hstream⟩⟩ :=
          poll_connecting hstate now os
        · exact inv_left (s := { s with unheard := s.unheard ++ written s.client os }) h.hosted
            htidy (htoken ▸ h.short) hhung.2
        · rw [hwritten, List.append_nil]
          exact h.outside hsilent htidy (htoken ▸ h.short) (by simp [Session.Joined, hwaits])
        · exact h.joins hstate hawaits htoken hstream
      · obtain ⟨hshort, hout'⟩ := poll_login h.short hstate hout now os
        have hwritten : written s.client os = [] := if_neg fun hw => hstate hw.1
        rw [hwritten, List.append_nil]
        exact h.outside hsilent htidy hshort hout'

end Polls

theorem Inv.step (h : Inv setup s) (act : Act F) : Inv setup (s.step setup act) := by
  cases act with
  | login host username password os => exact h.login host username password os
  | logout => exact h.logout
  | poll now os => exact h.poll now os
  | sendInput input dropped => exact h.sendInput input dropped
  | accept => exact h.accept
  | read receives => exact h.read receives
  | next => exact h.next
  | work e =>
      rw [Joining.step]
      split
      · rename_i hforeign
        exact h.foreign hforeign
      · exact h

end Turns

section Runs

variable {F : Type*} [Scalar F] (setup : Setup F)

theorem inv_init (mFakeLatency mFakeLoss : ℚ) (now : Sim.ClockReading F) :
    Inv setup (Joining.init setup mFakeLatency mFakeLoss now) where
  hosted := hosted_init setup now
  tidy := rfl
  short := short_nil
  link c hc := by cases hc
  silent _ := ⟨rfl, rfl, rfl⟩
  reads := Reader.reads_fresh
  wire := List.nil_prefix
  arrived c hc := by cases hc
  takes stream hstream := by cases hstream
  begun := List.nil_prefix
  waits _ := rfl
  agrees hstate := by cases hstate

theorem inv_run (mFakeLatency mFakeLoss : ℚ) (now : Sim.ClockReading F)
    (acts : List (Act F)) : Inv setup (run setup mFakeLatency mFakeLoss now acts) :=
  Lib.Runs.run_preserves (fun _ act h => h.step act) (inv_init setup mFakeLatency mFakeLoss now)
    acts

variable {setup} {s : Joining F} {c : Nat}

omit [Scalar F] in
/-- There is one entry for the client's connection, if any. -/
theorem Inv.only (h : Inv setup s) (hc : s.link = some c) {r r' : Response} (hr : r ∈ s.log)
    (hid : r.id = c) (hr' : r' ∈ s.log) (hid' : r'.id = c) : r' = r := by
  have hlength := entriesOn_length h.hosted.accounted (h.sublist hc).length_le
  have hmem : ∀ entry ∈ s.log, entry.id = c → entry ∈ entriesOn c s.log := by
    intro entry hentry hsame
    simpa [entriesOn] using ⟨hentry, hsame⟩
  have hfirst := hmem r hr hid
  have hsecond := hmem r' hr' hid'
  obtain ⟨entry, hentries⟩ :=
    List.length_eq_one_iff.mp (Nat.le_antisymm hlength (List.length_pos_of_mem hfirst))
  rw [hentries, List.mem_singleton] at hfirst hsecond
  rw [hfirst, hsecond]

omit [Scalar F] in
/-- The player on the connection is the one that was admitted there. -/
theorem Inv.own (h : Inv setup s) (hc : s.link = some c) {r : Response} (hr : r ∈ s.log)
    (hid : r.id = c) {a : Admission} (ha : r.admission = some a) {player : Player F}
    (hplayer : s.server.playersByConnection[c]? = some player) :
    player.playerId = a.playerId ∧ player.token = a.token := by
  obtain ⟨r', hr', hid', a', ha', hplayerId, htoken⟩ := h.hosted.announced c player hplayer
  rw [h.only hc hr hid hr' hid'] at ha'
  obtain rfl := Option.some.inj (ha.symm.trans ha')
  exact ⟨hplayerId.symm, htoken.symm⟩

variable (setup)

/-- In every run, a client that is in the world was admitted on its connection, with its token, and
under the player id, the entity id and the name that it believes to have. Nothing else was said
there, and as long as the server has a player on the connection and a character for it, they are
these. -/
theorem in_world_agreed (mFakeLatency mFakeLoss : ℚ) (now : Sim.ClockReading F)
    (acts : List (Act F)) :
    let s := run setup mFakeLatency mFakeLoss now acts
    s.client.mState = .inWorld →
      ∃ c, s.link = some c ∧ ∃ r ∈ s.log, r.id = c ∧ (∀ r' ∈ s.log, r'.id = c → r' = r) ∧
        ∃ a, r.admission = some a ∧ a.token = s.client.mToken ∧
          UInt64.ofNat a.playerId = s.client.mPlayerId ∧ capped a.username = s.client.mUsername ∧
          (∀ player, s.server.playersByConnection[c]? = some player →
            player.playerId = a.playerId ∧ player.token = s.client.mToken) ∧
          ∀ body, s.server.simulation.mPlayers[a.playerId]? = some body →
            body.entityId = s.client.mOwnEntityId := by
  intro s hworld
  have hinv : Inv setup s := inv_run setup mFakeLatency mFakeLoss now acts
  obtain ⟨c, hc, r, hr, hid, a, ha, htoken, hplayerId, hentityId, husername, -⟩ :=
    hinv.agrees hworld
  refine ⟨c, hc, r, hr, hid, fun r' hr' hid' => hinv.only hc hr hid hr' hid', a, ha, htoken,
    hplayerId, husername, ?_, ?_⟩
  · intro player hplayer
    obtain ⟨hsame, hsame'⟩ := hinv.own hc hr hid ha hplayer
    exact ⟨hsame, hsame'.trans htoken⟩
  · intro body hbody
    rw [(hinv.hosted.embodied r hr a ha).2 body hbody, hentityId]

/-- The hello of a client that is in the world binds the address that it comes from to the client's
own player, if the server still has it and no id has wrapped around. What the client then says from
that address moves its own character, if it has the address to itself. -/
theorem hello_binds_own (mFakeLatency mFakeLoss : ℚ) (now : Sim.ClockReading F)
    (acts : List (Act F)) (c : Nat) (player : Player F) (source : Address) (at_ : Clocks F)
    (input : InputBits)
    (hworld : (run setup mFakeLatency mFakeLoss now acts).client.mState = .inWorld)
    (hlink : (run setup mFakeLatency mFakeLoss now acts).link = some c)
    (hplayer : (run setup mFakeLatency mFakeLoss now acts).server.playersByConnection[c]? =
      some player)
    (hids : (run setup mFakeLatency mFakeLoss now acts).server.nextPlayerId ≤ 2 ^ 64) :
    let s := run setup mFakeLatency mFakeLoss now acts
    let hello := NetClient.helloPacket s.client.mPlayerId s.client.mToken
    let w := s.server.step setup (.datagram hello source at_)
    w.playersByConnection =
        s.server.playersByConnection.insert c (Endpoints.bindTo player source at_) ∧
      ((∀ (c' : Nat) (other : Player F), s.server.playersByConnection[c']? = some other →
          other.udpBound = true → other.udpAddress = source → c' = c) →
        Endpoints.submitted setup w (NetClient.inputPacket s.client.mPlayerId input) source =
          some (player.playerId, playerInput setup ⟨s.client.mPlayerId, input.sequence,
            input.moveForward, input.moveRight, input.yaw,
            NetClient.buttons input.jump input.sprint⟩)) := by
  intro s hello w
  change s.server.playersByConnection[c]? = some player at hplayer
  have hinv : Inv setup s := inv_run setup mFakeLatency mFakeLoss now acts
  obtain ⟨c', hc', r, hr, hid, a, ha, htoken, hplayerId, -⟩ := hinv.agrees hworld
  obtain rfl := Option.some.inj (hlink.symm.trans hc')
  obtain ⟨hsame, hsame'⟩ := hinv.own hlink hr hid ha hplayer
  have hfiled := hinv.hosted.filed.filed c player hplayer
  have hnumber : s.client.mPlayerId.toNat = player.playerId := by
    rw [← hplayerId, ← hsame]
    exact UInt64.toNat_ofNat_of_lt'
      (Nat.lt_of_lt_of_le (hinv.hosted.filed.old _ _ hfiled) hids)
  have hplayers : w.playersByConnection =
      s.server.playersByConnection.insert c (Endpoints.bindTo player source at_) := by
    obtain ⟨hheader, hbody⟩ := Codecs.reads_helloPacket s.client.mPlayerId hinv.short
    have htype : WorldMessage.ofU16 WorldMessage.clientHello.toU16 = some .clientHello := by decide
    have hequal : constantTimeEquals player.token s.client.mToken = true :=
      (Endpoints.constantTimeEquals_iff _ _).mpr (hsame'.trans htoken)
    have hconnection : s.server.connectionByPlayer[s.client.mPlayerId.toNat]? = some c := by
      rw [hnumber]
      exact hfiled
    simp only [w, hello, WorldServer.step, onDatagram, hheader, htype, if_pos, onClientHello, hbody,
      Bool.false_eq_true, if_false, hconnection, hplayer, hequal, Bool.not_true]
    rfl
  refine ⟨hplayers, fun honly => ?_⟩
  have hbound : w.playersByConnection[c]? = some (Endpoints.bindTo player source at_) := by
    rw [hplayers, ExtTreeMap.getElem?_insert_self]
  have hfound : w.findPlayerByUdp source = some (c, Endpoints.bindTo player source at_) := by
    refine UdpAddresses.findPlayerByUdp_of_only hbound rfl
      fun c' other hother hotherBound haddress => ?_
    rw [hplayers, ExtTreeMap.getElem?_insert] at hother
    split at hother
    · rename_i hc
      exact (Nat.compare_eq_eq.mp hc).symm
    · exact honly c' other hother hotherBound haddress
  obtain ⟨hheader, hbody⟩ := Codecs.reads_inputPacket s.client.mPlayerId input
  have htype : WorldMessage.ofU16 WorldMessage.clientInput.toU16 = some .clientInput := by decide
  refine (Endpoints.submitted_eq_some setup).mpr ⟨c, _, _, hfound, ?_, hnumber, rfl, rfl⟩
  rw [Endpoints.decodeClientInput_of_header hheader, if_pos htype, hbody]
  rfl

/-- A client logs in and asks to join, and a session is found for its token. -/
def joining : List (Act ℚ) :=
  let connected : Os := { Os.quiet with
    writable := true
    connectResult := true
    sends := [.accepts 64] }
  let session := Connection.frames
    [⟨AuthMessage.loginResponse.toU16, AuthServer.loginResponse .success [5] [119] 7002 1 0⟩]
  [.login "auth" [97] [112] { Os.quiet with resolve := some ⟨1, 7001⟩, connect := true },
    .poll 0 connected,
    .poll 1 { Os.quiet with
      arriving := session
      receives := [.ready 64]
      resolve := some ⟨2, 7002⟩
      connect := true },
    .poll 2 connected, .accept, .read [.ready 64], .next,
    .work (.reply 1 (.sessionLookup true ⟨1, [97], 0⟩) .noon),
    .poll 3 { Os.quiet with receives := [.ready 64], udpOpens := [(true, some ⟨2, 7003⟩)] }]

theorem in_world_agreed_joining :
    let s := run .level 0 0 Clocks.noon.clock joining
    s.client.mState = .inWorld ∧ s.link = some 1 ∧ s.client.mPlayerId = 1 ∧
      s.client.mOwnEntityId = 1000 ∧ ∃ c, s.link = some c ∧ ∃ r ∈ s.log, r.id = c := by
  intro s
  have hworld : s.client.mState = .inWorld := by decide +kernel
  obtain ⟨c, hc, r, hr, hid, -⟩ := in_world_agreed .level 0 0 Clocks.noon.clock joining hworld
  exact ⟨hworld, by decide +kernel, by decide +kernel, by decide +kernel, c, hc, r, hr, hid⟩

theorem hello_binds_own_joining :
    let s := run .level 0 0 Clocks.noon.clock joining
    let hello := NetClient.helloPacket s.client.mPlayerId s.client.mToken
    ∃ player, (s.server.step .level (.datagram hello ⟨9, 4000⟩ .noon)).playersByConnection =
      s.server.playersByConnection.insert 1 (Endpoints.bindTo player ⟨9, 4000⟩ .noon) := by
  intro s hello
  have hthere : (s.server.playersByConnection[1]?).isSome = true := by decide +kernel
  obtain ⟨player, hplayer⟩ := Option.isSome_iff_exists.mp hthere
  exact ⟨player, (hello_binds_own .level 0 0 Clocks.noon.clock joining 1 player ⟨9, 4000⟩ .noon
    ⟨0, 0, 0, 0, false, false⟩ (by decide +kernel) (by decide +kernel) hplayer
    (by decide +kernel)).1⟩

end Runs

end UntitledGame.Server.Handshake
