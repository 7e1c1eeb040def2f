import UntitledGame.Server.UdpBinding

/-!
# One player to an address

A binding is kept with the player, and the player of a datagram is looked up by its
source. The lookup is right as long as no two players are bound to one address, which
nothing checks: a hello binds its player whoever is bound to the source already.

`identifies_iff` says that this is all that can go wrong.
-/

namespace UntitledGame.Server.UdpAddresses

open Net Sim WorldServer Endpoints
open Client (Address)
open Std (ExtTreeMap)

variable {F : Type*}

/-- No two players are bound to one address. -/
def Distinct (w : WorldServer F) : Prop :=
  ∀ (c d : Nat) (player other : Player F), w.playersByConnection[c]? = some player →
    w.playersByConnection[d]? = some other → player.udpBound = true → other.udpBound = true →
    player.udpAddress = other.udpAddress → c = d

/-- A hello is accepted only from an address that nobody else is bound to. -/
def Unshared (w : WorldServer F) (e : Event F) : Prop :=
  ∀ b ∈ accepted w e, ∀ (c : Nat) (player : Player F), w.playersByConnection[c]? = some player →
    player.udpBound = true → player.udpAddress = b.source → c = b.connection

variable [Scalar F] (setup : Setup F) (now : ClockReading F)

/-- The player was bound to the address by a hello, and no later one from there was accepted. -/
def LastBound (events : List (Event F)) (p : Nat) (address : Address) : Prop :=
  ∃ (before : List (Event F)) (e : Event F) (b : Accepted F), before ++ [e] <+: events ∧
    accepted (run setup now before) e = some b ∧ b.source = address ∧ b.player.playerId = p ∧
    ∀ (later : List (Event F)) (e' : Event F), later ++ [e'] <+: events →
      before.length < later.length → ∀ b' ∈ accepted (run setup now later) e', b'.source ≠ address

/-- An address identifies its player. -/
structure Identifies (events : List (Event F)) : Prop where
  distinct : Distinct (run setup now events)
  lookup : ∀ (c : Nat) (player : Player F),
    (run setup now events).playersByConnection[c]? = some player → player.udpBound = true →
    (run setup now events).findPlayerByUdp player.udpAddress = some (c, player) ∧
      LastBound setup now events player.playerId player.udpAddress
  input : ∀ (c : Nat) (player : Player F) (data : Bytes) (body : ClientInput) (at_ : Clocks F),
    (run setup now events).playersByConnection[c]? = some player → player.udpBound = true →
    decodeClientInput (data.take kDatagramSize) = some body →
    body.claimedId.toNat = player.playerId →
    let w := run setup now events
    let w' := step setup w (.datagram data player.udpAddress at_)
    if 0 < w.simulatedLatencyMs then
      w'.delayedInputs = w.delayedInputs ++
        [⟨at_.steadySeconds + w.latencySeconds, player.playerId, playerInput setup body⟩]
    else w'.simulation = w.simulation.setInput player.playerId (playerInput setup body)

section Lookup

variable {w : WorldServer F}

omit [Scalar F] in
/-- The lookup gives the only player that is bound to the address. -/
theorem findPlayerByUdp_of_only {c : Nat} {player : Player F}
    (hplayer : w.playersByConnection[c]? = some player) (hbound : player.udpBound = true)
    (honly : ∀ (d : Nat) (other : Player F), w.playersByConnection[d]? = some other →
      other.udpBound = true → other.udpAddress = player.udpAddress → d = c) :
    w.findPlayerByUdp player.udpAddress = some (c, player) := by
  cases hfound : w.findPlayerByUdp player.udpAddress with
  | none =>
      have hmem : (c, player) ∈ w.playersByConnection.toList :=
        ExtTreeMap.mem_toList_iff_getElem?_eq_some.mpr hplayer
      have hnone := List.find?_eq_none.mp hfound (c, player) hmem
      simp [hbound] at hnone
  | some found =>
      obtain ⟨d, other⟩ := found
      obtain ⟨hother, hbound', haddress⟩ := findPlayerByUdp_mem w hfound
      obtain rfl := honly d other hother hbound' haddress
      rw [hplayer] at hother
      rw [Option.some.inj hother]

omit [Scalar F] in
theorem Distinct.findPlayerByUdp (h : Distinct w) {c : Nat} {player : Player F}
    (hplayer : w.playersByConnection[c]? = some player) (hbound : player.udpBound = true) :
    w.findPlayerByUdp player.udpAddress = some (c, player) :=
  findPlayerByUdp_of_only hplayer hbound fun d other hother hbound' haddress =>
    h d c other player hother hplayer hbound' hbound haddress

end Lookup

section Histories

variable {setup now}

/-- An event that is not a hello from the address. -/
theorem LastBound.concat {pre : List (Event F)} {e : Event F} {p : Nat} {address : Address}
    (h : LastBound setup now pre p address)
    (hother : ∀ b ∈ accepted (run setup now pre) e, b.source ≠ address) :
    LastBound setup now (pre ++ [e]) p address := by
  obtain ⟨before, d, b, hbefore, haccepted, hsource, hp, hlast⟩ := h
  refine ⟨before, d, b, hbefore.trans (List.prefix_append pre [e]), haccepted, hsource, hp, ?_⟩
  intro later e' hlater hlength
  cases List.prefix_concat_iff.mp hlater with
  | inl hwhole =>
      obtain ⟨rfl, hlastEvent⟩ := List.append_inj' hwhole rfl
      obtain rfl := List.singleton_inj.mp hlastEvent
      exact hother
  | inr hpre => exact hlast later e' hpre hlength

/-- The hello itself. -/
theorem lastBound_accepted {pre : List (Event F)} {e : Event F} {b : Accepted F}
    (h : accepted (run setup now pre) e = some b) :
    LastBound setup now (pre ++ [e]) b.player.playerId b.source := by
  refine ⟨pre, e, b, List.prefix_refl _, h, rfl, rfl, fun later e' hlater hlength => ?_⟩
  have hle := hlater.length_le
  simp only [List.length_append, List.length_singleton] at hle
  omega

/-- No address is shared, and everybody is the last one that was bound to their address. -/
structure Inv (setup : Setup F) (now : ClockReading F) (events : List (Event F)) : Prop where
  distinct : Distinct (run setup now events)
  last : ∀ (c : Nat) (player : Player F),
    (run setup now events).playersByConnection[c]? = some player → player.udpBound = true →
    LastBound setup now events player.playerId player.udpAddress

/-- A player that is bound after a step was bound to the address before it, or is bound by it. -/
theorem step_bound {w : WorldServer F} {e : Event F} {c : Nat} {after : Player F}
    (h : (step setup w e).playersByConnection[c]? = some after) (hbound : after.udpBound = true) :
    (∃ before, w.playersByConnection[c]? = some before ∧ before.udpBound = true ∧
        before.udpAddress = after.udpAddress ∧ before.playerId = after.playerId) ∨
      ∃ b, accepted w e = some b ∧ b.connection = c ∧ b.source = after.udpAddress ∧
        b.player.playerId = after.playerId := by
  cases step_origin setup w e h with
  | carried before hbefore hsame =>
      simp only [endpoint, Prod.mk.injEq] at hsame
      obtain ⟨hid, -, hbound', haddress⟩ := hsame
      exact Or.inl ⟨before, hbefore, hbound' ▸ hbound, haddress.symm, hid.symm⟩
  | fresh hjoining hid hunbound hnext =>
      rw [hunbound] at hbound
      cases hbound
  | bound b haccepted hconnection hbefore hsame =>
      simp only [endpoint, Prod.mk.injEq] at hsame
      obtain ⟨hid, -, -, haddress⟩ := hsame
      exact Or.inr ⟨b, haccepted, hconnection, haddress.symm, hid.symm⟩

theorem Inv.concat {pre : List (Event F)} {e : Event F} (h : Inv setup now pre)
    (hunshared : Unshared (run setup now pre) e) : Inv setup now (pre ++ [e]) where
  distinct c d player other hplayer hother hbound hbound' haddress := by
    rw [UdpBinding.run_concat] at hplayer hother
    cases step_bound hplayer hbound with
    | inl hcarried =>
        obtain ⟨before, hbefore, hbefores, hsame, -⟩ := hcarried
        cases step_bound hother hbound' with
        | inl hcarried' =>
            obtain ⟨before', hbefore', hbefores', hsame', -⟩ := hcarried'
            exact h.distinct c d before before' hbefore hbefore' hbefores hbefores'
              (hsame.trans (haddress.trans hsame'.symm))
        | inr hnew' =>
            obtain ⟨b, haccepted, rfl, hsource, -⟩ := hnew'
            exact hunshared b haccepted c before hbefore hbefores
              (hsame.trans (haddress.trans hsource.symm))
    | inr hnew =>
        obtain ⟨b, haccepted, rfl, hsource, -⟩ := hnew
        cases step_bound hother hbound' with
        | inl hcarried' =>
            obtain ⟨before', hbefore', hbefores', hsame', -⟩ := hcarried'
            exact (hunshared b haccepted d before' hbefore' hbefores'
              (hsame'.trans (haddress.symm.trans hsource.symm))).symm
        | inr hnew' =>
            obtain ⟨b', haccepted', rfl, -, -⟩ := hnew'
            rw [haccepted] at haccepted'
            rw [Option.some.inj haccepted']
  last c player hplayer hbound := by
    rw [UdpBinding.run_concat] at hplayer
    cases step_bound hplayer hbound with
    | inl hcarried =>
        obtain ⟨before, hbefore, hbefores, hsame, hid⟩ := hcarried
        have hlast := h.last c before hbefore hbefores
        rw [hsame, hid] at hlast
        by_cases hother : ∀ b ∈ accepted (run setup now pre) e, b.source ≠ player.udpAddress
        · exact hlast.concat hother
        · -- a hello from its own address: it is the player's
          simp only [not_forall, not_not] at hother
          obtain ⟨b, haccepted, hsource⟩ := hother
          obtain rfl := hunshared b haccepted c before hbefore hbefores (hsame.trans hsource.symm)
          obtain ⟨data, at_, rfl⟩ := accepted_datagram haccepted
          obtain ⟨-, -, hb, -, -⟩ := accepted_eq_some haccepted
          rw [hb] at hbefore
          rw [← hid, ← Option.some.inj hbefore, ← hsource]
          exact lastBound_accepted haccepted
    | inr hnew =>
        obtain ⟨b, haccepted, hconnection, hsource, hid⟩ := hnew
        rw [← hid, ← hsource]
        exact lastBound_accepted haccepted

/-- A hello from an address that another player is bound to leaves two players bound to it. -/
theorem unshared_of_distinct {pre : List (Event F)} {e : Event F}
    (h : Distinct (run setup now (pre ++ [e]))) : Unshared (run setup now pre) e := by
  intro b haccepted c player hplayer hbound haddress
  obtain ⟨at_, hstep⟩ := step_accepted setup _ e haccepted
  rw [UdpBinding.run_concat, hstep] at h
  by_contra hc
  apply hc
  apply h c b.connection player (bindTo b.player b.source at_) ?_ ?_ hbound rfl haddress
  · rw [ExtTreeMap.getElem?_insert, if_neg, hplayer]
    simpa using Ne.symm hc
  · rw [ExtTreeMap.getElem?_insert_self]

theorem Inv.identifies {events : List (Event F)} (h : Inv setup now events) :
    Identifies setup now events where
  distinct := h.distinct
  lookup c player hplayer hbound :=
    ⟨h.distinct.findPlayerByUdp hplayer hbound, h.last c player hplayer hbound⟩
  input c player data body at_ hplayer hbound hbody hnamed := by
    apply step_submitted setup _
    apply (submitted_eq_some setup).mpr
    exact ⟨c, player, body, h.distinct.findPlayerByUdp hplayer hbound, hbody, hnamed, rfl, rfl⟩

end Histories

/-- In every run, an address identifies its player in every state if and only if every hello that is
accepted comes from an address that no other player is bound to. -/
theorem identifies_iff (events : List (Event F)) :
    (∀ pre, pre <+: events → Identifies setup now pre) ↔
      Lib.Runs.Along (step setup) Unshared (init setup now) events := by
  have hinit : Inv setup now [] := by
    constructor
    · intro c d player other hplayer
      simp [run, init] at hplayer
    · intro c player hplayer
      simp [run, init] at hplayer
  have hhistories := Lib.Runs.histories_iff_along hinit
    (fun pre e h hunshared => Inv.concat h hunshared)
    (fun pre e _ (hafter : Identifies setup now (pre ++ [e])) => unshared_of_distinct hafter.distinct)
    (fun pre h => Inv.identifies h) events
  exact hhistories

section Runs

/-- Two players on two connections, and a hello of each from one address. -/
def sharedAddress : List (Event ℚ) :=
  [.accept, .accept, .message 1 (joinMessage [1]), .message 2 (joinMessage [2]),
    .reply 1 (.sessionLookup true ⟨1, [97], 0⟩) .noon,
    .reply 2 (.sessionLookup true ⟨2, [98], 0⟩) .noon,
    .datagram (Client.NetClient.helloPacket 1 [1]) ⟨1, 7⟩ .noon,
    .datagram (Client.NetClient.helloPacket 2 [2]) ⟨1, 7⟩ .noon]

/-- The lookup gives the first player, whose hello was the first, and the input of the other is
turned down. -/
theorem shared_address_confused :
    ¬ Identifies .level Clocks.noon.clock sharedAddress ∧
      submitted .level (run .level Clocks.noon.clock sharedAddress)
        (Client.NetClient.inputPacket 2 ⟨1, 0, 0, 0, false, false⟩) ⟨1, 7⟩ = none := by
  constructor
  · intro h
    have hfirst : ((run .level Clocks.noon.clock sharedAddress).playersByConnection[1]?).map
        (fun player => (player.udpBound, player.udpAddress)) = some (true, ⟨1, 7⟩) := by
      decide +kernel
    have hsecond : ((run .level Clocks.noon.clock sharedAddress).playersByConnection[2]?).map
        (fun player => (player.udpBound, player.udpAddress)) = some (true, ⟨1, 7⟩) := by
      decide +kernel
    obtain ⟨player, hplayer, hends⟩ := Option.map_eq_some_iff.mp hfirst
    obtain ⟨other, hother, hends'⟩ := Option.map_eq_some_iff.mp hsecond
    obtain ⟨hbound, haddress⟩ := Prod.mk.inj hends
    obtain ⟨hbound', haddress'⟩ := Prod.mk.inj hends'
    have hsame := h.distinct 1 2 player other hplayer hother hbound hbound'
      (haddress.trans haddress'.symm)
    exact absurd hsame (by decide)
  · decide +kernel

end Runs

end UntitledGame.Server.UdpAddresses
