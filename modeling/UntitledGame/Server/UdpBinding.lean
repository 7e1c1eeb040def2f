import UntitledGame.Server.PlayerTables
import UntitledGame.Server.UdpSteps

/-!
# Who may bind an address, move a body and see the world

Datagrams are untrusted. A hello with the token of a player binds the player to its
source; after that the source is the player's proof of identity. `Authentic` is what
follows from this for one step of a run: what it binds, which inputs it hands to the
simulation, and where its snapshots go.

`authentic_iff` says that one thing can go wrong: the id in a hello leads to a
connection, and the player of the connection is bound even if it has another id.
-/

namespace UntitledGame.Server.UdpBinding

open Net Sim WorldServer Endpoints
open Client (Address)

variable {F : Type*} [Scalar F]

/-- The player with this id is bound to the address. -/
def BoundTo (w : WorldServer F) (p : Nat) (address : Address) : Prop :=
  ∃ (c : Nat) (player : Player F), w.playersByConnection[c]? = some player ∧
    player.playerId = p ∧ player.udpBound = true ∧ player.udpAddress = address

/-- Ids are handed out in order, so no two entries have the same one. -/
structure Numbered (w : WorldServer F) : Prop where
  old : ∀ (c : Nat) (player : Player F), w.playersByConnection[c]? = some player →
    player.playerId < w.nextPlayerId
  distinct : ∀ (c d : Nat) (player other : Player F), w.playersByConnection[c]? = some player →
    w.playersByConnection[d]? = some other → player.playerId = other.playerId → c = d

section History

variable (setup : Setup F) (now : ClockReading F)

/-- A hello that named the player and carried its token has come from the address. -/
def Helloed (events : List (Event F)) (p : Nat) (address : Address) : Prop :=
  ∃ (before : List (Event F)) (data : Bytes) (at_ : Clocks F) (hello : ClientHello) (c : Nat)
    (player : Player F), before ++ [.datagram data address at_] <+: events ∧
      decodeClientHello (data.take kDatagramSize) = some hello ∧ hello.playerId.toNat = p ∧
      (run setup now before).playersByConnection[c]? = some player ∧ player.playerId = p ∧
      hello.token = player.token

/-- The input has come in a datagram that named the player, from the address that the player was
bound to then. -/
def Submitted (events : List (Event F)) (p : Nat) (input : CharacterInput F) : Prop :=
  ∃ (before : List (Event F)) (data : Bytes) (source : Address) (at_ : Clocks F)
    (body : ClientInput), before ++ [.datagram data source at_] <+: events ∧
      decodeClientInput (data.take kDatagramSize) = some body ∧ body.claimedId.toNat = p ∧
      BoundTo (run setup now before) p source ∧ playerInput setup body = input

/-- What a step may do on the word of a datagram, after the events before it. -/
structure Authentic (pre : List (Event F)) (e : Event F) : Prop where
  binding : ∀ (c d : Nat) (before after : Player F),
    (run setup now pre).playersByConnection[c]? = some before →
    (run setup now (pre ++ [e])).playersByConnection[d]? = some after →
    after.playerId = before.playerId →
    (after.udpBound, after.udpAddress) ≠ (before.udpBound, before.udpAddress) →
    ∃ (data : Bytes) (source : Address) (at_ : Clocks F) (hello : ClientHello),
      e = .datagram data source at_ ∧ decodeClientHello (data.take kDatagramSize) = some hello ∧
      hello.playerId.toNat = before.playerId ∧ hello.token = before.token ∧
      after.udpBound = true ∧ after.udpAddress = source
  joined : ∀ (d : Nat) (after : Player F),
    (run setup now (pre ++ [e])).playersByConnection[d]? = some after →
    (∀ (c : Nat) (before : Player F), (run setup now pre).playersByConnection[c]? = some before →
      before.playerId ≠ after.playerId) → after.udpBound = false
  inputs : ∀ (p : Nat) (input : CharacterInput F),
    (p, input) ∈ setInputs setup (run setup now pre) e → Submitted setup now (pre ++ [e]) p input
  snapshots : ∀ o ∈ snapshots setup (run setup now pre) e,
    BoundTo (run setup now pre) o.playerId o.address ∧
      Helloed setup now pre o.playerId o.address

end History

section Steps

variable (setup : Setup F) {w : WorldServer F}

/-- The id of an entry after a step is that of the entry before it, or the next free one. -/
theorem step_playerId (e : Event F) {c : Nat} {after : Player F}
    (h : (step setup w e).playersByConnection[c]? = some after) :
    (∃ before, w.playersByConnection[c]? = some before ∧ before.playerId = after.playerId) ∨
      (∃ request, joining w e = some (request, c)) ∧ after.playerId = w.nextPlayerId ∧
        w.nextPlayerId < (step setup w e).nextPlayerId := by
  cases step_origin setup w e h with
  | carried before hbefore hsame => exact Or.inl ⟨before, hbefore, (congrArg Prod.fst hsame).symm⟩
  | fresh hjoining hid hunbound hnext => exact Or.inr ⟨⟨_, hjoining⟩, hid, hnext⟩
  | bound b haccepted hconnection hbefore hsame =>
      exact Or.inl ⟨b.player, hbefore, (congrArg Prod.fst hsame).symm⟩

theorem Numbered.step (h : Numbered w) (e : Event F) : Numbered (step setup w e) where
  old c player hplayer := by
    cases step_playerId setup e hplayer with
    | inl hcarried =>
        obtain ⟨before, hbefore, hid⟩ := hcarried
        rw [← hid]
        exact (h.old c before hbefore).trans_le (step_nextPlayerId_le setup w e)
    | inr hfresh =>
        rw [hfresh.2.1]
        exact hfresh.2.2
  distinct c d player other hplayer hother heq := by
    cases step_playerId setup e hplayer with
    | inl hcarried =>
        obtain ⟨before, hbefore, hid⟩ := hcarried
        cases step_playerId setup e hother with
        | inl hcarried' =>
            obtain ⟨before', hbefore', hid'⟩ := hcarried'
            exact h.distinct c d before before' hbefore hbefore' (hid.trans (heq.trans hid'.symm))
        | inr hfresh' =>
            have hold := h.old c before hbefore
            rw [hid, heq, hfresh'.2.1] at hold
            exact absurd hold (Nat.lt_irrefl _)
    | inr hfresh =>
        cases step_playerId setup e hother with
        | inl hcarried' =>
            obtain ⟨before', hbefore', hid'⟩ := hcarried'
            have hold := h.old d before' hbefore'
            rw [hid', ← heq, hfresh.2.1] at hold
            exact absurd hold (Nat.lt_irrefl _)
        | inr hfresh' =>
            obtain ⟨request, hjoining⟩ := hfresh.1
            obtain ⟨request', hjoining'⟩ := hfresh'.1
            rw [hjoining] at hjoining'
            exact (Prod.mk.inj (Option.some.inj hjoining')).2

theorem run_numbered (now : ClockReading F) (events : List (Event F)) :
    Numbered (run setup now events) := by
  have hinit : Numbered (init setup now) := by
    constructor
    · intro c player hplayer
      simp [init] at hplayer
    · intro c d player other hplayer
      simp [init] at hplayer
  have hstep : ∀ (w : WorldServer F) (e : Event F), Numbered w → Numbered (step setup w e) :=
    fun _ e hw => hw.step setup e
  have hrun := Lib.Runs.run_preserves hstep hinit events
  exact hrun

theorem run_concat (now : ClockReading F) (pre : List (Event F)) (e : Event F) :
    run setup now (pre ++ [e]) = step setup (run setup now pre) e :=
  Lib.Runs.run_concat _ _ _ _

end Steps

section History

variable (setup : Setup F) (now : ClockReading F)

theorem Helloed.mono {setup : Setup F} {now : ClockReading F} {events later : List (Event F)}
    (hpre : events <+: later) {p : Nat} {address : Address}
    (h : Helloed setup now events p address) : Helloed setup now later p address := by
  obtain ⟨before, data, at_, hello, c, player, hbefore, hrest⟩ := h
  exact ⟨before, data, at_, hello, c, player, hbefore.trans hpre, hrest⟩

theorem Submitted.mono {setup : Setup F} {now : ClockReading F} {events later : List (Event F)}
    (hpre : events <+: later) {p : Nat} {input : CharacterInput F}
    (h : Submitted setup now events p input) : Submitted setup now later p input := by
  obtain ⟨before, data, source, at_, body, hbefore, hrest⟩ := h
  exact ⟨before, data, source, at_, body, hbefore.trans hpre, hrest⟩

/-- A datagram that is taken for an input. -/
theorem submitted_of_datagram {pre : List (Event F)} {data : Bytes} {source : Address}
    (at_ : Clocks F) {p : Nat} {input : CharacterInput F}
    (h : submitted setup (run setup now pre) data source = some (p, input)) :
    Submitted setup now (pre ++ [.datagram data source at_]) p input := by
  obtain ⟨c, player, body, hfound, hbody, hnamed, hp, hinput⟩ := (submitted_eq_some setup).mp h
  obtain ⟨hplayer, hbound, haddress⟩ := findPlayerByUdp_mem _ hfound
  exact ⟨pre, data, source, at_, body, List.prefix_refl _, hbody, hnamed.trans hp,
    ⟨c, player, hplayer, hp, hbound, haddress⟩, hinput⟩

/-- In every run, the inputs that wait have come in datagrams of their players. -/
theorem delayed_run (events : List (Event F)) :
    ∀ d ∈ (run setup now events).delayedInputs, Submitted setup now events d.playerId d.input := by
  induction events using List.reverseRecOn with
  | nil =>
      intro d hd
      simp [run, init] at hd
  | append_singleton pre e ih =>
      intro d hd
      rw [run_concat] at hd
      cases step_delayedInputs setup _ e hd with
      | inl hold => exact (ih d hold).mono (List.prefix_append pre [e])
      | inr hnew =>
          obtain ⟨data, source, at_, rfl, hsubmitted⟩ := hnew
          exact submitted_of_datagram setup now at_ hsubmitted

/-- So have those that reach the simulation. -/
theorem inputs_submitted (pre : List (Event F)) (e : Event F) {p : Nat} {input : CharacterInput F}
    (h : (p, input) ∈ setInputs setup (run setup now pre) e) :
    Submitted setup now (pre ++ [e]) p input := by
  cases e with
  | datagram data source at_ =>
      rw [setInputs] at h
      split at h
      · cases h
      · exact submitted_of_datagram setup now at_ (Option.mem_toList.mp h)
  | release at_ =>
      obtain ⟨d, hd, heq⟩ := List.mem_map.mp h
      obtain ⟨rfl, rfl⟩ := Prod.mk.inj heq
      have hwaits := delayed_run setup now pre d ((List.takeWhile_sublist _).subset hd)
      exact hwaits.mono (List.prefix_append pre _)
  | _ => cases h

/-- A hello that is accepted names the player that it binds, unless that changes nothing. -/
def Named (w : WorldServer F) (e : Event F) : Prop :=
  ∀ b ∈ accepted w e, b.hello.playerId.toNat = b.player.playerId ∨
    b.player.udpBound = true ∧ b.player.udpAddress = b.source

/-- Whoever is bound has sent a hello from the address. -/
def Bindings (events : List (Event F)) : Prop :=
  ∀ (p : Nat) (address : Address), BoundTo (run setup now events) p address →
    Helloed setup now events p address

theorem bindings_concat (pre : List (Event F)) (e : Event F) (h : Bindings setup now pre)
    (hnamed : Named (run setup now pre) e) : Bindings setup now (pre ++ [e]) := by
  rintro p address ⟨c, after, hafter, rfl, hbound, rfl⟩
  have hpre := List.prefix_append pre [e]
  rw [run_concat] at hafter
  cases step_origin setup _ e hafter with
  | carried before hbefore hsame =>
      simp only [endpoint, Prod.mk.injEq] at hsame
      obtain ⟨hid, -, hbound', haddress⟩ := hsame
      rw [hid, haddress]
      refine (h _ _ ⟨c, before, hbefore, rfl, ?_, rfl⟩).mono hpre
      rw [← hbound', hbound]
  | fresh hjoining hid hunbound hnext =>
      rw [hunbound] at hbound
      cases hbound
  | bound b haccepted hconnection hbefore hsame =>
      simp only [endpoint, Prod.mk.injEq] at hsame
      obtain ⟨hid, -, -, haddress⟩ := hsame
      rw [hid, haddress]
      cases hnamed b haccepted with
      | inl hnames =>
          obtain ⟨data, at_, rfl⟩ := accepted_datagram haccepted
          obtain ⟨hhello, -, hplayer, htoken, -⟩ := accepted_eq_some haccepted
          exact ⟨pre, data, at_, b.hello, b.connection, b.player, List.prefix_refl _, hhello, hnames,
            hplayer, rfl, htoken.symm⟩
      | inr hsameAddress =>
          exact (h _ _ ⟨c, b.player, hbefore, rfl, hsameAddress.1, hsameAddress.2⟩).mono hpre

/-- A step that changes a binding only on a hello with the player's token has the hello it accepts
name the player. -/
theorem named_of_authentic {pre : List (Event F)} {e : Event F} (h : Authentic setup now pre e) :
    Named (run setup now pre) e := by
  intro b haccepted
  by_cases hsame : b.player.udpBound = true ∧ b.player.udpAddress = b.source
  · exact Or.inr hsame
  · obtain ⟨at_, hstep⟩ := step_accepted setup _ e haccepted
    obtain ⟨data, at', rfl⟩ := accepted_datagram haccepted
    obtain ⟨hhello, -, hplayer, -, -⟩ := accepted_eq_some haccepted
    have hafter : (run setup now (pre ++ [.datagram data b.source at'])).playersByConnection[
        b.connection]? = some (bindTo b.player b.source at_) := by
      rw [run_concat, hstep, Std.ExtTreeMap.getElem?_insert_self]
    have hchanged : (true, b.source) ≠ (b.player.udpBound, b.player.udpAddress) := by
      intro heq
      obtain ⟨hbound, haddress⟩ := Prod.mk.inj heq
      exact hsame ⟨hbound.symm, haddress.symm⟩
    obtain ⟨data', source', at'', hello, heq, hhello', hnames, -⟩ :=
      h.binding _ _ _ _ hplayer hafter rfl hchanged
    obtain ⟨rfl, -, -⟩ := Event.datagram.inj heq
    obtain rfl := Option.some.inj (hhello.symm.trans hhello')
    exact Or.inl hnames

/-- A snapshot goes to an address that its player is bound to. -/
theorem boundTo_of_snapshots {w : WorldServer F} {e : Event F} {o : Outgoing}
    (h : o ∈ snapshots setup w e) : BoundTo w o.playerId o.address := by
  cases e with
  | tick at_ =>
      obtain ⟨⟨c, player⟩, hentry, hpacket⟩ := List.mem_filterMap.mp h
      have hplayer := Std.ExtTreeMap.mem_toList_iff_getElem?_eq_some.mp hentry
      rw [packetFor] at hpacket
      split at hpacket
      · rename_i hbound
        obtain rfl := Option.some.inj hpacket
        exact ⟨c, player, hplayer, rfl, hbound, rfl⟩
      · cases hpacket
  | _ => cases h

theorem authentic_of_named {pre : List (Event F)} {e : Event F} (h : Bindings setup now pre)
    (hnamed : Named (run setup now pre) e) : Authentic setup now pre e where
  binding c d before after hbefore hafter hid hchanged := by
    have hnumbered := run_numbered setup now pre
    rw [run_concat] at hafter
    cases step_origin setup _ e hafter with
    | carried before' hbefore' hsame =>
        simp only [endpoint, Prod.mk.injEq] at hsame
        obtain ⟨hid', -, hbound, haddress⟩ := hsame
        obtain rfl := hnumbered.distinct c d before before' hbefore hbefore' (hid.symm.trans hid')
        obtain rfl := Option.some.inj (hbefore.symm.trans hbefore')
        exact absurd (by rw [hbound, haddress]) hchanged
    | fresh hjoining hid' hunbound hnext =>
        have hold := hnumbered.old c before hbefore
        rw [← hid, hid'] at hold
        exact absurd hold (Nat.lt_irrefl _)
    | bound b haccepted hconnection hbefore' hsame =>
        simp only [endpoint, Prod.mk.injEq] at hsame
        obtain ⟨hid', -, hbound, haddress⟩ := hsame
        obtain rfl := hnumbered.distinct c d before b.player hbefore hbefore' (hid.symm.trans hid')
        obtain rfl := Option.some.inj (hbefore.symm.trans hbefore')
        obtain ⟨data, at_, rfl⟩ := accepted_datagram haccepted
        obtain ⟨hhello, -, -, htoken, -⟩ := accepted_eq_some haccepted
        cases hnamed b haccepted with
        | inl hnames =>
            exact ⟨data, b.source, at_, b.hello, rfl, hhello, hnames, htoken.symm, hbound, haddress⟩
        | inr hsameAddress =>
            exact absurd (by rw [hbound, haddress, hsameAddress.1, hsameAddress.2]) hchanged
  joined d after hafter hnew := by
    rw [run_concat] at hafter
    cases step_origin setup _ e hafter with
    | carried before hbefore hsame =>
        exact absurd (congrArg Prod.fst hsame).symm (hnew d before hbefore)
    | fresh hjoining hid hunbound hnext => exact hunbound
    | bound b haccepted hconnection hbefore hsame =>
        exact absurd (congrArg Prod.fst hsame).symm (hnew d b.player hbefore)
  inputs p input hinput := inputs_submitted setup now pre e hinput
  snapshots o ho := by
    have hbound := boundTo_of_snapshots setup ho
    exact ⟨hbound, h _ _ hbound⟩

/-- With the bindings in order, a step is authentic exactly if its hello names its player. -/
theorem authentic_iff_named (pre : List (Event F)) (e : Event F) (h : Bindings setup now pre) :
    Authentic setup now pre e ↔ Named (run setup now pre) e :=
  ⟨named_of_authentic setup now, authentic_of_named setup now h⟩

theorem bindings_init : Bindings setup now [] := by
  rintro p address ⟨c, player, hplayer, -⟩
  simp [run, init] at hplayer

/-- Where such hellos bind, whatever is in the socket or in the queue in front of it goes to an
address that a player's hello has come from. -/
theorem held_helloed {events : List (Event F)}
    (h : Lib.Runs.Along (step setup) Named (init setup now) events) :
    Bindings setup now events ∧ ∀ packet ∈ held (run setup now events),
      ∃ p, Helloed setup now events p packet.1 := by
  induction events using List.reverseRecOn with
  | nil =>
      refine ⟨bindings_init setup now, fun packet hpacket => ?_⟩
      simp [held, run, init] at hpacket
  | append_singleton pre e ih =>
      obtain ⟨halong, hnamed⟩ := Lib.Runs.along_concat.mp h
      obtain ⟨hbindings, hheld⟩ := ih halong
      have hpre := List.prefix_append pre [e]
      refine ⟨bindings_concat setup now pre e hbindings hnamed, fun packet hpacket => ?_⟩
      rw [run_concat] at hpacket
      cases List.mem_append.mp ((step_held setup _ e).mem_iff.mp hpacket) with
      | inl hold =>
          obtain ⟨p, hp⟩ := hheld packet hold
          exact ⟨p, hp.mono hpre⟩
      | inr hnew =>
          obtain ⟨o, ho, rfl⟩ := List.mem_map.mp hnew
          have hauthentic := (authentic_iff_named setup now pre e hbindings).mpr hnamed
          exact ⟨o.playerId, (hauthentic.snapshots o ho).2.mono hpre⟩

/-- In every run, every step is authentic if and only if every hello that is accepted names the
player that it binds, unless the player is bound to its source already. -/
theorem authentic_iff (events : List (Event F)) :
    (∀ pre e, pre ++ [e] <+: events → Authentic setup now pre e) ↔
      Lib.Runs.Along (step setup) Named (init setup now) events := by
  have hsteps := Lib.Runs.steps_iff_along (bindings_init setup now)
    (fun pre e h hnamed => bindings_concat setup now pre e h hnamed)
    (fun pre e h => authentic_iff_named setup now pre e h) events
  exact hsteps

end History

section Runs

/-- A hello that names the second player of a connection. -/
def secondHello : Event ℚ := .datagram (Client.NetClient.helloPacket 2 [1]) ⟨1, 7⟩ .noon

/-- The hello of player 2 binds player 1, whose entry the connection still has. -/
theorem hello_binds_other :
    ¬ Authentic .level Clocks.noon.clock PlayerTables.doubleJoin secondHello := by
  intro h
  have hbefore : ((run .level Clocks.noon.clock PlayerTables.doubleJoin).playersByConnection[1]?).map
      (fun player => (player.playerId, player.udpBound)) = some (1, false) := by
    decide +kernel
  have hafter : ((run .level Clocks.noon.clock (PlayerTables.doubleJoin ++
      [secondHello])).playersByConnection[1]?).map
      (fun player => (player.playerId, player.udpBound)) = some (1, true) := by
    decide +kernel
  have hnames : (decodeClientHello ((Client.NetClient.helloPacket 2 [1]).take kDatagramSize)).map
      (·.playerId) = some 2 := by
    decide +kernel
  obtain ⟨before, hplayer, hunbound⟩ := Option.map_eq_some_iff.mp hbefore
  obtain ⟨after, hplayer', hbound⟩ := Option.map_eq_some_iff.mp hafter
  obtain ⟨hid, hunbound⟩ := Prod.mk.inj hunbound
  obtain ⟨hid', hbound⟩ := Prod.mk.inj hbound
  obtain ⟨data, source, at_, hello, heq, hhello, hnamed, -⟩ :=
    h.binding 1 1 before after hplayer hplayer' (hid'.trans hid.symm) (by simp [hunbound, hbound])
  obtain ⟨rfl, -, -⟩ := Event.datagram.inj heq
  rw [hhello, Option.map_some] at hnames
  rw [hid, Option.some.inj hnames] at hnamed
  exact absurd hnamed (by decide)

end Runs

end UntitledGame.Server.UdpBinding
