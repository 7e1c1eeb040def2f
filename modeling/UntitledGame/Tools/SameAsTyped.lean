import UntitledGame.Lib.Decimals
import UntitledGame.Server.Clock
import UntitledGame.Server.Codecs
import UntitledGame.Tools.RemoteConsole

/-!
# A line at the remote console and at the terminal

The two consoles read their lines in two programs, and a remote line goes through a
request, a lookup of the session and a callback before it is carried out. Where a game
master is behind it, it does to the clock and the latency what the terminal would have
done at the moment at which the lookup is answered (`same_as_typed`).

The consoles differ on three lines: the remote one takes a bare fraction for a time of
day, it refuses a multiplier that is no number or negative, which the terminal takes for
zero, and it rounds a multiplier to a float at once, where the terminal rounds it to a
double and that to a float, which on some long texts is another float.
-/

namespace UntitledGame.Tools.RemoteConsole

open Net Sim Server
open Server.WorldServer (dials)
open Server.Console (ascii words atoi)

variable {F : Type*} [Scalar F]

/-- What a line asks of the world server. -/
inductive WorldCommand (F : Type*) where
  | status
  | latency (milliseconds : UInt32)
  | set (timeOfDay : F)
  | speed (multiplier : F)
  | reset
  deriving DecidableEq, Repr

section Meaning

variable (strtof : Bytes → Option F)

def timeMeaning : List Bytes → Option (WorldCommand F)
  | [] => some .status
  | verb :: rest =>
      if verb = ascii "reset" then some .reset
      else
        match rest with
        | [] => none
        | value :: _ =>
            if verb = ascii "set" then (parseTimeOfDay strtof value).map .set
            else if verb = ascii "speed" then (parseSpeed strtof value).map .speed
            else none

def latencyMeaning : List Bytes → Option (WorldCommand F)
  | [] => some .status
  | verb :: value :: _ =>
      if verb = ascii "set" then some (.latency (UInt32.ofInt (atoi value))) else none
  | _ => none

/-- What a line means, if it is for the world server. -/
def meaning (line : Bytes) : Option (WorldCommand F) :=
  match words line with
  | [] => none
  | command :: rest =>
      if command = ascii "status" then some .status
      else if command = ascii "time" then timeMeaning strtof rest
      else if command = ascii "latency" then latencyMeaning rest
      else none

theorem meaning_speed {line value : Bytes} {rest : List Bytes}
    (h : words line = ascii "time" :: ascii "speed" :: value :: rest) :
    meaning strtof line = (parseSpeed strtof value).map .speed := by
  have hset : ascii "speed" ≠ ascii "set" := by decide
  have hreset : ascii "speed" ≠ ascii "reset" := by decide
  have hstatus : ascii "time" ≠ ascii "status" := by decide
  rw [meaning, h]
  simp only [timeMeaning, if_neg hset, if_neg hreset, if_neg hstatus, if_true]

/-- A time of day that is no `HH:MM`. -/
def BareFraction (line : Bytes) : Prop :=
  ∃ value rest, words line = ascii "time" :: ascii "set" :: value :: rest ∧ 58 ∉ value

/-- A multiplier that is refused. -/
def BadMultiplier (line : Bytes) : Prop :=
  ∃ value rest, words line = ascii "time" :: ascii "speed" :: value :: rest ∧
    parseSpeed strtof value = none

/-- A multiplier that the consoles round to different floats. -/
def RoundedApart (atof : Bytes → F) (line : Bytes) : Prop :=
  ∃ value rest speed, words line = ascii "time" :: ascii "speed" :: value :: rest ∧
    parseSpeed strtof value = some speed ∧ atof value ≠ speed

/-- The number that a line sends. -/
def WorldCommand.number : WorldCommand F → Option F
  | .set timeOfDay => some timeOfDay
  | .speed multiplier => some multiplier
  | _ => none

def WorldCommand.outgoing (toBits : F → UInt32) (gToken : Bytes) : WorldCommand F → Outgoing
  | .status => RemoteConsole.status gToken
  | .latency milliseconds => latencyCommand gToken milliseconds
  | .set timeOfDay => timeCommand gToken .set (toBits timeOfDay)
  | .speed multiplier => timeCommand gToken .speed (toBits multiplier)
  | .reset => timeCommand gToken .reset (toBits 0.0)

theorem WorldCommand.outgoing_destination (toBits : F → UInt32) (gToken : Bytes)
    (c : WorldCommand F) : (c.outgoing toBits gToken).destination = .world := by
  cases c <;> rfl

variable (toBits : F → UInt32) (gToken : Bytes)

theorem timeWords_eq (rest : List Bytes) :
    timeWords strtof toBits gToken rest =
      (timeMeaning strtof rest).map (WorldCommand.outgoing toBits gToken) := by
  rcases rest with _ | ⟨verb, _ | ⟨value, rest⟩⟩
  · rfl
  · simp only [timeWords, timeMeaning]
    split <;> rfl
  · simp only [timeWords, timeMeaning]
    split
    · rfl
    · split
      · rw [Option.map_map]
        rfl
      · split
        · rw [Option.map_map]
          rfl
        · rfl

theorem latencyWords_eq (rest : List Bytes) :
    latencyWords gToken rest =
      (latencyMeaning rest).map (WorldCommand.outgoing (F := F) toBits gToken) := by
  cases rest with
  | nil => rfl
  | cons verb rest =>
      cases rest with
      | nil => rfl
      | cons value rest =>
          rw [latencyWords, latencyMeaning]
          split <;> rfl

theorem accountWords_auth {answer : Option Bytes} {rest : List Bytes} {o : Outgoing}
    (h : accountWords gToken answer rest = some o) : o.destination = .auth := by
  have hdelete : ∀ {name : Bytes} {assumeYes : Bool},
      accountDelete gToken name assumeYes answer = some o → o.destination = .auth := by
    intro name assumeYes hsome
    rw [accountDelete] at hsome
    split at hsome
    · cases hsome
    · obtain rfl := Option.some.inj hsome
      rfl
  simp only [accountWords.eq_def] at h
  split at h
  · split at h
    · obtain rfl := Option.some.inj h
      rfl
    · split at h
      · exact hdelete h
      · split at h
        · obtain rfl := Option.some.inj h
          rfl
        · cases h
  · split at h
    · exact hdelete h
    · cases h
  · cases h

/-- A line that means something to the world server makes its request. -/
theorem runCommand_meaning {line : Bytes} {c : WorldCommand F} (answer : Option Bytes)
    (h : meaning strtof line = some c) :
    (runCommand strtof toBits gToken line answer).2 = some (c.outgoing toBits gToken) := by
  rw [meaning] at h
  rw [runCommand]
  cases hwords : words line with
  | nil =>
      rw [hwords] at h
      cases h
  | cons command rest =>
      rw [hwords] at h
      dsimp only at h ⊢
      split at h
      · rename_i hcommand
        obtain rfl := Option.some.inj h
        subst hcommand
        rfl
      · split at h
        · rename_i hcommand
          subst hcommand
          have hwhole : timeWords strtof toBits gToken rest = some (c.outgoing toBits gToken) := by
            rw [timeWords_eq, h]
            rfl
          exact hwhole
        · split at h
          · rename_i hcommand
            subst hcommand
            have hwhole : latencyWords gToken rest = some (c.outgoing toBits gToken) := by
              rw [latencyWords_eq toBits, h]
              rfl
            exact hwhole
          · cases h

/-- Any other request is for the auth server. -/
theorem runCommand_auth {line : Bytes} {answer : Option Bytes} {o : Outgoing}
    (h : meaning strtof line = none)
    (hsent : (runCommand strtof toBits gToken line answer).2 = some o) : o.destination = .auth := by
  rw [runCommand] at hsent
  rw [meaning] at h
  cases hwords : words line with
  | nil =>
      rw [hwords] at hsent
      cases hsent
  | cons command rest =>
      rw [hwords] at h hsent
      dsimp only at h hsent
      split at hsent
      · cases hsent
      · split at hsent
        · cases hsent
        · split at hsent
          · rename_i hcommand
            rw [if_pos hcommand] at h
            cases h
          · rename_i hstatus
            rw [if_neg hstatus] at h
            split at hsent
            · rename_i hcommand
              rw [if_pos hcommand] at h
              rw [timeWords_eq, h] at hsent
              cases hsent
            · rename_i htime
              rw [if_neg htime] at h
              split at hsent
              · rename_i hcommand
                rw [if_pos hcommand] at h
                rw [latencyWords_eq toBits, h] at hsent
                cases hsent
              · split at hsent
                · exact accountWords_auth gToken hsent
                · cases hsent

end Meaning

section Terminal

variable (setup : Setup F)

/-- What a command does to the clock and the latency. -/
def obey (w : WorldServer F) (now : ClockReading F) : WorldCommand F → WorldServer F
  | .status => w
  | .latency milliseconds => { w with simulatedLatencyMs := min milliseconds 2000 }
  | .set timeOfDay =>
      { w with simulation := w.simulation.setTimeOfDay setup.phys timeOfDay now }
  | .speed multiplier =>
      { w with simulation :=
          w.simulation.setTimeSpeed (WorldServer.clamp multiplier 0.0 20000.0) now }
  | .reset => { w with simulation := w.simulation.resetClock now }

variable {setup} {atof : Bytes → F} {strtof : Bytes → Option F} {line : Bytes}
  (w : WorldServer F) (hashed : Option Bytes) (now : ClockReading F)

omit [Scalar F] in
theorem accountCommand_dials (rest : List Bytes) :
    (Console.accountCommand w hashed rest).dials = w.dials := by
  simp only [Console.accountCommand.eq_def, Console.createAccount, Console.setLevel]
  repeat' split
  all_goals rfl

theorem setClock_dials {text : Bytes} (h : 58 ∈ text) :
    (Console.setClock setup w text now).dials =
      (((parseTimeOfDay strtof text).map .set).elim w (obey setup w now)).dials := by
  rw [Console.setClock, parseTimeOfDay, if_neg (not_not_intro h), if_neg (not_not_intro h)]
  dsimp only
  split
  · rfl
  · rfl

theorem setSpeed_dials {text : Bytes} (h : parseSpeed strtof text = some (atof text)) :
    ({ w with
        simulation := w.simulation.setTimeSpeed (WorldServer.clamp (atof text) 0.0 20000.0) now } :
      WorldServer F).dials =
      (((parseSpeed strtof text).map .speed).elim w (obey setup w now)).dials := by
  rw [h]
  rfl

theorem timeCommand_dials {rest : List Bytes}
    (hfraction : ∀ value more, rest = ascii "set" :: value :: more → 58 ∈ value)
    (hspeed : ∀ value more, rest = ascii "speed" :: value :: more →
      parseSpeed strtof value = some (atof value)) :
    (Console.timeCommand atof setup w now rest).dials =
      ((timeMeaning strtof rest).elim w (obey setup w now)).dials := by
  rcases rest with _ | ⟨verb, _ | ⟨value, rest⟩⟩
  · rfl
  · simp only [Console.timeCommand, timeMeaning]
    split <;> rfl
  · simp only [Console.timeCommand, timeMeaning]
    split
    · rfl
    · split
      · rename_i hverb
        subst hverb
        exact setClock_dials w now (hfraction value rest rfl)
      · split
        · rename_i hverb
          subst hverb
          exact setSpeed_dials w now (hspeed value rest rfl)
        · rfl

/-- A line at the terminal does what it means. -/
theorem terminal_obeys (hfraction : ¬ BareFraction line) (hspeed : ¬ BadMultiplier strtof line)
    (hrounded : ¬ RoundedApart strtof atof line) :
    (Console.runConsoleCommand atof setup w line hashed now).dials =
      ((meaning strtof line).elim w (obey setup w now)).dials := by
  rw [Console.runConsoleCommand, meaning]
  cases hwords : words line with
  | nil => rfl
  | cons command rest =>
      dsimp only
      by_cases hstatus : command = ascii "status"
      · subst hstatus
        rfl
      · rw [if_neg hstatus]
        by_cases htime : command = ascii "time"
        · subst htime
          rw [if_neg (by decide), if_pos rfl, if_pos rfl]
          apply timeCommand_dials w now
          · rintro value more rfl
            by_contra hcolon
            exact hfraction ⟨value, more, hwords, hcolon⟩
          · rintro value more rfl
            cases hread : parseSpeed strtof value with
            | none => exact absurd ⟨value, more, hwords, hread⟩ hspeed
            | some speed =>
                by_contra hapart
                refine hrounded ⟨value, more, speed, hwords, hread, fun heq => hapart ?_⟩
                rw [heq]
        · rw [if_neg htime, if_neg htime]
          by_cases hlatency : command = ascii "latency"
          · rw [if_pos hlatency, if_pos hlatency]
            rcases rest with _ | ⟨verb, _ | ⟨value, rest⟩⟩
            · rfl
            · rfl
            · rw [Console.latencyCommand, latencyMeaning]
              split <;> rfl
          · rw [if_neg hlatency, if_neg hlatency]
            split
            · exact accountCommand_dials w hashed rest
            · rfl

end Terminal

section Requests

open ByteReader

variable (setup : Setup F) (gToken : Bytes)

theorem reads_latency (milliseconds : UInt32) :
    (WorldServer.readSetLatencyRequest
        (start (latencyCommand gToken milliseconds).message.payload)).1 =
      (capped gToken, milliseconds, false) := by
  apply Yields.whole
  rw [latencyCommand, ← List.append_nil (ByteWriter.u32 milliseconds)]
  exact (yields_string _ _).bind <| (yields_u32 _ _).bind <| (yields_failed _).bind <|
    Yields.pure _ _

theorem reads_time (command : TimeCommand) (value : UInt32) :
    (WorldServer.readCommandRequest .adminSetTimeRequest
        (start (timeCommand gToken command value).message.payload)).1 =
      (capped gToken, timeCommandToU8 command, value, false) := by
  apply Yields.whole
  simp only [timeCommand, List.append_assoc]
  rw [← List.append_nil (ByteWriter.f32 value)]
  exact (yields_string _ _).bind <| (yields_u8 _ _).bind <| (yields_f32 _ _).bind <|
    (yields_failed _).bind <| Yields.pure _ _

theorem reads_status :
    (WorldServer.readCommandRequest .adminStatusRequest
        (start (status gToken).message.payload)).1 = (capped gToken, 0, 0, false) := by
  apply Yields.whole
  rw [status, ← List.append_nil (ByteWriter.string gToken)]
  exact (yields_string _ _).bind <| (Yields.pure _ _).bind <| (Yields.pure _ _).bind <|
    (yields_failed _).bind <| Yields.pure _ _

/-- The callback that a command leaves with the lookup of the session. -/
def WorldCommand.handler (c : WorldCommand F) (request id : Nat) : Handler :=
  match c with
  | .status => .command request id .adminStatusRequest 0 0
  | .latency milliseconds => .setLatency request id milliseconds
  | .set timeOfDay =>
      .command request id .adminSetTimeRequest (timeCommandToU8 .set) (setup.toBits timeOfDay)
  | .speed multiplier =>
      .command request id .adminSetTimeRequest (timeCommandToU8 .speed) (setup.toBits multiplier)
  | .reset => .command request id .adminSetTimeRequest (timeCommandToU8 .reset) (setup.toBits 0.0)

/-- The world server looks the session up before anything else. -/
theorem onMessage_dbClient (w : WorldServer F) (id : Nat) (c : WorldCommand F) :
    (w.onMessage setup id (c.outgoing setup.toBits gToken).message).dbClient =
      w.dbClient.call w.arrivals.length (.sessionLookup (capped gToken))
        (c.handler setup w.arrivals.length id) := by
  have htime : ∀ (command : TimeCommand) (value : UInt32),
      (w.onMessage setup id (timeCommand gToken command value).message).dbClient =
        w.dbClient.call w.arrivals.length (.sessionLookup (capped gToken))
          (.command w.arrivals.length id .adminSetTimeRequest (timeCommandToU8 command) value) := by
    intro command value
    rw [WorldServer.onMessage]
    have htype : WorldMessage.ofU16 (timeCommand gToken command value).message.type =
        some .adminSetTimeRequest := rfl
    rw [htype]
    simp only [WorldServer.onCommandRequest, reads_time]
    rfl
  cases c with
  | status =>
      have htype : WorldMessage.ofU16 (status gToken).message.type = some .adminStatusRequest := rfl
      rw [WorldServer.onMessage, WorldCommand.outgoing, htype]
      simp only [WorldServer.onCommandRequest, reads_status]
      rfl
  | latency milliseconds =>
      have htype : WorldMessage.ofU16 (latencyCommand gToken milliseconds).message.type =
          some .adminSetLatencyRequest := rfl
      rw [WorldServer.onMessage, WorldCommand.outgoing, htype]
      simp only [WorldServer.onSetLatencyRequest, reads_latency]
      rfl
  | set timeOfDay => exact htime .set _
  | speed multiplier => exact htime .speed _
  | reset => exact htime .reset _

/-- A game master's command is obeyed when the lookup is answered. -/
theorem onReply_obeys (w : WorldServer F) (now : Clocks F) {c : WorldCommand F} {session : Session}
    (request id : Nat) (hlevel : PermissionLevel.gameMaster.toU8 ≤ session.permissionLevel)
    (hbits : ∀ x, c.number = some x → setup.ofBits (setup.toBits x) = x) :
    (WorldServer.onReply setup w now (c.handler setup request id)
        (some (.sessionLookup true session))).dials = (obey setup w now.clock c).dials := by
  have hallowed : ¬ session.permissionLevel < PermissionLevel.gameMaster.toU8 :=
    UInt8.not_lt.mpr hlevel
  have hcommand : ∀ (command : WorldMessage) (time : UInt8) (value : UInt32),
      (WorldServer.onReply setup w now (.command request id command time value)
          (some (.sessionLookup true session))).dials =
        ({ w with
            simulation := WorldServer.runCommand setup w.simulation command time
              (setup.ofBits value) now.clock } : WorldServer F).dials := by
    intro command time value
    rw [WorldServer.onReply, sessionLookupResult, WorldServer.onCommandLookup, if_neg hallowed,
      WorldServer.replyCommand_dials]
  cases c with
  | status => exact hcommand _ _ _
  | latency milliseconds =>
      rw [WorldCommand.handler, WorldServer.onReply, sessionLookupResult,
        WorldServer.onLatencyLookup, if_neg hallowed]
      rfl
  | set timeOfDay =>
      refine (hcommand _ _ _).trans ?_
      rw [hbits timeOfDay rfl]
      rfl
  | speed multiplier =>
      refine (hcommand _ _ _).trans ?_
      rw [hbits multiplier rfl]
      rfl
  | reset => exact hcommand _ _ _

end Requests

section Lines

variable (atof : Bytes → F) (strtof : Bytes → Option F) (setup : Setup F) (gToken : Bytes)

/-- A request that a line makes of the world server leaves a callback behind the lookup of the
session. Whenever that lookup is answered with a session of a game master, in whatever state the
server is in by then, the clock and the latency become what the same line typed at the terminal at
that moment makes of them. A line that makes no such request changes neither at the terminal. -/
theorem same_as_typed {line : Bytes} (hfraction : ¬ BareFraction line)
    (hspeed : ¬ BadMultiplier strtof line) (hrounded : ¬ RoundedApart strtof atof line)
    (hbits : ∀ c x, meaning strtof line = some c → c.number = some x →
      setup.ofBits (setup.toBits x) = x) (answer hashed : Option Bytes) :
    let sent := (runCommand strtof setup.toBits gToken line answer).2
    (∀ o, sent = some o → o.destination = .world → ∀ (w : WorldServer F) (id : Nat), ∃ handler,
      (w.onMessage setup id o.message).dbClient =
          w.dbClient.call w.arrivals.length (.sessionLookup (capped gToken)) handler ∧
        ∀ (w' : WorldServer F) (requestId : Nat) (session : Session) (now : Clocks F),
          w'.dbClient.mPending[requestId]? = some handler →
          PermissionLevel.gameMaster.toU8 ≤ session.permissionLevel →
          (w'.onDbReply setup requestId (.sessionLookup true session) now).dials =
            (Console.runConsoleCommand atof setup w' line hashed now.clock).dials) ∧
      ((∀ o, sent = some o → o.destination = .auth) →
        ∀ (w' : WorldServer F) (now : ClockReading F),
          (Console.runConsoleCommand atof setup w' line hashed now).dials = w'.dials) := by
  intro sent
  constructor
  · intro o hsent hworld w id
    cases hmeaning : meaning strtof line with
    | none =>
        rw [runCommand_auth strtof setup.toBits gToken hmeaning hsent] at hworld
        cases hworld
    | some c =>
        have hoffered := runCommand_meaning strtof setup.toBits gToken answer hmeaning
        obtain rfl := Option.some.inj (hsent.symm.trans hoffered)
        refine ⟨c.handler setup w.arrivals.length id, onMessage_dbClient setup gToken w id c, ?_⟩
        intro w' requestId session now hpending hlevel
        rw [WorldServer.onDbReply, DbClient.answer, hpending]
        dsimp only
        rw [onReply_obeys setup _ now _ id hlevel fun x hx => hbits c x hmeaning hx,
          terminal_obeys w' hashed now.clock hfraction hspeed hrounded, hmeaning]
        cases c <;> rfl
  · intro hauth w' now
    cases hmeaning : meaning strtof line with
    | none =>
        rw [terminal_obeys w' hashed now hfraction hspeed hrounded, hmeaning, Option.elim_none]
    | some c =>
        have hoffered := runCommand_meaning strtof setup.toBits gToken answer hmeaning
        have hdestination := hauth _ hoffered
        rw [WorldCommand.outgoing_destination] at hdestination
        cases hdestination

/-- `time speed 24`, where both functions read a decimal text and the float of 24 is written as
itself. -/
theorem same_as_typed_speed :
    let decimal : Bytes → Option ℚ := fun text => (Lib.Decimals.number text).map Nat.cast
    let atof : Bytes → ℚ := fun text => (decimal text).getD 0
    let setup : Setup ℚ :=
      { Setup.level with
        toBits := fun x => if x = 24 then 0x41C00000 else 0
        ofBits := fun bits => if bits = 0x41C00000 then 24 else 0 }
    let line := ascii "time speed 24"
    ∃ o, (runCommand decimal setup.toBits [1] line none).2 = some o ∧
      ∃ handler : Handler, ∀ (w : WorldServer ℚ) (requestId : Nat),
        w.dbClient.mPending[requestId]? = some handler →
        (w.onDbReply setup requestId (.sessionLookup true ⟨1, [97], 1⟩) .noon).dials =
          (Console.runConsoleCommand atof setup w line none Clocks.noon.clock).dials := by
  intro decimal atof setup line
  have hread : decimal (ascii "24") = some 24 := by
    have hnumber : Lib.Decimals.number (ascii "24") = some 24 :=
      Lib.Decimals.number_of_foldl (by decide) (by decide) (by decide)
    rw [show decimal (ascii "24") = (Lib.Decimals.number (ascii "24")).map Nat.cast from rfl,
      hnumber]
    rfl
  have hspeed : parseSpeed decimal (ascii "24") = some 24 := by
    rw [parseSpeed, hread]
    exact if_neg (by decide +kernel)
  have hwords : words line = [ascii "time", ascii "speed", ascii "24"] := by decide +kernel
  have hmeaning : meaning decimal line = some (.speed 24) := by
    rw [meaning_speed decimal hwords, hspeed]
    rfl
  have hfraction : ¬ BareFraction line := by
    rintro ⟨value, rest, hset, -⟩
    rw [hwords] at hset
    injection hset with _ hrest
    injection hrest with hverb _
    exact absurd hverb (by decide)
  have hvalue : ∀ {value rest}, words line = ascii "time" :: ascii "speed" :: value :: rest →
      value = ascii "24" := by
    rintro value rest hline
    have heq := hwords.symm.trans hline
    simp only [List.cons.injEq] at heq
    exact heq.2.2.1.symm
  have hbad : ¬ BadMultiplier decimal line := by
    rintro ⟨value, rest, hline, hrefused⟩
    rw [hvalue hline, hspeed] at hrefused
    cases hrefused
  have hrounded : ¬ RoundedApart decimal atof line := by
    rintro ⟨value, rest, speed, hline, hsome, hapart⟩
    rw [hvalue hline] at hsome hapart
    refine hapart ?_
    rw [show atof (ascii "24") = (decimal (ascii "24")).getD 0 from rfl, hread]
    exact Option.some.inj (hspeed.symm.trans hsome)
  have hbits : ∀ (c : WorldCommand ℚ) x, meaning decimal line = some c → c.number = some x →
      setup.ofBits (setup.toBits x) = x := by
    intro c x hc hx
    obtain rfl := Option.some.inj (hmeaning.symm.trans hc)
    obtain rfl := Option.some.inj hx
    decide +kernel
  obtain ⟨handler, -, hsame⟩ := (same_as_typed atof decimal setup [1] hfraction hbad hrounded hbits
    none none).1 _ (runCommand_meaning _ setup.toBits [1] none hmeaning) rfl
    (WorldServer.init setup Clocks.noon.clock) 1
  refine ⟨_, runCommand_meaning _ setup.toBits [1] none hmeaning, handler, ?_⟩
  intro w requestId hpending
  exact hsame w requestId ⟨1, [97], 1⟩ .noon hpending (by decide)

end Lines

end UntitledGame.Tools.RemoteConsole
