import UntitledGame.Server.WorldTurns
import UntitledGame.Tools.SameAsTyped

/-!
# The clock that the remote console shows

The answer to a command says what the server has come to by it, and the console reads
just that (`onReply_told`).

A time of day is typed in minutes, goes to the world server as a float, is wrapped into
a day there, comes back as a float and is shown in minutes again. Each conversion may be
off by a little, and just before midnight what is shown wraps as well. The minute that is
shown is the one that was typed (`typed_time_shown`).
-/

namespace UntitledGame.Tools.RemoteConsole

open Net Sim Server ByteReader
open Server.Console (ascii words atoi)

section Rounding

/-- How far a conversion of a time of day may be off. -/
def kClockError : ℚ := 1 / 6000

theorem truncated_eq {x : ℚ} {n : ℕ} (hlow : (n : ℚ) ≤ x) (hhigh : x < n + 1) :
    truncated x = n := by
  have hnonneg : 0 ≤ x := le_trans (Nat.cast_nonneg n) hlow
  rw [truncated, if_pos hnonneg]
  apply Int.floor_eq_iff.mpr
  exact ⟨by exact_mod_cast hlow, by exact_mod_cast hhigh⟩

/-- The hours and the minutes of a minute of the day. -/
def clockFace (n : ℕ) : Int × Int := (((n / 60 : ℕ) : Int), ((n % 60 : ℕ) : Int))

/-- The minute that the clock is nearest to, where a day is over after 1440 of them. -/
theorem printClock_eq {timeOfDay : ℚ} {n : ℕ}
    (hlow : (n : ℚ) ≤ timeOfDay * 24 * 60 + 1 / 2)
    (hhigh : timeOfDay * 24 * 60 + 1 / 2 < n + 1) :
    printClock timeOfDay = clockFace (n % 1440) := by
  unfold printClock
  rw [truncated_eq hlow hhigh]
  rfl

/-- A time of day that is within two conversions of a minute is shown as that minute. -/
theorem printClock_near {timeOfDay wrapped : ℚ} {n : ℕ} (hn : n < 1440)
    (hsent : |wrapped - n / 1440| < kClockError)
    (hback : |timeOfDay - Int.fract wrapped| < kClockError) :
    printClock timeOfDay = clockFace n := by
  obtain ⟨hsent, hsent'⟩ := abs_lt.mp hsent
  obtain ⟨hback, hback'⟩ := abs_lt.mp hback
  rw [kClockError] at *
  have hlast : (n : ℚ) ≤ 1439 := by exact_mod_cast Nat.lt_succ_iff.mp hn
  have hfirst : (0 : ℚ) ≤ n := Nat.cast_nonneg n
  by_cases hwraps : wrapped < 0
  · -- only midnight can come out below zero, and it is shown as the midnight after
    have hzero : n = 0 := by
      by_contra hne
      have hone : (1 : ℚ) ≤ n := by exact_mod_cast Nat.one_le_iff_ne_zero.mpr hne
      linarith only [hsent, hwraps, hone]
    subst hzero
    rw [Nat.cast_zero] at hsent hsent'
    have hfloor : ⌊wrapped⌋ = -1 := by
      apply Int.floor_eq_iff.mpr
      push_cast
      constructor
      · linarith only [hsent]
      · linarith only [hwraps]
    have hfract : Int.fract wrapped = wrapped + 1 := by
      rw [Int.fract, hfloor]
      push_cast
      ring
    rw [hfract] at hback hback'
    have hlow : ((1440 : ℕ) : ℚ) ≤ timeOfDay * 24 * 60 + 1 / 2 := by
      push_cast
      linarith only [hback, hsent]
    have hhigh : timeOfDay * 24 * 60 + 1 / 2 < ((1440 : ℕ) : ℚ) + 1 := by
      push_cast
      linarith only [hback', hwraps]
    exact printClock_eq hlow hhigh
  · have hfract : Int.fract wrapped = wrapped := by
      apply Int.fract_eq_self.mpr
      exact ⟨not_lt.mp hwraps, by linarith only [hsent', hlast]⟩
    rw [hfract] at hback hback'
    have hlow : (n : ℚ) ≤ timeOfDay * 24 * 60 + 1 / 2 := by linarith only [hback, hsent]
    have hhigh : timeOfDay * 24 * 60 + 1 / 2 < n + 1 := by linarith only [hback', hsent']
    have hshown := printClock_eq hlow hhigh
    rw [Nat.mod_eq_of_lt hn] at hshown
    exact hshown

end Rounding

section Answers

variable {F : Type*} [Scalar F] (setup : Setup F)

theorem reads_timeReply (result : UInt8) (now speed : UInt32) :
    (readTimeReply (start (ByteWriter.u8 result ++ ByteWriter.f32 now ++ ByteWriter.f32 speed))).1 =
      shown result (now, speed) := by
  apply Yields.whole
  rw [List.append_assoc, ← List.append_nil (ByteWriter.f32 speed)]
  exact (yields_u8 _ _).bind <| (yields_f32 _ _).bind <| (yields_f32 _ _).bind <| Yields.pure _ _

theorem reads_latencyReply (result : UInt8) (current : UInt32) :
    (readLatencyReply (start (ByteWriter.u8 result ++ ByteWriter.u32 current))).1 =
      shown result current := by
  apply Yields.whole
  rw [← List.append_nil (ByteWriter.u32 current)]
  exact (yields_u8 _ _).bind <| (yields_u32 _ _).bind <| Yields.pure _ _

theorem reads_statusReply (result : UInt8) (line : StatusLine) :
    (readStatusReply (start (ByteWriter.u8 result ++ ByteWriter.f32 line.timeOfDay ++
      ByteWriter.f32 line.speed ++ ByteWriter.u16 line.players ++ ByteWriter.u32 line.tick ++
      ByteWriter.u32 line.latencyMs))).1 = shown result line := by
  apply Yields.whole
  simp only [List.append_assoc]
  rw [← List.append_nil (ByteWriter.u32 line.latencyMs)]
  exact (yields_u8 _ _).bind <| (yields_f32 _ _).bind <| (yields_f32 _ _).bind <|
    (yields_u16 _ _).bind <| (yields_u32 _ _).bind <| (yields_u32 _ _).bind <| Yields.pure _ _

/-- The status of a server. -/
def StatusLine.of (w : WorldServer F) : StatusLine where
  timeOfDay := setup.toBits w.simulation.mTimeOfDay
  speed := setup.toBits w.simulation.mTimeSpeed
  players := UInt16.ofNat w.simulation.mPlayers.size
  tick := w.simulation.mTick
  latencyMs := w.simulatedLatencyMs

/-- The console reads the answer to its command as what the server has come to. -/
def Told (w : WorldServer F) (payload : Bytes) : WorldCommand F → Prop
  | .status => (readStatusReply (start payload)).1 = .values (.of setup w)
  | .latency _ => (readLatencyReply (start payload)).1 = .values w.simulatedLatencyMs
  | _ => (readTimeReply (start payload)).1 =
      .values (setup.toBits w.simulation.mTimeOfDay, setup.toBits w.simulation.mTimeSpeed)

def WorldCommand.response : WorldCommand F → WorldMessage
  | .status => .adminStatusResponse
  | .latency _ => .adminSetLatencyResponse
  | _ => .adminSetTimeResponse

/-- A game master is told what the command has come to. -/
theorem onReply_told (w : WorldServer F) (now : Clocks F) (c : WorldCommand F) {session : Session}
    (request id : Nat) (hlevel : PermissionLevel.gameMaster.toU8 ≤ session.permissionLevel) :
    let w' := WorldServer.onReply setup w now (c.handler setup request id)
      (some (.sessionLookup true session))
    ∃ payload, w'.server = w.server.send id c.response.toU16 payload ∧
      Told setup w' payload c := by
  have hallowed : ¬ session.permissionLevel < PermissionLevel.gameMaster.toU8 :=
    UInt8.not_lt.mpr hlevel
  have htime : ∀ (time : UInt8) (value : UInt32),
      let w' := WorldServer.onReply setup w now
        (.command request id .adminSetTimeRequest time value) (some (.sessionLookup true session))
      w'.server = w.server.send id WorldMessage.adminSetTimeResponse.toU16
        (ByteWriter.u8 0 ++ ByteWriter.f32 (setup.toBits w'.simulation.mTimeOfDay) ++
          ByteWriter.f32 (setup.toBits w'.simulation.mTimeSpeed)) := by
    intro time value
    simp only [WorldServer.onReply, sessionLookupResult, WorldServer.onCommandLookup,
      if_neg hallowed]
    rfl
  intro w'
  cases c with
  | status =>
      refine ⟨_, ?_, reads_statusReply 0 (.of setup w')⟩
      simp only [w', WorldCommand.handler, WorldServer.onReply, sessionLookupResult,
        WorldServer.onCommandLookup, if_neg hallowed]
      rfl
  | latency milliseconds =>
      refine ⟨_, ?_, reads_latencyReply 0 w'.simulatedLatencyMs⟩
      simp only [w', WorldCommand.handler, WorldServer.onReply, sessionLookupResult,
        WorldServer.onLatencyLookup, if_neg hallowed]
      rfl
  | set timeOfDay => exact ⟨_, htime _ _, reads_timeReply 0 _ _⟩
  | speed multiplier => exact ⟨_, htime _ _, reads_timeReply 0 _ _⟩
  | reset => exact ⟨_, htime _ _, reads_timeReply 0 _ _⟩

end Answers

section Replies

variable {setup : Setup ℚ} {strtof : Bytes → Option ℚ}

/-- What a time of day in hours and minutes comes to. -/
theorem parseTimeOfDay_minutes {text : Bytes} {timeOfDay : ℚ} (hcolon : 58 ∈ text)
    (h : parseTimeOfDay strtof text = some timeOfDay) :
    ∃ n : ℕ, n < 1440 ∧ timeOfDay = n / 1440 ∧
      clockFace n =
        (atoi (text.takeWhile (· ≠ 58)), atoi ((text.dropWhile (· ≠ 58)).tail)) := by
  rw [parseTimeOfDay, if_neg (not_not_intro hcolon)] at h
  dsimp only at h
  split at h
  · cases h
  · rename_i hrange
    simp only [Bool.or_eq_true, decide_eq_true_eq, not_or, not_lt] at hrange
    obtain rfl := Option.some.inj h
    generalize hhours : atoi (text.takeWhile (· ≠ 58)) = hours at *
    generalize hminutes : atoi ((text.dropWhile (· ≠ 58)).tail) = minutes at *
    refine ⟨(hours * 60 + minutes).toNat, by omega, ?_, ?_⟩
    · congr 1
      norm_num
    · rw [clockFace, Prod.mk.injEq]
      omega

variable (gToken : Bytes)

variable (setup) in
/-- The clock of a game master who sets it. -/
theorem set_timeOfDay (w : WorldServer ℚ) (now : Clocks ℚ) {session : Session} (request id : Nat)
    (timeOfDay : ℚ) (hlevel : PermissionLevel.gameMaster.toU8 ≤ session.permissionLevel) :
    (WorldServer.onReply setup w now ((WorldCommand.set timeOfDay).handler setup request id)
        (some (.sessionLookup true session))).simulation.mTimeOfDay =
      setup.ofBits (setup.toBits timeOfDay) -
        setup.phys.floor (setup.ofBits (setup.toBits timeOfDay)) := by
  have hallowed : ¬ session.permissionLevel < PermissionLevel.gameMaster.toU8 :=
    UInt8.not_lt.mpr hlevel
  rw [WorldCommand.handler, WorldServer.onReply, sessionLookupResult, WorldServer.onCommandLookup,
    if_neg hallowed]
  rfl

/-- Where `HH:MM` is typed at the remote console and a game master is behind it, the world server
answers with a clock that the console shows as that hour and that minute. -/
theorem typed_time_shown (hfloor : ∀ x : ℚ, setup.phys.floor x = ⌊x⌋)
    (hclose : ∀ x : ℚ, 0 ≤ x → x < 1 → |setup.ofBits (setup.toBits x) - x| < kClockError)
    {line text : Bytes} {rest : List Bytes}
    (hwords : words line = ascii "time" :: ascii "set" :: text :: rest) (hcolon : 58 ∈ text)
    (answer : Option Bytes) {o : Outgoing}
    (hsent : (runCommand strtof setup.toBits gToken line answer).2 = some o)
    (w : WorldServer ℚ) (id : Nat) :
    ∃ handler,
      (w.onMessage setup id o.message).dbClient =
          w.dbClient.call w.arrivals.length (.sessionLookup (capped gToken)) handler ∧
        ∀ (w' : WorldServer ℚ) (requestId : Nat) (session : Session) (now : Clocks ℚ),
          w'.dbClient.mPending[requestId]? = some handler →
          PermissionLevel.gameMaster.toU8 ≤ session.permissionLevel →
          ∃ payload bits speed,
            (w'.onDbReply setup requestId (.sessionLookup true session) now).server =
                w'.server.send id WorldMessage.adminSetTimeResponse.toU16 payload ∧
              (readTimeReply (start payload)).1 = .values (bits, speed) ∧
              printClock (setup.ofBits bits) =
                (atoi (text.takeWhile (· ≠ 58)), atoi ((text.dropWhile (· ≠ 58)).tail)) := by
  have hmeans : meaning strtof line = (parseTimeOfDay strtof text).map .set := by
    rw [meaning, hwords]
    rfl
  cases hparsed : parseTimeOfDay strtof text with
  | none =>
      rw [hparsed] at hmeans
      have hnone : (runCommand strtof setup.toBits gToken line answer).2 = none := by
        rw [runCommand, hwords]
        have hwhole :
            timeWords strtof setup.toBits gToken (ascii "set" :: text :: rest) = none := by
          rw [timeWords_eq]
          exact congrArg (Option.map _) (congrArg (Option.map WorldCommand.set) hparsed)
        exact hwhole
      rw [hnone] at hsent
      cases hsent
  | some timeOfDay =>
      rw [hparsed] at hmeans
      have hoffered := runCommand_meaning strtof setup.toBits gToken answer hmeans
      obtain rfl := Option.some.inj (hsent.symm.trans hoffered)
      obtain ⟨n, hn, rfl, hface⟩ := parseTimeOfDay_minutes hcolon hparsed
      refine ⟨_, onMessage_dbClient setup gToken w id (.set (n / 1440)), ?_⟩
      intro w' requestId session now hpending hlevel
      rw [WorldServer.onDbReply, DbClient.answer, hpending]
      let answered : WorldServer ℚ :=
        { w' with dbClient :=
            { w'.dbClient with mPending := w'.dbClient.mPending.erase requestId } }
      obtain ⟨payload, hserver, hread⟩ :=
        onReply_told setup answered now (.set (n / 1440)) w.arrivals.length id hlevel
      refine ⟨payload, _, _, hserver, hread, ?_⟩
      rw [set_timeOfDay setup answered now w.arrivals.length id (n / 1440) hlevel]
      have hday : (n : ℚ) / 1440 < 1 := by
        rw [div_lt_one (by norm_num)]
        exact_mod_cast hn
      have hwrapped := hclose (n / 1440) (by positivity) hday
      generalize setup.ofBits (setup.toBits ((n : ℚ) / 1440)) = wrapped at *
      have hfract : wrapped - setup.phys.floor wrapped = Int.fract wrapped := by
        rw [hfloor]
        rfl
      have hback := hclose (Int.fract wrapped) (Int.fract_nonneg _) (Int.fract_lt_one _)
      rw [hfract, ← hface]
      exact printClock_near hn hwrapped hback

/-- Times of day in sixteen bits. -/
def sixteenBits : Setup ℚ :=
  { Setup.level with
    toBits := fun x => UInt32.ofNat ⌊x * 65536⌋.toNat
    ofBits := fun bits => bits.toNat / 65536 }

theorem typed_time_shown_midnight :
    ∃ handler : Handler, ∀ (w : WorldServer ℚ) (requestId : Nat),
      w.dbClient.mPending[requestId]? = some handler →
      ∃ payload bits speed,
        (w.onDbReply sixteenBits requestId (.sessionLookup true ⟨1, [97], 1⟩) .noon).server =
            w.server.send 1 WorldMessage.adminSetTimeResponse.toU16 payload ∧
          (readTimeReply (start payload)).1 = .values (bits, speed) ∧
          printClock (sixteenBits.ofBits bits) = (23, 59) := by
  have hclose : ∀ x : ℚ, 0 ≤ x → x < 1 →
      |sixteenBits.ofBits (sixteenBits.toBits x) - x| < kClockError := by
    intro x hnonneg hlt
    have hfloor : 0 ≤ ⌊x * 65536⌋ := Int.floor_nonneg.mpr (by positivity)
    have hbound : ⌊x * 65536⌋ < 65536 := by
      apply Int.floor_lt.mpr
      push_cast
      linarith only [hlt]
    have hnat : (UInt32.ofNat ⌊x * 65536⌋.toNat).toNat = ⌊x * 65536⌋.toNat := by
      apply UInt32.toNat_ofNat_of_lt'
      have hsize : UInt32.size = 4294967296 := rfl
      omega
    have hcast : ((⌊x * 65536⌋.toNat : ℕ) : ℚ) = (⌊x * 65536⌋ : ℚ) := by
      exact_mod_cast Int.toNat_of_nonneg hfloor
    have hlow := Int.floor_le (x * 65536)
    have hhigh := Int.lt_floor_add_one (x * 65536)
    have hvalue : sixteenBits.ofBits (sixteenBits.toBits x) = (⌊x * 65536⌋ : ℚ) / 65536 := by
      rw [← hcast, ← hnat]
      rfl
    rw [hvalue, abs_lt, kClockError]
    constructor
    · linarith only [hhigh]
    · linarith only [hlow]
  have hsent : (runCommand (fun _ => none) sixteenBits.toBits [1] (ascii "time set 23:59") none).2 =
      some (timeCommand [1] .set (sixteenBits.toBits (1439 / 1440))) := by decide +kernel
  have hfloor : ∀ x : ℚ, sixteenBits.phys.floor x = ⌊x⌋ := fun x => rfl
  have hwords : words (ascii "time set 23:59") =
      ascii "time" :: ascii "set" :: ascii "23:59" :: [] := by decide +kernel
  obtain ⟨handler, -, hshown⟩ := typed_time_shown [1] hfloor hclose hwords (by decide) none hsent
    (WorldServer.init sixteenBits Clocks.noon.clock) 1
  refine ⟨handler, fun w requestId hpending => ?_⟩
  obtain ⟨payload, bits, speed, hserver, hread, hface⟩ :=
    hshown w requestId ⟨1, [97], 1⟩ .noon hpending (by decide)
  exact ⟨payload, bits, speed, hserver, hread, hface.trans (by decide +kernel)⟩

end Replies

end UntitledGame.Tools.RemoteConsole
