import UntitledGame.Server.AuthServer
import UntitledGame.Server.Console
import Mathlib.Data.Rat.Floor

/-!
# The remote console

The console that an administrator runs on another machine. A line is words between
white space, as at the terminal of the world server, and makes at most one request:
account commands go to the auth server, the others to the world server, each with the
token of the console's session. The answer to a question, the reply to a request and
what is shown of it are the rest of the program.

## Implementation notes

`std::strtof` is a parameter; `none` stands for a text that it takes nothing of. The
texts that are printed are left out, apart from the clock. `f32` is given as its bits,
and `printClock` rounds exact minutes where the program multiplies floats.
-/

namespace UntitledGame.Tools

open Net Server
open Server.Console (ascii words atoi)

/-- The server that a request is for. -/
inductive Destination where
  | auth
  | world
  deriving DecidableEq, Repr

structure Outgoing where
  destination : Destination
  message : Message
  deriving DecidableEq, Repr

/-- The values of `TimeCommand`. -/
def timeCommandToU8 : TimeCommand → UInt8
  | .set => 0
  | .speed => 1
  | .reset => 2

namespace RemoteConsole

section Requests

variable (gToken : Bytes)

/-- `login()`. -/
def login (gUser gPassword : Bytes) : Outgoing :=
  ⟨.auth, ⟨AuthMessage.loginRequest.toU16,
    ByteWriter.u32 kProtocolVersion ++ ByteWriter.string gUser ++ ByteWriter.string gPassword⟩⟩

def accountCreate (name password : Bytes) (level : UInt8) : Outgoing :=
  ⟨.auth, ⟨AuthMessage.adminAccountCreateRequest.toU16,
    ByteWriter.string gToken ++ ByteWriter.string name ++ ByteWriter.string password ++
      ByteWriter.u8 level⟩⟩

/-- The answers that a deletion is confirmed with; `none` is the end of the input. -/
def confirms (answer : Option Bytes) : Bool :=
  answer = some (ascii "y") || answer = some (ascii "Y") || answer = some (ascii "yes")

def accountDelete (name : Bytes) (assumeYes : Bool) (answer : Option Bytes) : Option Outgoing :=
  if !assumeYes && !confirms answer then none
  else
    some ⟨.auth, ⟨AuthMessage.adminAccountDeleteRequest.toU16,
      ByteWriter.string gToken ++ ByteWriter.string name⟩⟩

def accountSetLevel (name : Bytes) (level : UInt8) : Outgoing :=
  ⟨.auth, ⟨AuthMessage.adminSetLevelRequest.toU16,
    ByteWriter.string gToken ++ ByteWriter.string name ++ ByteWriter.u8 level⟩⟩

def latencyCommand (milliseconds : UInt32) : Outgoing :=
  ⟨.world, ⟨WorldMessage.adminSetLatencyRequest.toU16,
    ByteWriter.string gToken ++ ByteWriter.u32 milliseconds⟩⟩

def timeCommand (command : TimeCommand) (value : UInt32) : Outgoing :=
  ⟨.world, ⟨WorldMessage.adminSetTimeRequest.toU16,
    ByteWriter.string gToken ++ ByteWriter.u8 (timeCommandToU8 command) ++ ByteWriter.f32 value⟩⟩

def status : Outgoing :=
  ⟨.world, ⟨WorldMessage.adminStatusRequest.toU16, ByteWriter.string gToken⟩⟩

end Requests

section Lines

variable {F : Type*} [Scalar F] (strtof : Bytes → Option F) (toBits : F → UInt32) (gToken : Bytes)

/-- A time of day as `HH:MM`, or as a bare fraction. -/
def parseTimeOfDay (text : Bytes) : Option F :=
  if 58 ∉ text then
    match strtof text with
    | none => none
    | some value => if value < 0.0 || 1.0 ≤ value then none else some value
  else
    let hours := atoi (text.takeWhile (· ≠ 58))
    let minutes := atoi ((text.dropWhile (· ≠ 58)).tail)
    if hours < 0 || 23 < hours || minutes < 0 || 59 < minutes then none
    else some (((hours * 60 + minutes).toNat : F) / (24.0 * 60.0))

/-- The multiplier of `time speed`. -/
def parseSpeed (text : Bytes) : Option F :=
  match strtof text with
  | none => none
  | some speed => if speed < 0.0 then none else some speed

/-- The words behind `time`. -/
def timeWords : List Bytes → Option Outgoing
  | [] => some (status gToken)
  | verb :: rest =>
      if verb = ascii "reset" then some (timeCommand gToken .reset (toBits 0.0))
      else
        match rest with
        | [] => none
        | value :: _ =>
            if verb = ascii "set" then
              (parseTimeOfDay strtof value).map fun timeOfDay =>
                timeCommand gToken .set (toBits timeOfDay)
            else if verb = ascii "speed" then
              (parseSpeed strtof value).map fun speed => timeCommand gToken .speed (toBits speed)
            else none

/-- The words behind `latency`. -/
def latencyWords : List Bytes → Option Outgoing
  | [] => some (status gToken)
  | verb :: value :: _ =>
      if verb = ascii "set" then some (latencyCommand gToken (UInt32.ofInt (atoi value))) else none
  | _ => none

/-- The words behind `account`, with the answer to the question that a deletion asks. -/
def accountWords (answer : Option Bytes) (rest : List Bytes) : Option Outgoing :=
  let assumeYes := rest.getLast? = some (ascii "--yes")
  match rest with
  | verb :: name :: value :: more =>
      if verb = ascii "create" then
        let level : UInt8 :=
          match more with
          | [] => 0
          | digits :: _ => UInt8.ofInt (atoi digits)
        some (accountCreate gToken name value level)
      else if verb = ascii "delete" then accountDelete gToken name assumeYes answer
      else if verb = ascii "level" then
        some (accountSetLevel gToken name (UInt8.ofInt (atoi value)))
      else none
  | [verb, name] =>
      if verb = ascii "delete" then accountDelete gToken name assumeYes answer else none
  | _ => none

/-- `runCommand`: whether the console stays, and the request that the line makes. -/
def runCommand (line : Bytes) (answer : Option Bytes) : Bool × Option Outgoing :=
  match words line with
  | [] => (true, none)
  | command :: rest =>
      if command = ascii "quit" || command = ascii "exit" then (false, none)
      else if command = ascii "help" || command = ascii "?" then (true, none)
      else if command = ascii "status" then (true, some (status gToken))
      else if command = ascii "time" then (true, timeWords strtof toBits gToken rest)
      else if command = ascii "latency" then (true, latencyWords gToken rest)
      else if command = ascii "account" then (true, accountWords gToken answer rest)
      else (true, none)

end Lines

section Replies

open ByteReader

/-- What the console makes of a reply: a refusal, or the values that it shows. -/
inductive Shown (α : Type*) where
  | lacksPermission
  | sessionExpired
  | values (a : α)
  deriving DecidableEq, Repr

def shown {α : Type*} (result : UInt8) (a : α) : Shown α :=
  if result = 2 then .lacksPermission else if result ≠ 0 then .sessionExpired else .values a

def readLatencyReply : StateM ByteReader (Shown UInt32) := do
  let result ← u8
  let current ← u32
  return shown result current

/-- The time of day and the speed, as bits. -/
def readTimeReply : StateM ByteReader (Shown (UInt32 × UInt32)) := do
  let result ← u8
  let now ← f32
  let speed ← f32
  return shown result (now, speed)

/-- What a status response says. -/
structure StatusLine where
  timeOfDay : UInt32
  speed : UInt32
  players : UInt16
  tick : UInt32
  latencyMs : UInt32
  deriving DecidableEq, Repr

def readStatusReply : StateM ByteReader (Shown StatusLine) := do
  let result ← u8
  let timeOfDay ← f32
  let speed ← f32
  let players ← u16
  let tick ← u32
  let latencyMs ← u32
  return shown result ⟨timeOfDay, speed, players, tick, latencyMs⟩

/-- A conversion to `int` cuts off the fraction. -/
def truncated (x : ℚ) : Int := if 0 ≤ x then ⌊x⌋ else ⌈x⌉

/-- The hours and the minutes that `printClock` shows. -/
def printClock (timeOfDay : ℚ) : Int × Int :=
  let minutes := (truncated (timeOfDay * 24 * 60 + 1 / 2)).tmod (24 * 60)
  (minutes.tdiv 60, minutes.tmod 60)

end Replies

end RemoteConsole

end UntitledGame.Tools
