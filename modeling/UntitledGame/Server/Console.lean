import UntitledGame.Server.Backend
import UntitledGame.Server.DbMessages

/-!
# The console of the world server

`runConsoleCommand` on a line of text. A line is words between white space, and the
account commands go to the database over the link of the world server, next to its
session lookups. What the commands print is left out; their callbacks do no more
than print, so they are registered as the one callback that does nothing.

An event is an event of the two servers or a line at the console.

## Implementation notes

`std::atof` is a parameter, and so is what `crypto_pwhash_str` makes of the password
of a line. The strings of a request are cut off where the writer cuts them off.
-/

namespace UntitledGame.Server.Console

open Net Sim

section Text

/-- `isspace`. -/
def isSpace (c : UInt8) : Bool := c = 32 || (9 ≤ c && c ≤ 13)

def isDigit (c : UInt8) : Bool := 48 ≤ c && c ≤ 57

/-- A word of the source. -/
def ascii (s : String) : Bytes := s.toList.map fun c => UInt8.ofNat c.toNat

/-- `while (stream >> word)`. -/
def words (line : Bytes) : List Bytes := (line.splitOnP isSpace).filter fun word => !word.isEmpty

/-- The sign and the digits of a number. -/
def signed (text : Bytes) : Bool × Bytes :=
  match text.dropWhile isSpace with
  | 45 :: digits => (true, digits)
  | 43 :: digits => (false, digits)
  | digits => (false, digits)

/-- `std::strtol` in base ten: what is out of range goes to the end of the range. -/
def strtol (text : Bytes) : Int :=
  let (negative, digits) := signed text
  let magnitude : Int := (digits.takeWhile isDigit).foldl (fun n c => 10 * n + (c.toNat - 48)) 0
  if negative then max (-magnitude) (-2 ^ 63) else min magnitude (2 ^ 63 - 1)

/-- `std::atoi`, which is `strtol` cast to an `int`. -/
def atoi (text : Bytes) : Int := (Int32.ofInt (strtol text)).toInt

end Text

variable {F : Type*} [Scalar F]

section Commands

variable (atof : Bytes → F) (setup : Setup F) (w : WorldServer F)

/-- A request of the console. -/
def request (body : DbRequest) : WorldServer F :=
  { w with dbClient :=
      w.dbClient.call w.arrivals.length body.arrived (.sessionDeleted w.arrivals.length) }

/-- `account create`: the level is that of a player unless one is given. -/
def createAccount (hashed : Option Bytes) (name password : Bytes) (rest : List Bytes) :
    WorldServer F :=
  let level : UInt8 :=
    match rest with
    | [] => 0
    | digits :: _ => UInt8.ofInt (atoi digits)
  if password.length < 6 then w
  else
    match hashed with
    | none => w
    | some hash => request w (.accountCreateWithLevel name hash level)

/-- `account level`. -/
def setLevel (name digits : Bytes) : WorldServer F :=
  let level := UInt8.ofInt (atoi digits)
  if PermissionLevel.admin.toU8 < level then w else request w (.accountSetLevel name level)

/-- The words behind `account`. -/
def accountCommand (hashed : Option Bytes) : List Bytes → WorldServer F
  | verb :: name :: value :: rest =>
      if verb = ascii "create" then createAccount w hashed name value rest
      else if verb = ascii "delete" then request w (.accountDelete name)
      else if verb = ascii "level" then setLevel w name value
      else w
  | [verb, name] => if verb = ascii "delete" then request w (.accountDelete name) else w
  | _ => w

/-- The words behind `latency`. -/
def latencyCommand : List Bytes → WorldServer F
  | verb :: value :: _ =>
      if verb = ascii "set" then
        { w with simulatedLatencyMs := min (UInt32.ofInt (atoi value)) 2000 }
      else w
  | _ => w

/-- `time set`, with the time of day in hours and minutes. -/
def setClock (text : Bytes) (now : ClockReading F) : WorldServer F :=
  if 58 ∉ text then w
  else
    let hours := atoi (text.takeWhile (· ≠ 58))
    let mins := atoi ((text.dropWhile (· ≠ 58)).tail)
    if hours < 0 || 23 < hours || mins < 0 || 59 < mins then w
    else
      let timeOfDay : F := ((hours * 60 + mins).toNat : F) / (24.0 * 60.0)
      { w with simulation := w.simulation.setTimeOfDay setup.phys timeOfDay now }

/-- The words behind `time`. -/
def timeCommand (now : ClockReading F) : List Bytes → WorldServer F
  | [] => w
  | verb :: rest =>
      if verb = ascii "reset" then { w with simulation := w.simulation.resetClock now }
      else
        match rest with
        | [] => w
        | value :: _ =>
            if verb = ascii "set" then setClock setup w value now
            else if verb = ascii "speed" then
              let speed := WorldServer.clamp (atof value) 0.0 20000.0
              { w with simulation := w.simulation.setTimeSpeed speed now }
            else w

/-- `runConsoleCommand`; the other commands print, and so does a line that is not a command. -/
def runConsoleCommand (line : Bytes) (hashed : Option Bytes) (now : ClockReading F) :
    WorldServer F :=
  match words line with
  | [] => w
  | command :: rest =>
      if command = ascii "latency" then latencyCommand w rest
      else if command = ascii "time" then timeCommand atof setup w now rest
      else if command = ascii "account" then accountCommand w hashed rest
      else w

end Commands

inductive Event (F : Type*) where
  | backend (e : Backend.Event F)
  | line (text : Bytes) (hashed : Option Bytes) (now : ClockReading F)
  deriving DecidableEq, Repr

variable (deployment : Deployment F) (atof : Bytes → F)

def step (s : Backend F) : Event F → Backend F
  | .backend e => s.step deployment e
  | .line text hashed now =>
      { s with world := runConsoleCommand atof deployment.world s.world text hashed now }

def run (database : Database) (now : ClockReading F) (events : List (Event F)) : Backend F :=
  Lib.Runs.run (step deployment atof) (Backend.init deployment database now) events

section Requests

variable {w : WorldServer F} {r : Request}

/-- The account commands check a level that they set, and nothing else. -/
inductive Typed : DbRequest → Prop
  | create (name passwordHash : Bytes) (level : UInt8) :
      Typed (.accountCreateWithLevel name passwordHash level)
  | delete (name : Bytes) : Typed (.accountDelete name)
  | setLevel (name : Bytes) {level : UInt8} (hlevel : level ≤ PermissionLevel.admin.toU8) :
      Typed (.accountSetLevel name level)

omit [Scalar F] in
theorem mem_request {body : DbRequest} (h : r ∈ (request w body).dbClient.requests) :
    r ∈ w.dbClient.requests ∨ r.body = body.arrived := by
  cases List.mem_append.mp h with
  | inl hold => exact Or.inl hold
  | inr hnew =>
      rw [List.mem_singleton.mp hnew]
      exact Or.inr rfl

omit [Scalar F] in
theorem accountCommand_requests (hashed : Option Bytes) (rest : List Bytes)
    (h : r ∈ (accountCommand w hashed rest).dbClient.requests) :
    r ∈ w.dbClient.requests ∨ Typed r.body := by
  have hdelete : ∀ name, r ∈ (request w (.accountDelete name)).dbClient.requests →
      r ∈ w.dbClient.requests ∨ Typed r.body := by
    intro name hmem
    refine (mem_request hmem).imp_right fun hbody => ?_
    rw [hbody]
    exact .delete _
  rw [accountCommand.eq_def] at h
  split at h
  · split at h
    · simp only [createAccount] at h
      split at h
      · exact Or.inl h
      · split at h
        · exact Or.inl h
        · refine (mem_request h).imp_right fun hbody => ?_
          rw [hbody]
          exact .create _ _ _
    · split at h
      · exact hdelete _ h
      · split at h
        · simp only [setLevel] at h
          split at h
          · exact Or.inl h
          · rename_i hlevel
            refine (mem_request h).imp_right fun hbody => ?_
            rw [hbody]
            exact .setLevel _ (UInt8.not_lt.mp hlevel)
        · exact Or.inl h
  · split at h
    · exact hdelete _ h
    · exact Or.inl h
  · exact Or.inl h

theorem timeCommand_requests (atof : Bytes → F) (setup : Setup F) (now : ClockReading F)
    (rest : List Bytes) :
    (timeCommand atof setup w now rest).dbClient = w.dbClient := by
  have hclock : ∀ text, (setClock setup w text now).dbClient = w.dbClient := by
    intro text
    rw [setClock]
    dsimp only
    split
    · rfl
    · split <;> rfl
  rw [timeCommand.eq_def]
  split
  · rfl
  · split
    · rfl
    · split
      · rfl
      · split
        · exact hclock _
        · split <;> rfl

/-- A line asks for nothing that an account command does not. -/
theorem runConsoleCommand_requests (atof : Bytes → F) (setup : Setup F) (line : Bytes)
    (hashed : Option Bytes) (now : ClockReading F)
    (h : r ∈ (runConsoleCommand atof setup w line hashed now).dbClient.requests) :
    r ∈ w.dbClient.requests ∨ Typed r.body := by
  rw [runConsoleCommand] at h
  split at h
  · exact Or.inl h
  · split at h
    · rw [latencyCommand.eq_def] at h
      split at h
      · split at h
        · exact Or.inl h
        · exact Or.inl h
      · exact Or.inl h
    · split at h
      · rw [timeCommand_requests] at h
        exact Or.inl h
      · split at h
        · exact accountCommand_requests hashed _ h
        · exact Or.inl h

end Requests

end UntitledGame.Server.Console
