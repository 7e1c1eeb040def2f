import UntitledGame.Server.AuthServer
import UntitledGame.Server.WorldServer

/-!
# Both servers against the database

The auth server and the world server run side by side; each has a link of its own
to the database server, which handles the requests of a link in order. An event is
a step of one server, one request handled, or one reply delivered, so every
relative order of client messages, requests and replies is a list of events.

When a link drops, the replies on it are lost. The requests on it may have reached
the database server all the same, which then handles them at any later time; they
are kept as `stale`.

## Implementation notes

`lookups` records every session lookup that found a session, with the number of
the message that caused it. No step reads it.
-/

namespace UntitledGame.Server

open Net Sim

inductive Side where
  | auth
  | world
  deriving DecidableEq, Repr

/-- A lookup that found a session, and the message that it was made for. -/
structure Lookup where
  side : Side
  request : Nat
  token : Bytes
  session : Session
  deriving DecidableEq, Repr

structure Backend (F : Type*) where
  auth : AuthServer
  world : WorldServer F
  database : Database
  authReplies : List (Nat × DbReply)
  worldReplies : List (Nat × DbReply)
  authStale : List Request
  worldStale : List Request
  lookups : List Lookup

/-- The parameters of the three programs. -/
structure Deployment (F : Type*) where
  auth : AuthSetup
  world : Setup F
  lower : Bytes → Bytes

/-- Work that does not come over the link. -/
def AuthServer.Event.isLocal : AuthServer.Event → Bool
  | .reply _ _ _ => false
  | .dbLost _ => false
  | _ => true

def WorldServer.Event.isLocal {F : Type*} : WorldServer.Event F → Bool
  | .reply _ _ _ => false
  | .dbLost _ => false
  | _ => true

namespace Backend

variable {F : Type*} [Scalar F] (deployment : Deployment F)

def init (database : Database) (now : ClockReading F) : Backend F where
  auth := AuthServer.init
  world := WorldServer.init deployment.world now
  database := database
  authReplies := []
  worldReplies := []
  authStale := []
  worldStale := []
  lookups := []

/-- What a handled request adds to the record of lookups. -/
def found (side : Side) (r : Request) (reply : DbReply) : List Lookup :=
  match r.body, reply with
  | .sessionLookup token, .sessionLookup true session => [⟨side, r.origin, token, session⟩]
  | _, _ => []

/-- The database server handles a request. -/
def serve (s : Backend F) (side : Side) (r : Request) (now : ℚ) (o : Outcome) : Backend F × DbReply :=
  let (database, reply) := DbServer.handle deployment.lower s.database now o r.body
  ({ s with database := database, lookups := s.lookups ++ found side r reply }, reply)

/-- The database server handles the next request of a link. -/
def handle (s : Backend F) (side : Side) (now : ℚ) (o : Outcome) : Backend F :=
  match side with
  | .auth =>
      match s.auth.dbClient.requests with
      | [] => s
      | r :: rest =>
          let (s, reply) := s.serve deployment .auth r now o
          { s with
            auth := { s.auth with dbClient := { s.auth.dbClient with requests := rest } }
            authReplies := s.authReplies ++ [(r.id, reply)] }
  | .world =>
      match s.world.dbClient.requests with
      | [] => s
      | r :: rest =>
          let (s, reply) := s.serve deployment .world r now o
          { s with
            world := { s.world with dbClient := { s.world.dbClient with requests := rest } }
            worldReplies := s.worldReplies ++ [(r.id, reply)] }

/-- A request from before a drop is handled; nobody waits for the reply. -/
def handleStale (s : Backend F) (side : Side) (k : Nat) (now : ℚ) (o : Outcome) : Backend F :=
  match side with
  | .auth =>
      match s.authStale[k]? with
      | none => s
      | some r =>
          let (s, _) := s.serve deployment .auth r now o
          { s with authStale := s.authStale.eraseIdx k }
  | .world =>
      match s.worldStale[k]? with
      | none => s
      | some r =>
          let (s, _) := s.serve deployment .world r now o
          { s with worldStale := s.worldStale.eraseIdx k }

inductive Event (F : Type*) where
  | auth (e : AuthServer.Event)
  | world (e : WorldServer.Event F)
  | handle (side : Side) (now : ℚ) (o : Outcome)
  | handleStale (side : Side) (k : Nat) (now : ℚ) (o : Outcome)
  | authReply (random : Entropy)
  | worldReply (now : Clocks F)
  | authLost (random : Entropy)
  | worldLost (now : Clocks F)
  | purge (now : ℚ) (runs : Bool)
  deriving DecidableEq, Repr

def step (s : Backend F) : Event F → Backend F
  | .auth e => if e.isLocal then { s with auth := s.auth.step deployment.auth e } else s
  | .world e => if e.isLocal then { s with world := s.world.step deployment.world e } else s
  | .handle side now o => s.handle deployment side now o
  | .handleStale side k now o => s.handleStale deployment side k now o
  | .authReply random =>
      match s.authReplies with
      | [] => s
      | (requestId, reply) :: rest =>
          { s with
            auth := s.auth.step deployment.auth (.reply requestId reply random)
            authReplies := rest }
  | .worldReply now =>
      match s.worldReplies with
      | [] => s
      | (requestId, reply) :: rest =>
          { s with
            world := s.world.step deployment.world (.reply requestId reply now)
            worldReplies := rest }
  | .authLost random =>
      { s with
        auth := s.auth.step deployment.auth (.dbLost random)
        authReplies := []
        authStale := s.authStale ++ s.auth.dbClient.requests }
  | .worldLost now =>
      { s with
        world := s.world.step deployment.world (.dbLost now)
        worldReplies := []
        worldStale := s.worldStale ++ s.world.dbClient.requests }
  | .purge now runs => { s with database := s.database.purgeExpiredSessions now runs }

def run (database : Database) (now : ClockReading F) (events : List (Event F)) : Backend F :=
  Lib.Runs.run (step deployment) (init deployment database now) events

/-- The request that an event has the database handle, and its link. -/
def handled (s : Backend F) : Event F → Option (Side × Request)
  | .handle .auth _ _ => s.auth.dbClient.requests.head?.map (.auth, ·)
  | .handle .world _ _ => s.world.dbClient.requests.head?.map (.world, ·)
  | .handleStale .auth k _ _ => s.authStale[k]?.map (.auth, ·)
  | .handleStale .world k _ _ => s.worldStale[k]?.map (.world, ·)
  | _ => none

/-- What a link still holds, old and new. -/
def outstanding (s : Backend F) : Side → List Request
  | .auth => s.auth.dbClient.requests ++ s.authStale
  | .world => s.world.dbClient.requests ++ s.worldStale

omit [Scalar F] in
theorem mem_of_handled {s : Backend F} {e : Event F} {side : Side} {r : Request}
    (h : handled s e = some (side, r)) : r ∈ outstanding s side := by
  have hhead : ∀ {requests : List Request} {at' : Side},
      requests.head?.map (at', ·) = some (side, r) → at' = side ∧ r ∈ requests := by
    intro requests at' heq
    obtain ⟨q, hq, heq⟩ := Option.map_eq_some_iff.mp heq
    cases heq
    exact ⟨rfl, List.mem_of_head? hq⟩
  have hindex : ∀ {requests : List Request} {k : Nat} {at' : Side},
      requests[k]?.map (at', ·) = some (side, r) → at' = side ∧ r ∈ requests := by
    intro requests k at' heq
    obtain ⟨q, hq, heq⟩ := Option.map_eq_some_iff.mp heq
    cases heq
    exact ⟨rfl, List.mem_of_getElem? hq⟩
  rw [handled.eq_def] at h
  split at h
  · obtain ⟨rfl, hr⟩ := hhead h
    exact List.mem_append_left _ hr
  · obtain ⟨rfl, hr⟩ := hhead h
    exact List.mem_append_left _ hr
  · obtain ⟨rfl, hr⟩ := hindex h
    exact List.mem_append_right _ hr
  · obtain ⟨rfl, hr⟩ := hindex h
    exact List.mem_append_right _ hr
  · cases h

/-- What an event can do, with the guard that lets it. -/
inductive Effect (s : Backend F) : Event F → Backend F → Prop
  | idle (e : Event F) : Effect s e s
  | auth {e : AuthServer.Event} (hlocal : e.isLocal = true) :
      Effect s (.auth e) { s with auth := s.auth.step deployment.auth e }
  | world {e : WorldServer.Event F} (hlocal : e.isLocal = true) :
      Effect s (.world e) { s with world := s.world.step deployment.world e }
  | authHandled {r : Request} {rest : List Request} (now : ℚ) (o : Outcome)
      (hrequests : s.auth.dbClient.requests = r :: rest)
      (hhandled : handled s (.handle .auth now o) = some (.auth, r)) :
      Effect s (.handle .auth now o)
        { (s.serve deployment .auth r now o).1 with
          auth := { s.auth with dbClient := { s.auth.dbClient with requests := rest } }
          authReplies := s.authReplies ++ [(r.id, (s.serve deployment .auth r now o).2)] }
  | worldHandled {r : Request} {rest : List Request} (now : ℚ) (o : Outcome)
      (hrequests : s.world.dbClient.requests = r :: rest)
      (hhandled : handled s (.handle .world now o) = some (.world, r)) :
      Effect s (.handle .world now o)
        { (s.serve deployment .world r now o).1 with
          world := { s.world with dbClient := { s.world.dbClient with requests := rest } }
          worldReplies := s.worldReplies ++ [(r.id, (s.serve deployment .world r now o).2)] }
  | authStale {r : Request} (k : Nat) (now : ℚ) (o : Outcome)
      (hhandled : handled s (.handleStale .auth k now o) = some (.auth, r)) :
      Effect s (.handleStale .auth k now o)
        { (s.serve deployment .auth r now o).1 with authStale := s.authStale.eraseIdx k }
  | worldStale {r : Request} (k : Nat) (now : ℚ) (o : Outcome)
      (hhandled : handled s (.handleStale .world k now o) = some (.world, r)) :
      Effect s (.handleStale .world k now o)
        { (s.serve deployment .world r now o).1 with worldStale := s.worldStale.eraseIdx k }
  | authReply {requestId : Nat} {reply : DbReply} {rest : List (Nat × DbReply)} (random : Entropy)
      (hreplies : s.authReplies = (requestId, reply) :: rest) :
      Effect s (.authReply random)
        { s with
          auth := s.auth.step deployment.auth (.reply requestId reply random)
          authReplies := rest }
  | worldReply {requestId : Nat} {reply : DbReply} {rest : List (Nat × DbReply)} (now : Clocks F)
      (hreplies : s.worldReplies = (requestId, reply) :: rest) :
      Effect s (.worldReply now)
        { s with
          world := s.world.step deployment.world (.reply requestId reply now)
          worldReplies := rest }
  | authLost (random : Entropy) :
      Effect s (.authLost random)
        { s with
          auth := s.auth.step deployment.auth (.dbLost random)
          authReplies := []
          authStale := s.authStale ++ s.auth.dbClient.requests }
  | worldLost (now : Clocks F) :
      Effect s (.worldLost now)
        { s with
          world := s.world.step deployment.world (.dbLost now)
          worldReplies := []
          worldStale := s.worldStale ++ s.world.dbClient.requests }
  | purge (now : ℚ) (runs : Bool) :
      Effect s (.purge now runs) { s with database := s.database.purgeExpiredSessions now runs }

theorem handle_effect (s : Backend F) (side : Side) (now : ℚ) (o : Outcome) :
    Effect deployment s (.handle side now o) (s.handle deployment side now o) := by
  cases side with
  | auth =>
      cases hrequests : s.auth.dbClient.requests with
      | nil =>
          simp only [handle, hrequests]
          exact .idle _
      | cons r rest =>
          simp only [handle, hrequests]
          apply Effect.authHandled now o hrequests
          simp only [handled, hrequests, List.head?_cons, Option.map_some]
  | world =>
      cases hrequests : s.world.dbClient.requests with
      | nil =>
          simp only [handle, hrequests]
          exact .idle _
      | cons r rest =>
          simp only [handle, hrequests]
          apply Effect.worldHandled now o hrequests
          simp only [handled, hrequests, List.head?_cons, Option.map_some]

theorem handleStale_effect (s : Backend F) (side : Side) (k : Nat) (now : ℚ) (o : Outcome) :
    Effect deployment s (.handleStale side k now o) (s.handleStale deployment side k now o) := by
  cases side with
  | auth =>
      cases hr : s.authStale[k]? with
      | none =>
          simp only [handleStale, hr]
          exact .idle _
      | some r =>
          simp only [handleStale, hr]
          apply Effect.authStale k now o
          simp only [handled, hr, Option.map_some]
  | world =>
      cases hr : s.worldStale[k]? with
      | none =>
          simp only [handleStale, hr]
          exact .idle _
      | some r =>
          simp only [handleStale, hr]
          apply Effect.worldStale k now o
          simp only [handled, hr, Option.map_some]

theorem step_effect (s : Backend F) (e : Event F) : Effect deployment s e (s.step deployment e) := by
  cases e with
  | auth e =>
      rw [step]
      split
      · rename_i hlocal
        exact .auth hlocal
      · exact .idle _
  | world e =>
      rw [step]
      split
      · rename_i hlocal
        exact .world hlocal
      · exact .idle _
  | handle side now o => exact handle_effect deployment s side now o
  | handleStale side k now o => exact handleStale_effect deployment s side k now o
  | authReply random =>
      rw [step]
      split
      · exact .idle _
      · rename_i hreplies
        exact .authReply random hreplies
  | worldReply now =>
      rw [step]
      split
      · exact .idle _
      · rename_i hreplies
        exact .worldReply now hreplies
  | authLost random => exact .authLost random
  | worldLost now => exact .worldLost now
  | purge now runs => exact .purge now runs

/-- The database changes by what it makes of the handled request, by a purge, or not at all. -/
theorem step_database (s : Backend F) (e : Event F) :
    (∃ side r now o, handled s e = some (side, r) ∧
        (s.step deployment e).database =
          (DbServer.handle deployment.lower s.database now o r.body).1) ∨
      (∃ now runs, (s.step deployment e).database = s.database.purgeExpiredSessions now runs) ∨
      (s.step deployment e).database = s.database := by
  have heffect := step_effect deployment s e
  generalize s.step deployment e = s' at heffect ⊢
  cases heffect with
  | authHandled now o _ hhandled => exact Or.inl ⟨_, _, now, o, hhandled, rfl⟩
  | worldHandled now o _ hhandled => exact Or.inl ⟨_, _, now, o, hhandled, rfl⟩
  | authStale k now o hhandled => exact Or.inl ⟨_, _, now, o, hhandled, rfl⟩
  | worldStale k now o hhandled => exact Or.inl ⟨_, _, now, o, hhandled, rfl⟩
  | purge now runs => exact Or.inr (Or.inl ⟨now, runs, rfl⟩)
  | _ => exact Or.inr (Or.inr rfl)

end Backend

/-- Passwords in the clear, and names compared as they are. -/
def Deployment.level : Deployment ℚ where
  auth := ⟨fun passwordHash password => passwordHash = password, [], 7002, 120⟩
  world := .level
  lower := id

end UntitledGame.Server
