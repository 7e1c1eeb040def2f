import UntitledGame.Net.Reader
import UntitledGame.Server.RpcClient

/-!
# `serverutil::DbClient` and its socket

`RpcClient` has the requests and the handlers; here are the bytes next to it. A
method writes its request into the stream and flushes it; `poll` pumps the
stream, and hands out the messages that are complete, or fails all handlers.

As in `SocketServer`, a callback may call the client again, so a call of `poll`
that is handing out messages is counted in `polls`, and what its callbacks do is
what the environment does before it goes on.

## Implementation notes

`received`, `handed` and `failures` only record what happened: the bytes that the
socket has handed over, the messages that `next` has popped since the connection
was made, and what both were when a connection was given up.
-/

namespace UntitledGame.Server

open Net

structure DbSocket where
  client : RpcClient
  stream : MessageStream
  polls : Nat
  received : Bytes
  handed : List Message
  failures : List (Bytes × List Message)

namespace DbSocket

def init : DbSocket := ⟨.init, .fresh, 0, [], [], []⟩

inductive Event where
  | call (body : DbRequest) (outcomes : List Send)
  | connect (up : Bool)
  | poll (arriving : Bytes) (receives : List Receive)
  | next
  deriving DecidableEq, Repr

/-- `mConnected`, with a stream. -/
def connected (s : DbSocket) : Bool := s.client.mConnected && s.client.mStream.isSome

/-- The message that a method writes. -/
def request (s : DbSocket) (body : DbRequest) : Message :=
  ⟨body.type.toU16, body.payload s.client.mNextRequestId⟩

/-- A method. Without a connection it only invokes its callback. -/
def call (s : DbSocket) (body : DbRequest) (outcomes : List Send) : DbSocket :=
  { s with
    client := RpcClient.act (.call body []) s.client
    stream :=
      if s.connected then (s.stream.send (s.request body) [] outcomes).1 else s.stream }

/-- A new connection has a stream of its own. -/
def connect (s : DbSocket) (up : Bool) : DbSocket :=
  if up then
    { s with client := s.client.connect up, stream := .fresh, received := [], handed := [] }
  else s

/-- `poll`, up to its loop. -/
def poll (s : DbSocket) (arriving : Bytes) (receives : List Receive) : DbSocket :=
  if s.connected then
    let (stream, _, open_) := s.stream.pump arriving receives
    let s := { s with
      stream := stream, received := s.received ++ Reader.pumped s.stream arriving receives }
    if open_ then { s with polls := s.polls + 1 }
    else
      { s with
        client := s.client.poll (.failed fun _ => [])
        failures := s.failures ++ [(s.received, s.handed)] }
  else s

/-- One turn of the loop of `poll`. -/
def next (s : DbSocket) : DbSocket :=
  if s.polls = 0 then s
  else
    match s.stream.next with
    | none => { s with polls := s.polls - 1 }
    | some (m, stream) =>
        { s with stream := stream, handed := s.handed ++ [m], client := s.client.receive m [] }

def step (s : DbSocket) : Event → DbSocket
  | .call body outcomes => s.call body outcomes
  | .connect up => s.connect up
  | .poll arriving receives => s.poll arriving receives
  | .next => s.next

def run (events : List Event) : DbSocket := Lib.Runs.run step init events

theorem run_append (before events : List Event) :
    run (before ++ events) = Lib.Runs.run step (run before) events :=
  Lib.Runs.run_append step init before events

end DbSocket

end UntitledGame.Server
