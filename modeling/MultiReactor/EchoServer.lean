/-
This file models the blocking echo servers' service of one client, and the
iterative server (echo_server.cpp) around it. The loop that receives and sends
is the same in `echo_server`, `echo_server_fork` and `echo_server_pthread` but
for the room it gives `recv`. A step is a test or a system call with what
follows it; what the calls return is the environment's. `send` is called without
MSG_NOSIGNAL, and SIGPIPE is taken to be ignored: where it is not, a `send` that
would fail with EPIPE ends the process, and the run ends there. The file then
proves that the loop is a relay that a failed `recv` ends and a failed `send` does
not, and that the iterative server serves one client at a time and closes each
before the next.
-/

import MultiReactor.BufferServer
import MultiReactor.Relay

namespace MultiReactor

open Transition

/-! ### Serving a client -/

/-- Where a thread stands in the loop that serves a client. -/
inductive ServePlace (Byte : Type) where
  | recv
  /-- at `while(total_sent < recv_len)`, with what is left of `buffer` -/
  | send (rest : List Byte)
  /-- at `close(client_fd)` -/
  | close
  | done
  deriving DecidableEq

def ServePlace.isDone {Byte : Type} : ServePlace Byte → Bool
  | .done => true
  | .recv | .send _ | .close => false

/-- What the next system call of the loop returns. -/
inductive ServeInput (Byte : Type) where
  /-- no call is made, or its result is not looked at -/
  | none
  | recv (bytes : List Byte)
  | send (sent : Nat)
  | fails (errno : Nat)
  deriving DecidableEq

/-- A client being served: where the loop stands, and the calls made on the connection. -/
structure Serving (Byte : Type) where
  place : ServePlace Byte
  calls : List (Relay.Call Byte Nat)
  deriving DecidableEq

section Serving

variable {Byte : Type}

def Serving.new : Serving Byte :=
  { place := .recv, calls := [] }

/-- A call has been made, and the loop goes on. -/
def Serving.makes (serving : Serving Byte) (call : Relay.Call Byte Nat) (place : ServePlace Byte) :
    Serving Byte :=
  { place := place, calls := serving.calls ++ [call] }

/-- `recv`, with room for so many bytes. An error is the end, and so is no byte at all. -/
def Serving.recv (room : Nat) (serving : Serving Byte) : ServeInput Byte → Option (Serving Byte)
  | .recv bytes =>
    if bytes.length ≤ room then
      some (serving.makes (.read bytes) (if bytes = [] then .close else .send bytes))
    else none
  | .fails errno => some (serving.makes (.readFails errno) .close)
  | _ => none

/-- `send` of what is left. An error breaks the inner loop only. -/
def Serving.send (serving : Serving Byte) (rest : List Byte) :
    ServeInput Byte → Option (Serving Byte)
  | .send sent =>
    if sent ≤ rest.length then
      some (serving.makes (.write (rest.take sent)) (.send (rest.drop sent)))
    else none
  | .fails errno => some (serving.makes (.writeFails errno) .recv)
  | _ => none

/-- The loop moves on. -/
def Serving.step (room : Nat) (serving : Serving Byte) (input : ServeInput Byte) :
    Option (Serving Byte) :=
  match serving.place with
  | .recv => serving.recv room input
  | .send rest =>
    if rest = [] then some { serving with place := .recv } else serving.send rest input
  | .close => some (serving.makes .close .done)
  | .done => none

/-! ### It is a relay -/

/-- A failed `recv` ends the service of a client, a failed `send` does not. -/
def blocking : Relay.Policy Nat :=
  { readEnds := fun _ => true, writeEnds := fun _ => false }

/-- The place of the relay the loop is. -/
def ServePlace.relay : ServePlace Byte → Relay.Place Byte
  | .recv => .reading
  | .send rest => .holding rest
  | .close => .ending
  | .done => .closed

/-- What is left of the chunk in `buffer`. -/
def ServePlace.rest : ServePlace Byte → List Byte
  | .send rest => rest
  | .recv | .close | .done => []

/-- What the calls on a connection amount to: what has been sent, and what is left of `buffer`,
comes out of what was received in the same order, and is all of it as long as no `send` has failed;
the connection is closed at the end, once, and not used after. -/
structure Serving.Echoes (serving : Serving Byte) : Prop where
  ordered : (Relay.accepted serving.calls ++ serving.place.rest).Sublist
    (Relay.received serving.calls)
  faithful : (∀ errno, .writeFails errno ∉ serving.calls) →
    Relay.accepted serving.calls ++ serving.place.rest = Relay.received serving.calls
  closes : .close ∈ serving.calls ↔ serving.place.isDone = true
  last : .close ∉ serving.calls.dropLast

/-- The calls made so far are those of a relay that stands where the loop does. -/
def Serving.Relays (serving : Serving Byte) : Prop :=
  Relay.Run blocking .reading serving.calls serving.place.relay

theorem relays_new : (Serving.new : Serving Byte).Relays :=
  .start

theorem ServePlace.relay_rest (place : ServePlace Byte) : place.relay.rest = place.rest := by
  cases place with
  | send rest => exact Relay.rest_holding rest
  | _ => rfl

theorem ServePlace.relay_closed (place : ServePlace Byte) :
    place.relay = .closed ↔ place.isDone = true := by
  cases place with
  | send rest => cases rest <;> simp [ServePlace.relay, Relay.Place.holding, ServePlace.isDone]
  | _ => simp [ServePlace.relay, ServePlace.isDone]

/-- What holds of relays holds of the loop. -/
theorem Serving.Relays.echoes {serving : Serving Byte} (relays : serving.Relays) :
    serving.Echoes where
  ordered := serving.place.relay_rest ▸ Relay.Run.ordered relays rfl
  faithful succeeds := serving.place.relay_rest ▸ Relay.Run.faithful relays rfl succeeds
  closes := by
    rw [Relay.Run.close_mem_iff relays (fun same => by cases same), serving.place.relay_closed]
  last := Relay.Run.close_last relays fun same => by cases same

theorem holding_of_ne_nil {rest : List Byte} (pending : rest ≠ []) :
    Relay.Place.holding rest = .writing rest := by
  cases rest with
  | nil => exact absurd rfl pending
  | cons => rfl

section Steps

variable {room : Nat} {serving after : Serving Byte} {input : ServeInput Byte}

/-- The loop goes on as a relay by a call a relay makes. -/
theorem Serving.Relays.makes (relays : serving.Relays) {call : Relay.Call Byte Nat}
    {place : ServePlace Byte} (step : Relay.Step blocking serving.place.relay call place.relay) :
    (serving.makes call place).Relays :=
  Relay.Run.next relays step

theorem Serving.Relays.recv (relays : serving.Relays) (place : serving.place = .recv)
    (step : serving.recv room input = some after) : after.Relays := by
  unfold Serving.recv at step
  split at step
  · rename_i bytes
    split at step
    · cases step
      refine relays.makes ?_
      rw [place]
      split
      · rename_i ended
        rw [ended]
        exact .ends
      · rename_i nonempty
        show Relay.Step blocking .reading (.read bytes) (.holding bytes)
        rw [holding_of_ne_nil nonempty]
        exact .reads bytes nonempty
    · cases step
  · cases step
    refine relays.makes ?_
    rw [place]
    exact .readFails _
  · cases step

theorem Serving.Relays.send (relays : serving.Relays) {rest : List Byte}
    (place : serving.place = .send rest) (pending : rest ≠ [])
    (step : serving.send rest input = some after) : after.Relays := by
  have here : serving.place.relay = .writing rest := by
    rw [place]
    exact holding_of_ne_nil pending
  unfold Serving.send at step
  split at step
  · rename_i sent
    split at step
    · cases step
      refine relays.makes ?_
      have writes : Relay.Step blocking _ _ _ := .writes (rest.take sent) (rest.drop sent)
      rw [List.take_append_drop] at writes
      exact here ▸ writes
    · cases step
  · cases step
    exact relays.makes (here ▸ .writeFails rest _)
  · cases step

/-- The loop goes on being a relay. -/
theorem Serving.Relays.step (relays : serving.Relays)
    (step : serving.step room input = some after) : after.Relays := by
  unfold Serving.step at step
  split at step
  · rename_i place
    exact relays.recv place step
  · rename_i rest place
    split at step
    · rename_i sent
      cases step
      unfold Serving.Relays at relays
      rw [place, sent] at relays
      exact relays
    · rename_i pending
      exact relays.send place pending step
  · rename_i place
    cases step
    exact relays.makes (place ▸ .closes)
  · cases step

end Steps

end Serving

/-! ### The iterative server -/

/-- Where `main` of echo_server stands. -/
inductive EchoPlace (Byte : Type) where
  /-- at `while(running)` -/
  | loop
  | accept
  /-- in the loop that serves the client with this fd -/
  | serve (client_fd : Nat) (serving : Serving Byte)
  | stopped

/-- What happens next: `accept` returns, `main` moves on elsewhere, or the signal handler runs. -/
inductive EchoEvent (Byte : Type) where
  | accept (client_fd : Option Nat)
  | main (input : ServeInput Byte)
  | handle_sigint
  deriving DecidableEq

/-- `past` are the clients that have been served. -/
structure EchoServer (Byte : Type) where
  running : Bool
  place : EchoPlace Byte
  openFds : Nat → Bool
  past : List (Serving Byte)

section EchoServer

variable {Byte : Type}

/-- The server when it listens. `openFds` are the fds the process has open besides. -/
def EchoServer.listening (listen_fd : Nat) (openFds : Nat → Bool) : EchoServer Byte :=
  { running := true
    place := .loop
    openFds := Function.update openFds listen_fd true
    past := [] }

/-- `accept` returns a connection, or fails; either way the loop goes on. -/
def EchoServer.accept (server : EchoServer Byte) :
    Option Nat → Option (EchoServer Byte)
  | some client_fd =>
    if server.openFds client_fd then none
    else some { server with
      openFds := Function.update server.openFds client_fd true
      place := .serve client_fd .new }
  | none => some { server with place := .loop }

/-- `main` serves its client, and is done with it where it has closed the connection. -/
def EchoServer.serve (server : EchoServer Byte) (client_fd : Nat) (serving : Serving Byte) :
    EchoServer Byte :=
  if serving.place.isDone then
    { server with
      openFds := Function.update server.openFds client_fd false
      place := .loop
      past := server.past ++ [serving] }
  else { server with place := .serve client_fd serving }

def EchoServer.step (listen_fd : Nat) (server : EchoServer Byte) :
    EchoEvent Byte → Option (EchoServer Byte)
  | .accept client_fd => match server.place with
    | .accept => server.accept client_fd
    | _ => none
  | .main input => match server.place with
    | .loop =>
      some (if server.running then { server with place := .accept }
        else { server with
          openFds := Function.update server.openFds listen_fd false
          place := .stopped })
    | .accept => none
    | .serve client_fd serving =>
      (serving.step bufferSize input).map (server.serve client_fd)
    | .stopped => none
  | .handle_sigint => some { server with running := false }

/-- The iterative server as a transition system. -/
def EchoServer.system (Byte : Type) (listen_fd : Nat) (openFds : Nat → Bool) :
    System (EchoServer Byte) (EchoEvent Byte) where
  initial server := server = .listening listen_fd openFds
  step := EchoServer.step listen_fd

/-! ### One client at a time -/

/-- The fds a place goes with: those the process began with, the listening socket until the end,
and the client being served, whose number was free. -/
def EchoPlace.Opens (listen_fd : Nat) (openFds : Nat → Bool) (now : Nat → Bool) :
    EchoPlace Byte → Prop
  | .loop | .accept => now = Function.update openFds listen_fd true
  | .serve client_fd serving =>
    now = Function.update (Function.update openFds listen_fd true) client_fd true ∧
      Function.update openFds listen_fd true client_fd = false ∧
      serving.Relays ∧ serving.place.isDone = false
  | .stopped => now = Function.update openFds listen_fd false

/-- Every client served before has been served to the end. -/
structure EchoServer.Serves (listen_fd : Nat) (openFds : Nat → Bool) (server : EchoServer Byte) :
    Prop where
  place : server.place.Opens listen_fd openFds server.openFds
  past : ∀ serving ∈ server.past, serving.Relays ∧ serving.place.isDone = true

section Steps

variable {listen_fd : Nat} {openFds : Nat → Bool} {server after : EchoServer Byte}

theorem EchoServer.Serves.accept (serves : server.Serves listen_fd openFds)
    (place : server.place = .accept) {client_fd : Option Nat}
    (step : server.accept client_fd = some after) : after.Serves listen_fd openFds := by
  have opens : server.openFds = Function.update openFds listen_fd true := by
    have opens := serves.place
    rwa [place] at opens
  cases client_fd with
  | none =>
    cases step
    exact ⟨opens, serves.past⟩
  | some client_fd =>
    have step : (if server.openFds client_fd then none else some { server with
      openFds := Function.update server.openFds client_fd true
      place := .serve client_fd .new }) = some after := step
    split at step
    · cases step
    · rename_i free
      cases step
      refine ⟨⟨by rw [opens], ?_, relays_new, rfl⟩, serves.past⟩
      rw [← opens]
      exact eq_false_of_ne_true free

theorem EchoServer.Serves.serve (serves : server.Serves listen_fd openFds) {client_fd : Nat}
    {serving next : Serving Byte} (place : server.place = .serve client_fd serving)
    {input : ServeInput Byte} (step : serving.step bufferSize input = some next) :
    (server.serve client_fd next).Serves listen_fd openFds := by
  have here := serves.place
  rw [place] at here
  obtain ⟨opens, free, relays, -⟩ := here
  have relays : next.Relays := relays.step step
  unfold EchoServer.serve
  split
  · rename_i done
    refine ⟨?_, fun other known => ?_⟩
    · show Function.update server.openFds client_fd false = Function.update openFds listen_fd true
      rw [opens, Function.update_idem, ← free, Function.update_eq_self]
    · rcases List.mem_append.mp known with before | now
      · exact serves.past other before
      · rw [List.mem_singleton.mp now]
        exact ⟨relays, done⟩
  · rename_i more
    exact ⟨⟨opens, free, relays, eq_false_of_ne_true more⟩, serves.past⟩

end Steps

/-- The client that is being served. -/
def EchoPlace.client : EchoPlace Byte → Option Nat
  | .serve client_fd _ => some client_fd
  | .loop | .accept | .stopped => none

end EchoServer

end MultiReactor
