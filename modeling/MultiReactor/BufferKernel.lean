/-
This file puts the buffered echo server (epoll_server_buffer.cpp) on a kernel that
is spelled out: what has come in at a client's socket, the room in its send
buffer, whether the poller is asked for EPOLLOUT, and whether the socket is on the
poller's ready list. Edges are asked for, so a report takes the socket off that
list. It comes back when something comes in, when the send buffer becomes writable
and EPOLLOUT is asked for, and when `epoll_ctl` makes the poller look at it.

`send` takes all there is room for, so less than it was given means that the send
buffer is full. With how much room the poller takes a send buffer for writable is a
parameter: `send` may well take bytes while EPOLLOUT is not reported. The socket tells
the poller only if it has been asked to, by a `send` that found too little room or by
the poller when it found the buffer not writable.
-/

import MultiReactor.BufferServer
import MultiReactor.Readiness

namespace MultiReactor

open Transition Readiness

/-! ### The kernel's part -/

/-- A client's socket: what comes in, the send buffer, and whether the poller is asked for EPOLLOUT.
-/
structure ClientSocket (Byte : Type) where
  source : Source Byte
  sink : Sink
  asks : Bool

/-- The server, and the kernel's part of every client's fd. -/
structure PolledServer (Byte : Type) where
  server : BufferServer Byte
  sockets : Nat → ClientSocket Byte

/-- What happens next: `main` moves on, the signal handler runs, or something happens at a
connection. -/
inductive PolledEvent (Byte : Type) where
  | main (input : MainInput Byte)
  | handle_sigint
  | arrives (fd : Nat) (bytes : List Byte)
  /-- the end of the stream has come in, or a reset -/
  | ends (fd : Nat)
  /-- so many bytes have left the send buffer -/
  | frees (fd count : Nat)
  /-- `epoll_wait` comes to a client on the ready list and finds nothing to report -/
  | drops (fd : Nat)

section Kernel

variable {Byte : Type}

/-- A connection `accept` returns. What came in before that arrives right after it. -/
def ClientSocket.new (room : Nat) : ClientSocket Byte :=
  { source := { pending := [], ended := false, ready := false }
    sink := { room := room, nospace := false }
    asks := false }

/-- EPOLLOUT would be reported. -/
def ClientSocket.writable (poller : Writability) (socket : ClientSocket Byte) : Bool :=
  socket.asks && poller.writable socket.sink.room

/-- Something would be reported. -/
def ClientSocket.reportable (poller : Writability) (socket : ClientSocket Byte) : Bool :=
  socket.source.hasInput || socket.writable poller

def ClientSocket.onSource (socket : ClientSocket Byte) (happens : Source Byte → Source Byte) :
    ClientSocket Byte :=
  { socket with source := happens socket.source }

def ClientSocket.onSink (socket : ClientSocket Byte) (happens : Sink → Sink) :
    ClientSocket Byte :=
  { socket with sink := happens socket.sink }

/-- The socket gets on the ready list if there is a reason to. -/
def ClientSocket.wake (reason : Bool) (socket : ClientSocket Byte) : ClientSocket Byte :=
  { socket with source := { socket.source with ready := socket.source.ready || reason } }

/-- Bytes have left the send buffer. -/
def ClientSocket.frees (poller : Writability) (count : Nat) (socket : ClientSocket Byte) :
    ClientSocket Byte :=
  (socket.wake (socket.asks && socket.sink.tells poller count)).onSink (.free poller count)

/-- `epoll_wait` looks at the socket and takes it off the ready list. -/
def ClientSocket.report (poller : Writability) (socket : ClientSocket Byte) : ClientSocket Byte :=
  (socket.onSource .report).onSink (.poll poller)

/-- `epoll_ctl` with EPOLL_CTL_ADD or EPOLL_CTL_MOD: the poller looks at the socket. -/
def ClientSocket.control (poller : Writability) (asks : Bool) (socket : ClientSocket Byte) :
    ClientSocket Byte :=
  let asked := { socket with asks := asks }
  (asked.wake (asked.reportable poller)).onSink (.poll poller)

variable [DecidableEq Byte]

/-- `recv` returns the first of what has come in, and nothing at the end of the stream. It blocks
only if there is nothing to be had. -/
def ClientSocket.recv (socket : ClientSocket Byte) : MainInput Byte → Option (ClientSocket Byte)
  | .recv bytes =>
    if bytes <+: socket.source.pending ∧
        (bytes = [] → socket.source.pending = [] ∧ socket.source.ended) then
      some (socket.onSource (.take bytes.length))
    else none
  | .fails errno =>
    if errno = EAGAIN → socket.source.hasInput = false then some socket else none
  | _ => none

/-- `send` takes as many bytes as there is room for, and blocks only if there is none. -/
def ClientSocket.send (socket : ClientSocket Byte) (bytes : List Byte) :
    MainInput Byte → Option (ClientSocket Byte)
  | .send sent =>
    if 0 < socket.sink.room ∧ sent = min socket.sink.room bytes.length then
      some (socket.onSink (.put bytes.length))
    else none
  | .fails errno =>
    if errno = EAGAIN then
      if socket.sink.room = 0 then some (socket.onSink (.put bytes.length)) else none
    else some socket
  | _ => none

/-- The `send` of the echo loop: when it would block, EPOLLOUT is asked for. -/
def ClientSocket.echo (poller : Writability) (socket : ClientSocket Byte) (rest : List Byte)
    (input : MainInput Byte) : Option (ClientSocket Byte) :=
  (socket.send rest input).map (if input = .fails EAGAIN then .control poller true else id)

/-- The `send` of the EPOLLOUT branch: when it has taken all, EPOLLOUT is no longer asked for. -/
def ClientSocket.drain (poller : Writability) (socket : ClientSocket Byte) (buffer : List Byte)
    (input : MainInput Byte) : Option (ClientSocket Byte) :=
  (socket.send buffer input).map
    (if input = .send buffer.length then .control poller false else id)

/-! ### The system -/

/-- What `epoll_wait` can return: clients on the ready list of which there is something to report,
with EPOLLOUT if they are writable. When the listening socket is reported is left open. -/
def PolledServer.reports (poller : Writability) (state : PolledServer Byte) (listen_fd : Nat)
    (events : List EpollEvent) : Bool :=
  state.server.reports events && events.all fun event => event.fd = listen_fd ||
    ((state.sockets event.fd).source.ready && (state.sockets event.fd).reportable poller &&
      event.epollout = (state.sockets event.fd).writable poller)

/-- What has been reported leaves the ready list. -/
def PolledServer.reported (poller : Writability) (state : PolledServer Byte)
    (events : List EpollEvent) (fd : Nat) : ClientSocket Byte :=
  if fd ∈ events.map EpollEvent.fd then (state.sockets fd).report poller else state.sockets fd

/-- A call on a client's fd. -/
def PolledServer.onSocket (state : PolledServer Byte) (fd : Nat)
    (call : ClientSocket Byte → Option (ClientSocket Byte)) : Option (Nat → ClientSocket Byte) :=
  (call (state.sockets fd)).map (Function.update state.sockets fd)

/-- The sockets after the call at which `main` stands, if it can return this. `room` is what the
send buffer of a new connection has. -/
def PolledServer.kernel (poller : Writability) (room listen_fd : Nat) (state : PolledServer Byte)
    (input : MainInput Byte) : Option (Nat → ClientSocket Byte) :=
  match state.server.place with
  | .epoll_wait => match input with
    | .epoll_wait events =>
      if state.reports poller listen_fd events then some (state.reported poller events) else none
    | _ => some state.sockets
  | .accept _ => match state.server.running, input with
    | true, .accept fd => some (Function.update state.sockets fd (.new room))
    | _, _ => some state.sockets
  | .register fd _ =>
    if input = .succeeds then state.onSocket fd (some <| ·.control poller false)
    else some state.sockets
  | .recv event _ =>
    if state.server.running then state.onSocket event.fd (·.recv input) else some state.sockets
  | .echo event rest _ =>
    if rest = [] then some state.sockets
    else state.onSocket event.fd (·.echo poller rest input)
  | .epollout event _ =>
    if event.epollout ∧ state.server.cached event.fd = [] ∧ state.server.registered event.fd then
      state.onSocket event.fd (some <| ·.control poller false)
    else some state.sockets
  | .drain event _ =>
    state.onSocket event.fd (·.drain poller (state.server.cached event.fd) input)
  | .loop | .events _ | .set_nonblocking _ _ | .stopped => some state.sockets

def PolledServer.main (poller : Writability) (room listen_fd : Nat) (state : PolledServer Byte)
    (input : MainInput Byte) : Option (PolledServer Byte) :=
  (state.kernel poller room listen_fd input).bind fun sockets =>
    (state.server.main listen_fd input).map fun server => { server := server, sockets := sockets }

/-- Something happens at a connection. -/
def PolledServer.happens (state : PolledServer Byte) (fd : Nat)
    (happens : ClientSocket Byte → ClientSocket Byte) : Option (PolledServer Byte) :=
  if state.server.openFds fd ∧ (state.server.latest fd).isSome then
    some { state with sockets := Function.update state.sockets fd (happens (state.sockets fd)) }
  else none

/-- `epoll_wait` takes a client off the ready list of which there is nothing to report. -/
def PolledServer.drops (poller : Writability) (state : PolledServer Byte) (fd : Nat) :
    Option (PolledServer Byte) :=
  if state.server.place = .epoll_wait ∧ (state.sockets fd).source.ready ∧
      (state.sockets fd).reportable poller = false then
    state.happens fd (.report poller)
  else none

def PolledServer.step (poller : Writability) (room listen_fd : Nat) (state : PolledServer Byte) :
    PolledEvent Byte → Option (PolledServer Byte)
  | .main input => state.main poller room listen_fd input
  | .handle_sigint => some { state with server := { state.server with running := false } }
  | .arrives fd bytes =>
    if (state.sockets fd).source.ended then none else state.happens fd (·.onSource (.arrives bytes))
  | .ends fd => state.happens fd (·.onSource .ends)
  | .frees fd count => state.happens fd (.frees poller count)
  | .drops fd => state.drops poller fd

/-- The server against the kernel. -/
def PolledServer.system (Byte : Type) [DecidableEq Byte] (poller : Writability)
    (room listen_fd : Nat) (openFds : Nat → Bool) :
    System (PolledServer Byte) (PolledEvent Byte) where
  initial state := state = { server := .listening listen_fd openFds, sockets := fun _ => .new room }
  step := PolledServer.step poller room listen_fd

/-- Against the kernel the server does nothing it does not do otherwise. -/
theorem reachable_polled {poller : Writability} {room listen_fd : Nat} {openFds : Nat → Bool}
    {state : PolledServer Byte}
    (reachable : Reachable (PolledServer.system Byte poller room listen_fd openFds) state) :
    Reachable (BufferServer.system Byte listen_fd openFds) state.server := by
  have happens {state next : PolledServer Byte} {fd : Nat}
      {happens : ClientSocket Byte → ClientSocket Byte}
      (step : state.happens fd happens = some next) : next.server = state.server := by
    unfold PolledServer.happens at step
    split at step <;> cases step
    rfl
  refine reachable.invariant (fun state => Reachable _ state.server) ?_ ?_
  · rintro _ rfl
    exact .start rfl
  · intro state label next _ before _ step
    cases label with
    | main input =>
      obtain ⟨sockets, _, rest⟩ := Option.bind_eq_some_iff.mp step
      obtain ⟨server, moves, rfl⟩ := Option.map_eq_some_iff.mp rest
      have taken : (BufferServer.system Byte listen_fd openFds).step state.server (.main input) =
          some server := moves
      exact .next before trivial taken
    | handle_sigint =>
      cases step
      have taken : (BufferServer.system Byte listen_fd openFds).step state.server .handle_sigint =
          some { state.server with running := false } := rfl
      exact .next before trivial taken
    | arrives fd bytes =>
      simp only [PolledServer.system, PolledServer.step] at step
      split at step
      · cases step
      · rw [happens step]
        exact before
    | ends fd | frees fd count =>
      simp only [PolledServer.system, PolledServer.step] at step
      rw [happens step]
      exact before
    | drops fd =>
      simp only [PolledServer.system, PolledServer.step, PolledServer.drops] at step
      split at step
      · rw [happens step]
        exact before
      · cases step

end Kernel

end MultiReactor
