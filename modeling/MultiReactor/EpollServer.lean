/-
This file models the event loops of the three epoll servers without output
buffers (epoll_server_skel.cpp, epoll_server_lt.cpp, epoll_server_et.cpp), from
the point where the listening socket has been registered. They are one loop with
two parameters: whether a connection is served or closed at once, and whether the
poller is asked for edges, in which case `accept` and `recv` are called until
they fail. A step is a test or a system call together with what `main` does until
the next one.

`send` is called without MSG_NOSIGNAL, and SIGPIPE is taken to be ignored: where it
is not, a `send` that would fail with EPIPE ends the process, and the run ends there.

The kernel's part is what has come in at every socket, and which sockets the
poller has on its ready list. Connections, bytes and the ends of streams arrive
at any time, and SIGINT may clear `running` between any two steps. `fcntl` moves
nothing and changes nothing the loop depends on, so it is not on record.
-/

import MultiReactor.EchoServer
import MultiReactor.Readiness

namespace MultiReactor

open Transition

/-! ### The servers -/

/-- What one server of the three does and another does not. -/
structure EpollMode where
  /-- connections are registered and served -/
  serves : Bool
  /-- `EPOLLET` is asked for, and `accept` and `recv` are called in a loop -/
  edge : Bool
  deriving DecidableEq

def epoll_server_skel : EpollMode :=
  { serves := false, edge := false }

def epoll_server_lt : EpollMode :=
  { serves := true, edge := false }

def epoll_server_et : EpollMode :=
  { serves := true, edge := true }

/-! ### The state -/

/-- What the kernel knows of an fd number, and the calls made on the connection last accepted under
it. -/
structure Socket (Byte : Type) where
  isOpen : Bool
  registered : Bool
  source : Readiness.Source Byte
  calls : Option (List (Relay.Call Byte Nat))
  deriving DecidableEq

/-- Where `main` stands with a client's fd in hand. -/
inductive ClientPlace (Byte : Type) where
  /-- at the `close` of a connection that is not to be served -/
  | refuse
  | set_nonblocking
  /-- at EPOLL_CTL_ADD -/
  | register
  /-- at `recv`, or at the `while(running)` around it -/
  | recv
  /-- at `while(total_sent < recv_len)`, with what is left of `buffer` -/
  | echo (rest : List Byte)
  deriving DecidableEq

/-- The connection has been accepted in this round of the loop. -/
def ClientPlace.isNew {Byte : Type} : ClientPlace Byte → Bool
  | .refuse | .set_nonblocking | .register => true
  | .recv | .echo _ => false

/-- Where `main` stands. `ahead` are the fds the for loop over `events` has not reached. -/
inductive EpollPlace (Byte : Type) where
  /-- at `while(running)` of the event loop -/
  | loop
  | epoll_wait
  /-- at the head of the for loop -/
  | events (ahead : List Nat)
  /-- at `accept`, or at the `while(running)` around it -/
  | accept (ahead : List Nat)
  | client (fd : Nat) (place : ClientPlace Byte) (ahead : List Nat)
  | stopped
  deriving DecidableEq

/-- What the next system call of `main` returns. -/
inductive EpollInput (Byte : Type) where
  /-- no call is made, or its result is not looked at -/
  | none
  | epoll_wait (fds : List Nat)
  /-- a connection, with what has come in at it already -/
  | accept (fd : Nat) (pending : List Byte) (ended : Bool)
  | recv (count : Nat)
  | send (sent : Nat)
  | succeeds
  | fails (errno : Nat)
  deriving DecidableEq

/-- What happens next: `main` moves on, the signal handler runs, or something comes in. -/
inductive PollEvent (Byte : Type) where
  | main (input : EpollInput Byte)
  | handle_sigint
  | connects
  | arrives (fd : Nat) (bytes : List Byte)
  | ends (fd : Nat)
  deriving DecidableEq

/-- `backlog` are the connections that wait at the listening socket. `past` are the connections
whose numbers have been accepted again. -/
structure EpollServer (Byte : Type) where
  running : Bool
  place : EpollPlace Byte
  backlog : Readiness.Source Unit
  sockets : Nat → Socket Byte
  past : List (List (Relay.Call Byte Nat))

section Server

variable {Byte : Type}

/-! ### A client's socket -/

/-- An fd number before anything has been accepted under it. -/
def Socket.unknown (isOpen registered : Bool) : Socket Byte :=
  { isOpen := isOpen
    registered := registered
    source := { pending := [], ended := false, ready := false }
    calls := none }

/-- A connection `accept` has returned. -/
def Socket.new (pending : List Byte) (ended : Bool) : Socket Byte :=
  { isOpen := true
    registered := false
    source := { pending := pending, ended := ended, ready := false }
    calls := some [] }

/-- Something happens to what has come in. -/
def Socket.onSource (socket : Socket Byte)
    (happens : Readiness.Source Byte → Readiness.Source Byte) : Socket Byte :=
  { socket with source := happens socket.source }

def Socket.makes (socket : Socket Byte) (call : Relay.Call Byte Nat) : Socket Byte :=
  { socket with calls := socket.calls.map (· ++ [call]) }

/-- `close(fd)`: the number is free again and leaves the epoll instance. -/
def Socket.close (socket : Socket Byte) : Socket Byte :=
  { socket.makes .close with isOpen := false, registered := false }

/-- `epoll_ctl(EPOLL_CTL_DEL); close(client_fd);` -/
def Socket.closeClient (socket : Socket Byte) : Socket Byte :=
  (socket.makes .control).close

/-- `epoll_ctl(EPOLL_CTL_ADD)` succeeds. -/
def Socket.register (socket : Socket Byte) : Socket Byte :=
  { (socket.onSource .watch).makes .control with registered := true }

/-- It is a connection, so something can come in at it. -/
def Socket.connected (socket : Socket Byte) : Bool :=
  socket.isOpen && socket.calls.isSome && !socket.source.ended

/-- `recv` can return so many bytes; it returns none at the end of the stream. -/
def Socket.mayRecv (socket : Socket Byte) (count : Nat) : Bool :=
  socket.isOpen ∧ count ≤ bufferSize ∧ count ≤ socket.source.pending.length ∧
    (count = 0 → socket.source.pending = [] ∧ socket.source.ended)

/-- What a call on the fd can fail with: EBADF if and only if it is not open. -/
def Socket.mayFail (socket : Socket Byte) (errno : Nat) : Bool :=
  socket.isOpen = (errno ≠ EBADF : Bool)

/-- `recv` would block if and only if there is nothing. -/
def Socket.mayFailRecv (socket : Socket Byte) (errno : Nat) : Bool :=
  socket.mayFail errno ∧ (errno = EAGAIN → socket.source.hasInput = false)

/-- An error that is not the end of a connection. -/
def wouldBlock (errno : Nat) : Bool :=
  errno = EAGAIN ∨ errno = EWOULDBLOCK

/-- Where the recv loop leads when a chunk is dealt with: to `recv` once more, or out of it. -/
def EpollMode.again (mode : EpollMode) : Option (ClientPlace Byte) :=
  if mode.edge then some .recv else none

/-- `recv`. The recv loop ends at the end of the stream and at an error. -/
def Socket.recv (socket : Socket Byte) :
    EpollInput Byte → Option (Socket Byte × Option (ClientPlace Byte))
  | .recv count =>
    let chunk := socket.source.pending.take count
    let called := (socket.onSource (.take count)).makes (.read chunk)
    if socket.mayRecv count then
      some (if count = 0 then (called.closeClient, none) else (called, some (.echo chunk)))
    else none
  | .fails errno =>
    let called := socket.makes (.readFails errno)
    if socket.mayFailRecv errno then
      some (if wouldBlock errno then called else called.closeClient, none)
    else none
  | _ => none

/-- `send` of what is left. An error ends the inner loop only. -/
def Socket.send (mode : EpollMode) (socket : Socket Byte) (rest : List Byte) :
    EpollInput Byte → Option (Socket Byte × Option (ClientPlace Byte))
  | .send sent =>
    if socket.isOpen ∧ sent ≤ rest.length then
      some (socket.makes (.write (rest.take sent)), some (.echo (rest.drop sent)))
    else none
  | .fails errno =>
    let called := socket.makes (.writeFails errno)
    if socket.mayFail errno then
      some (if wouldBlock errno then called else called.closeClient, mode.again)
    else none
  | _ => none

/-- `main` moves on with the client's fd in hand, and stays with it or not. -/
def Socket.handle (mode : EpollMode) (running : Bool) (socket : Socket Byte)
    (place : ClientPlace Byte) (input : EpollInput Byte) :
    Option (Socket Byte × Option (ClientPlace Byte)) :=
  match place with
  | .refuse => some (socket.close, none)
  | .set_nonblocking => match input with
    | .succeeds => some (socket, some .register)
    | .fails _ => some (socket.close, none)
    | _ => none
  | .register => match input with
    | .succeeds => some (socket.register, none)
    | .fails _ => some (socket.closeClient, none)
    | _ => none
  | .recv => if mode.edge && !running then some (socket, none) else socket.recv input
  | .echo rest => if rest = [] then some (socket, mode.again) else socket.send mode rest input

/-! ### The event loop -/

/-- The server at the head of its event loop for the first time. `openFds` are the fds the process
has open besides, and `waiting` is the number of connections that wait already. -/
def EpollServer.listening (listen_fd : Nat) (openFds : Nat → Bool) (waiting : Nat) :
    EpollServer Byte :=
  { running := true
    place := .loop
    backlog := Readiness.Source.watch
      { pending := List.replicate waiting (), ended := false, ready := false }
    sockets := fun fd => .unknown (openFds fd || fd = listen_fd) (fd = listen_fd)
    past := [] }

def EpollServer.goTo (server : EpollServer Byte) (place : EpollPlace Byte) : EpollServer Byte :=
  { server with place := place }

def EpollServer.setSocket (server : EpollServer Byte) (fd : Nat) (socket : Socket Byte) :
    EpollServer Byte :=
  { server with sockets := Function.update server.sockets fd socket }

/-- `close(listen_fd); close(epoll_fd);`, which closes no client's fd. -/
def EpollServer.stop (server : EpollServer Byte) (listen_fd : Nat) : EpollServer Byte :=
  (server.setSocket listen_fd (server.sockets listen_fd).close).goTo .stopped

/-- What `epoll_wait` can return: fds that are registered and on the ready list. -/
def EpollServer.reports (server : EpollServer Byte) (listen_fd : Nat) (fds : List Nat) : Bool :=
  fds.length ≤ maxEpollEvents ∧ fds.Nodup ∧
    fds.all fun fd => (server.sockets fd).registered &&
      if fd = listen_fd then server.backlog.ready else (server.sockets fd).source.ready

/-- What has been reported leaves the ready list where edges are asked for. -/
def EpollServer.reported (server : EpollServer Byte) (mode : EpollMode) (listen_fd : Nat)
    (fds : List Nat) : EpollServer Byte :=
  if mode.edge then
    { server with
      backlog := if listen_fd ∈ fds then server.backlog.report else server.backlog
      sockets := fun fd =>
        if fd ∈ fds then (server.sockets fd).onSource .report else server.sockets fd }
  else server

def EpollServer.epollWait (server : EpollServer Byte) (mode : EpollMode) (listen_fd : Nat) :
    EpollInput Byte → Option (EpollServer Byte)
  | .epoll_wait fds =>
    if server.reports listen_fd fds then
      some ((server.reported mode listen_fd fds).goTo (.events fds))
    else none
  | .fails errno => some (if errno = EINTR then server.goTo .loop else server.stop listen_fd)
  | _ => none

/-- The head of the for loop. `epoll_server_skel` has nothing for an fd that is not the listening
socket. -/
def EpollServer.handleNext (server : EpollServer Byte) (mode : EpollMode) (listen_fd : Nat) :
    List Nat → EpollServer Byte
  | [] => server.goTo .loop
  | fd :: ahead =>
    server.goTo (if fd = listen_fd then .accept ahead
      else if mode.serves then .client fd .recv ahead else .events ahead)

/-- A connection leaves the backlog. -/
def EpollServer.newSocket (server : EpollServer Byte) (fd : Nat) (pending : List Byte)
    (ended : Bool) : EpollServer Byte :=
  { server.setSocket fd (.new pending ended) with
    backlog := server.backlog.take 1
    past := server.past ++ (server.sockets fd).calls.toList }

/-- `accept`. The accept loop ends at any error. -/
def EpollServer.acceptOne (server : EpollServer Byte) (mode : EpollMode) (ahead : List Nat) :
    EpollInput Byte → Option (EpollServer Byte)
  | .accept fd pending ended =>
    if (server.sockets fd).isOpen = false ∧ server.backlog.pending ≠ [] then
      some ((server.newSocket fd pending ended).goTo
        (.client fd (if mode.serves then .set_nonblocking else .refuse) ahead))
    else none
  | .fails errno =>
    if errno = EAGAIN → server.backlog.pending = [] then some (server.goTo (.events ahead))
    else none
  | _ => none

/-- Where `main` goes on when it is done with a client's fd. -/
def EpollMode.around (mode : EpollMode) (place : ClientPlace Byte) (ahead : List Nat) :
    EpollPlace Byte :=
  if mode.edge && place.isNew then .accept ahead else .events ahead

/-- `main` has moved on with a client's fd in hand. -/
def EpollServer.handled (server : EpollServer Byte) (mode : EpollMode) (fd : Nat)
    (place : ClientPlace Byte) (ahead : List Nat)
    (result : Socket Byte × Option (ClientPlace Byte)) : EpollServer Byte :=
  (server.setSocket fd result.1).goTo (match result.2 with
    | some next => .client fd next ahead
    | none => mode.around place ahead)

/-- `main` moves on. -/
def EpollServer.main (server : EpollServer Byte) (mode : EpollMode) (listen_fd : Nat)
    (input : EpollInput Byte) : Option (EpollServer Byte) :=
  match server.place with
  | .loop => some (if server.running then server.goTo .epoll_wait else server.stop listen_fd)
  | .epoll_wait => server.epollWait mode listen_fd input
  | .events ahead => some (server.handleNext mode listen_fd ahead)
  | .accept ahead =>
    if mode.edge && !server.running then some (server.goTo (.events ahead))
    else server.acceptOne mode ahead input
  | .client fd place ahead =>
    ((server.sockets fd).handle mode server.running place input).map
      (server.handled mode fd place ahead)
  | .stopped => none

/-- Something comes in at a connection. -/
def EpollServer.comesIn (server : EpollServer Byte) (fd : Nat)
    (happens : Readiness.Source Byte → Readiness.Source Byte) : Option (EpollServer Byte) :=
  if (server.sockets fd).connected then
    some (server.setSocket fd ((server.sockets fd).onSource happens))
  else none

def EpollServer.step (mode : EpollMode) (listen_fd : Nat) (server : EpollServer Byte) :
    PollEvent Byte → Option (EpollServer Byte)
  | .main input => server.main mode listen_fd input
  | .handle_sigint => some { server with running := false }
  | .connects => some { server with backlog := server.backlog.arrives [()] }
  | .arrives fd bytes => server.comesIn fd (.arrives bytes)
  | .ends fd => server.comesIn fd .ends

/-- A server as a transition system. -/
def EpollServer.system (Byte : Type) (mode : EpollMode) (listen_fd : Nat) (openFds : Nat → Bool)
    (waiting : Nat) : System (EpollServer Byte) (PollEvent Byte) where
  initial server := server = .listening listen_fd openFds waiting
  step := EpollServer.step mode listen_fd

end Server

end MultiReactor
