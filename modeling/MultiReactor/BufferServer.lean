/-
This file models the main event loop of `epoll_server_buffer`
(epoll_server_buffer.cpp), from the point where the listening socket has been
registered. It is one thread; a step is a test or a system call together with
what `main` does until the next one, and the results of the system calls are the
environment's. SIGINT may clear `running` between any two steps. `send` is called
without MSG_NOSIGNAL, and SIGPIPE is taken to be ignored: where it is not, a `send`
that would fail with EPIPE ends the process, and the run ends there.

The kernel's part is which fds are open and which are registered, and for every
fd number the connection it was last accepted for, with what was received and
sent on it and the calls made on its fd. `accept` returns no fd that is open; a
call on an fd that is not open fails with EBADF. The bytes may be of any type.
-/

import Mathlib.Logic.Function.Basic
import MultiReactor.Transition

namespace MultiReactor

open Transition

/-! ### The kernel's part -/

/-- The values of `errno` the code and the kernel's description refer to, as Linux has them. -/
def EINTR : Nat := 4

def EBADF : Nat := 9

def EAGAIN : Nat := 11

def EWOULDBLOCK : Nat := EAGAIN

def ECONNRESET : Nat := 104

/-- A system call made on the fd of a connection. -/
inductive Syscall where
  | recv
  | send
  | epoll_ctl
  | close
  deriving DecidableEq

/-- A connection: what `recv` returned on it, what `send` accepted, and the calls made on its fd. -/
structure Peer (Byte : Type) where
  received : List Byte
  accepted : List Byte
  calls : List Syscall
  deriving DecidableEq

/-- An entry of the array `events`: `data.fd`, and whether the mask has EPOLLOUT. -/
structure EpollEvent where
  fd : Nat
  epollout : Bool
  deriving DecidableEq

/-- What the next system call of `main` returns. -/
inductive MainInput (Byte : Type) where
  /-- no call is made -/
  | none
  | epoll_wait (events : List EpollEvent)
  | accept (fd : Nat)
  | recv (bytes : List Byte)
  | send (sent : Nat)
  | succeeds
  | fails (errno : Nat)
  deriving DecidableEq

/-- What happens next: `main` moves on, or the signal handler runs. -/
inductive MainEvent (Byte : Type) where
  | main (input : MainInput Byte)
  | handle_sigint
  deriving DecidableEq

/-! ### The server -/

/-- Where `main` stands. `ahead` is what the for loop over `events` has not reached. -/
inductive MainPlace (Byte : Type) where
  /-- at `while(running)` of the event loop -/
  | loop
  | epoll_wait
  /-- at the head of the for loop -/
  | events (ahead : List EpollEvent)
  /-- at `while(running)` of the accept loop -/
  | accept (ahead : List EpollEvent)
  /-- at `set_nonblocking(client_fd)` -/
  | set_nonblocking (fd : Nat) (ahead : List EpollEvent)
  /-- at EPOLL_CTL_ADD of the new client -/
  | register (fd : Nat) (ahead : List EpollEvent)
  /-- at `while(running)` of the recv loop -/
  | recv (event : EpollEvent) (ahead : List EpollEvent)
  /-- at `while(total_sent < recv_len)`, with what is left of the local `buffer` -/
  | echo (event : EpollEvent) (rest : List Byte) (ahead : List EpollEvent)
  /-- at `if(events[i].events & EPOLLOUT)` -/
  | epollout (event : EpollEvent) (ahead : List EpollEvent)
  /-- at the `send` from `output_buffers` -/
  | drain (event : EpollEvent) (ahead : List EpollEvent)
  | stopped
  deriving DecidableEq

structure BufferServer (Byte : Type) where
  running : Bool
  output_buffers : Nat → Option (List Byte)
  place : MainPlace Byte
  openFds : Nat → Bool
  registered : Nat → Bool
  /-- the connection each fd number was last accepted for -/
  latest : Nat → Option (Peer Byte)
  /-- the connections whose numbers have been accepted again -/
  past : List (Peer Byte)

/-- `MAX_EVENTS`. -/
def maxEpollEvents : Nat := 10

section Server

variable {Byte : Type}

/-- The server at the head of its event loop for the first time. -/
def BufferServer.listening (listen_fd : Nat) (openFds : Nat → Bool) : BufferServer Byte :=
  { running := true
    output_buffers := fun _ => none
    place := .loop
    openFds := Function.update openFds listen_fd true
    registered := fun fd => fd = listen_fd
    latest := fun _ => none
    past := [] }

def Peer.new : Peer Byte :=
  { received := [], accepted := [], calls := [] }

def Peer.issue (calls : List Syscall) (peer : Peer Byte) : Peer Byte :=
  { peer with calls := peer.calls ++ calls }

def Peer.receive (bytes : List Byte) (peer : Peer Byte) : Peer Byte :=
  { peer with received := peer.received ++ bytes }

def Peer.accept (bytes : List Byte) (peer : Peer Byte) : Peer Byte :=
  { peer with accepted := peer.accepted ++ bytes }

def BufferServer.goTo (server : BufferServer Byte) (place : MainPlace Byte) : BufferServer Byte :=
  { server with place := place }

/-- Something happens on the connection with this fd. -/
def BufferServer.onPeer (server : BufferServer Byte) (fd : Nat) (happens : Peer Byte → Peer Byte) :
    BufferServer Byte :=
  { server with latest := Function.update server.latest fd ((server.latest fd).map happens) }

def BufferServer.setBuffer (server : BufferServer Byte) (fd : Nat) (buffer : Option (List Byte)) :
    BufferServer Byte :=
  { server with output_buffers := Function.update server.output_buffers fd buffer }

/-- `close(fd)`: the number is free again and leaves the epoll instance. -/
def BufferServer.close (server : BufferServer Byte) (fd : Nat) : BufferServer Byte :=
  { server.onPeer fd (Peer.issue [.close]) with
    openFds := Function.update server.openFds fd false
    registered := Function.update server.registered fd false }

/-- `epoll_ctl(EPOLL_CTL_DEL); output_buffers.erase(client_fd); close(client_fd);` -/
def BufferServer.closeClient (server : BufferServer Byte) (fd : Nat) : BufferServer Byte :=
  ((server.onPeer fd (Peer.issue [.epoll_ctl])).setBuffer fd none).close fd

/-- `epoll_ctl(EPOLL_CTL_ADD)` succeeds. -/
def BufferServer.register (server : BufferServer Byte) (fd : Nat) : BufferServer Byte :=
  { server.onPeer fd (Peer.issue [.epoll_ctl]) with
    registered := Function.update server.registered fd true }

/-- `accept` returns a new connection. -/
def BufferServer.newClient (server : BufferServer Byte) (fd : Nat) : BufferServer Byte :=
  { server with
    openFds := Function.update server.openFds fd true
    latest := Function.update server.latest fd (some .new)
    past := server.past ++ (server.latest fd).toList }

/-- What is cached for a client. -/
def BufferServer.cached (server : BufferServer Byte) (fd : Nat) : List Byte :=
  (server.output_buffers fd).getD []

/-- What `epoll_wait` can return. -/
def BufferServer.reports (server : BufferServer Byte) (events : List EpollEvent) : Bool :=
  events.length ≤ maxEpollEvents ∧ (events.map EpollEvent.fd).Nodup ∧
    events.all fun event => server.registered event.fd

/-- What a call on an fd can fail with: EBADF if and only if the fd is not open. -/
def BufferServer.mayFail (server : BufferServer Byte) (fd errno : Nat) : Bool :=
  server.openFds fd = (errno ≠ EBADF : Bool)

/-! ### Where the places lead -/

def BufferServer.epollWait (server : BufferServer Byte) :
    MainInput Byte → Option (BufferServer Byte)
  | .epoll_wait events =>
    if server.reports events then some (server.goTo (.events events)) else none
  | .fails errno => some (server.goTo (if errno = EINTR then .loop else .stopped))
  | _ => none

/-- The head of the for loop: the listening socket or a client. -/
def BufferServer.nextEvent (server : BufferServer Byte) (listen_fd : Nat) :
    List EpollEvent → BufferServer Byte
  | [] => server.goTo .loop
  | event :: ahead =>
    server.goTo (if event.fd = listen_fd then .accept ahead else .recv event ahead)

/-- A round of the accept loop: EAGAIN and any other error both end it. -/
def BufferServer.acceptOne (server : BufferServer Byte) (ahead : List EpollEvent) :
    MainInput Byte → Option (BufferServer Byte)
  | .accept fd =>
    if server.openFds fd then none
    else some ((server.newClient fd).goTo (.set_nonblocking fd ahead))
  | .fails _ => some (server.goTo (.events ahead))
  | _ => none

def BufferServer.setNonblocking (server : BufferServer Byte) (fd : Nat)
    (ahead : List EpollEvent) : MainInput Byte → Option (BufferServer Byte)
  | .succeeds => some (server.goTo (.register fd ahead))
  | .fails _ => some ((server.close fd).goTo (.accept ahead))
  | _ => none

def BufferServer.registerClient (server : BufferServer Byte) (fd : Nat)
    (ahead : List EpollEvent) : MainInput Byte → Option (BufferServer Byte)
  | .succeeds => some ((server.register fd).goTo (.accept ahead))
  | .fails _ => some (((server.onPeer fd (Peer.issue [.epoll_ctl])).close fd).goTo (.accept ahead))
  | _ => none

/-- `sizeof(buffer)-1`. -/
def bufferSize : Nat := 1024 - 1

/-- The `recv` of the recv loop. `break` leads to the EPOLLOUT branch. -/
def BufferServer.recvOne (server : BufferServer Byte) (event : EpollEvent)
    (ahead : List EpollEvent) : MainInput Byte → Option (BufferServer Byte)
  | .recv bytes =>
    let called := server.onPeer event.fd (Peer.issue [.recv])
    if server.openFds event.fd ∧ bytes.length ≤ bufferSize then
      if bytes = [] then some ((called.closeClient event.fd).goTo (.epollout event ahead))
      else some ((called.onPeer event.fd (Peer.receive bytes)).goTo (.echo event bytes ahead))
    else none
  | .fails errno =>
    let called := server.onPeer event.fd (Peer.issue [.recv])
    if server.mayFail event.fd errno then
      if errno = EAGAIN ∨ errno = EWOULDBLOCK then some (called.goTo (.epollout event ahead))
      else some ((called.closeClient event.fd).goTo (.epollout event ahead))
    else none
  | _ => none

/-- The `send` of the echo loop. Caching what was not sent asks for EPOLLOUT. `break` leads back to
the recv loop. -/
def BufferServer.echoOne (server : BufferServer Byte) (event : EpollEvent) (rest : List Byte)
    (ahead : List EpollEvent) : MainInput Byte → Option (BufferServer Byte)
  | .send sent =>
    if server.openFds event.fd ∧ sent ≤ rest.length then
      some (((server.onPeer event.fd (Peer.issue [.send])).onPeer event.fd
        (Peer.accept (rest.take sent))).goTo (.echo event (rest.drop sent) ahead))
    else none
  | .fails errno =>
    let called := server.onPeer event.fd (Peer.issue [.send])
    if server.mayFail event.fd errno then
      if errno = EAGAIN ∧ errno = EWOULDBLOCK then
        some (((called.setBuffer event.fd (some (server.cached event.fd ++ rest))).onPeer event.fd
          (Peer.issue [.epoll_ctl])).goTo (.recv event ahead))
      else some ((called.closeClient event.fd).goTo (.recv event ahead))
    else none
  | _ => none

/-- The EPOLLOUT branch up to its `send`: with nothing cached, EPOLLOUT is no longer asked for. -/
def BufferServer.writable (server : BufferServer Byte) (event : EpollEvent)
    (ahead : List EpollEvent) : BufferServer Byte :=
  if event.epollout then
    if server.cached event.fd = [] then
      (server.onPeer event.fd (Peer.issue [.epoll_ctl])).goTo (.events ahead)
    else server.goTo (.drain event ahead)
  else server.goTo (.events ahead)

/-- The `send` of the EPOLLOUT branch. -/
def BufferServer.drainOne (server : BufferServer Byte) (event : EpollEvent)
    (ahead : List EpollEvent) : MainInput Byte → Option (BufferServer Byte)
  | .send sent =>
    let buffer := server.cached event.fd
    let called := (server.onPeer event.fd (Peer.issue [.send])).onPeer event.fd
      (Peer.accept (buffer.take sent))
    if server.openFds event.fd ∧ sent ≤ buffer.length then
      if sent = buffer.length then
        some (((called.setBuffer event.fd none).onPeer event.fd (Peer.issue [.epoll_ctl])).goTo
          (.events ahead))
      else some ((called.setBuffer event.fd (some (buffer.drop sent))).goTo (.events ahead))
    else none
  | .fails errno =>
    let called := server.onPeer event.fd (Peer.issue [.send])
    if server.mayFail event.fd errno then
      if errno = EAGAIN ∨ errno = EWOULDBLOCK then some (called.goTo (.events ahead))
      else some ((called.closeClient event.fd).goTo (.events ahead))
    else none
  | _ => none

/-- `main` moves on. -/
def BufferServer.main (server : BufferServer Byte) (listen_fd : Nat) (input : MainInput Byte) :
    Option (BufferServer Byte) :=
  match server.place with
  | .loop => some (server.goTo (if server.running then .epoll_wait else .stopped))
  | .epoll_wait => server.epollWait input
  | .events ahead => some (server.nextEvent listen_fd ahead)
  | .accept ahead =>
    if server.running then server.acceptOne ahead input else some (server.goTo (.events ahead))
  | .set_nonblocking fd ahead => server.setNonblocking fd ahead input
  | .register fd ahead => server.registerClient fd ahead input
  | .recv event ahead =>
    if server.running then server.recvOne event ahead input
    else some (server.goTo (.epollout event ahead))
  | .echo event rest ahead =>
    if rest = [] then some (server.goTo (.recv event ahead))
    else server.echoOne event rest ahead input
  | .epollout event ahead => some (server.writable event ahead)
  | .drain event ahead => server.drainOne event ahead input
  | .stopped => none

def BufferServer.step (listen_fd : Nat) (server : BufferServer Byte) :
    MainEvent Byte → Option (BufferServer Byte)
  | .main input => server.main listen_fd input
  | .handle_sigint => some { server with running := false }

/-- The server as a transition system. `openFds` are the fds the process has open besides. -/
def BufferServer.system (Byte : Type) (listen_fd : Nat) (openFds : Nat → Bool) :
    System (BufferServer Byte) (MainEvent Byte) where
  initial server := server = .listening listen_fd openFds
  step := BufferServer.step listen_fd

/-! ### What a step can do -/

/-- The tests, and the calls that are made on no connection's fd. -/
inductive MainMove (listen_fd : Nat) (server : BufferServer Byte) :
    MainPlace Byte → MainPlace Byte → Prop where
  | enter (running : server.running = true) : MainMove listen_fd server .loop .epoll_wait
  | stop (stopped : server.running = false) : MainMove listen_fd server .loop .stopped
  | reported (events : List EpollEvent) (reported : server.reports events = true) :
      MainMove listen_fd server .epoll_wait (.events events)
  | interrupted : MainMove listen_fd server .epoll_wait .loop
  | failed : MainMove listen_fd server .epoll_wait .stopped
  | handled : MainMove listen_fd server (.events []) .loop
  | listening (event : EpollEvent) (ahead : List EpollEvent) (here : event.fd = listen_fd) :
      MainMove listen_fd server (.events (event :: ahead)) (.accept ahead)
  | client (event : EpollEvent) (ahead : List EpollEvent) (other : event.fd ≠ listen_fd) :
      MainMove listen_fd server (.events (event :: ahead)) (.recv event ahead)
  | acceptEnds (ahead : List EpollEvent) :
      MainMove listen_fd server (.accept ahead) (.events ahead)
  | nonblocking (fd : Nat) (ahead : List EpollEvent) :
      MainMove listen_fd server (.set_nonblocking fd ahead) (.register fd ahead)
  | recvStops (event : EpollEvent) (ahead : List EpollEvent) (stopped : server.running = false) :
      MainMove listen_fd server (.recv event ahead) (.epollout event ahead)
  | echoed (event : EpollEvent) (ahead : List EpollEvent) :
      MainMove listen_fd server (.echo event [] ahead) (.recv event ahead)
  | unmasked (event : EpollEvent) (ahead : List EpollEvent) (unmasked : event.epollout = false) :
      MainMove listen_fd server (.epollout event ahead) (.events ahead)
  | drain (event : EpollEvent) (ahead : List EpollEvent) (masked : event.epollout = true)
      (pending : server.cached event.fd ≠ []) :
      MainMove listen_fd server (.epollout event ahead) (.drain event ahead)

/-- A result of `recv`, or of the `send` of the echo loop, at which the recv loop closes the
connection. -/
def MainInput.closes : MainInput Byte → Bool
  | .recv bytes => bytes = []
  | .fails errno => errno ≠ EAGAIN
  | _ => false

/-- Every step of `main`, with its guard and its result. -/
inductive MainStep (listen_fd : Nat) (server : BufferServer Byte) :
    MainInput Byte → BufferServer Byte → Prop where
  | move (input : MainInput Byte) (place : MainPlace Byte)
      (move : MainMove listen_fd server server.place place) :
      MainStep listen_fd server input (server.goTo place)
  | accepted (fd : Nat) (ahead : List EpollEvent) (place : server.place = .accept ahead)
      (fresh : server.openFds fd = false) :
      MainStep listen_fd server (.accept fd)
        ((server.newClient fd).goTo (.set_nonblocking fd ahead))
  | refused (errno fd : Nat) (ahead : List EpollEvent)
      (place : server.place = .set_nonblocking fd ahead) :
      MainStep listen_fd server (.fails errno) ((server.close fd).goTo (.accept ahead))
  | registered (fd : Nat) (ahead : List EpollEvent) (place : server.place = .register fd ahead) :
      MainStep listen_fd server .succeeds ((server.register fd).goTo (.accept ahead))
  | unregistered (errno fd : Nat) (ahead : List EpollEvent)
      (place : server.place = .register fd ahead) :
      MainStep listen_fd server (.fails errno)
        (((server.onPeer fd (Peer.issue [.epoll_ctl])).close fd).goTo (.accept ahead))
  | receives (event : EpollEvent) (bytes : List Byte) (ahead : List EpollEvent)
      (place : server.place = .recv event ahead) (running : server.running = true)
      (isOpen : server.openFds event.fd = true) (nonempty : bytes ≠ []) :
      MainStep listen_fd server (.recv bytes)
        (((server.onPeer event.fd (Peer.issue [.recv])).onPeer event.fd
          (Peer.receive bytes)).goTo (.echo event bytes ahead))
  | recvBlocked (errno : Nat) (event : EpollEvent) (ahead : List EpollEvent)
      (place : server.place = .recv event ahead) (running : server.running = true) :
      MainStep listen_fd server (.fails errno)
        ((server.onPeer event.fd (Peer.issue [.recv])).goTo (.epollout event ahead))
  | recvCloses (input : MainInput Byte) (event : EpollEvent) (ahead : List EpollEvent)
      (place : server.place = .recv event ahead) (running : server.running = true)
      (closes : input.closes = true) :
      MainStep listen_fd server input
        (((server.onPeer event.fd (Peer.issue [.recv])).closeClient event.fd).goTo
          (.epollout event ahead))
  | sends (sent : Nat) (event : EpollEvent) (rest : List Byte) (ahead : List EpollEvent)
      (place : server.place = .echo event rest ahead)
      (isOpen : server.openFds event.fd = true) :
      MainStep listen_fd server (.send sent)
        (((server.onPeer event.fd (Peer.issue [.send])).onPeer event.fd
          (Peer.accept (rest.take sent))).goTo (.echo event (rest.drop sent) ahead))
  | caches (errno : Nat) (event : EpollEvent) (rest : List Byte) (ahead : List EpollEvent)
      (place : server.place = .echo event rest ahead)
      (isOpen : server.openFds event.fd = true) :
      MainStep listen_fd server (.fails errno)
        ((((server.onPeer event.fd (Peer.issue [.send])).setBuffer event.fd
          (some (server.cached event.fd ++ rest))).onPeer event.fd
            (Peer.issue [.epoll_ctl])).goTo (.recv event ahead))
  | sendCloses (errno : Nat) (event : EpollEvent) (rest : List Byte) (ahead : List EpollEvent)
      (place : server.place = .echo event rest ahead) (pending : rest ≠ [])
      (closes : errno ≠ EAGAIN) :
      MainStep listen_fd server (.fails errno)
        (((server.onPeer event.fd (Peer.issue [.send])).closeClient event.fd).goTo
          (.recv event ahead))
  | silences (input : MainInput Byte) (event : EpollEvent) (ahead : List EpollEvent)
      (place : server.place = .epollout event ahead) (masked : event.epollout = true) :
      MainStep listen_fd server input
        ((server.onPeer event.fd (Peer.issue [.epoll_ctl])).goTo (.events ahead))
  | drainBlocked (errno : Nat) (event : EpollEvent) (ahead : List EpollEvent)
      (place : server.place = .drain event ahead) :
      MainStep listen_fd server (.fails errno)
        ((server.onPeer event.fd (Peer.issue [.send])).goTo (.events ahead))
  | drainCloses (errno : Nat) (event : EpollEvent) (ahead : List EpollEvent)
      (place : server.place = .drain event ahead) :
      MainStep listen_fd server (.fails errno)
        (((server.onPeer event.fd (Peer.issue [.send])).closeClient event.fd).goTo (.events ahead))
  | drained (event : EpollEvent) (ahead : List EpollEvent)
      (place : server.place = .drain event ahead) (isOpen : server.openFds event.fd = true) :
      MainStep listen_fd server (.send (server.cached event.fd).length)
        (((((server.onPeer event.fd (Peer.issue [.send])).onPeer event.fd
          (Peer.accept (server.cached event.fd))).setBuffer event.fd none).onPeer event.fd
            (Peer.issue [.epoll_ctl])).goTo (.events ahead))
  | drains (sent : Nat) (event : EpollEvent) (ahead : List EpollEvent)
      (place : server.place = .drain event ahead) (isOpen : server.openFds event.fd = true) :
      MainStep listen_fd server (.send sent)
        ((((server.onPeer event.fd (Peer.issue [.send])).onPeer event.fd
          (Peer.accept ((server.cached event.fd).take sent))).setBuffer event.fd
            (some ((server.cached event.fd).drop sent))).goTo (.events ahead))

section Inversion

variable {listen_fd : Nat} {server after : BufferServer Byte} {event : EpollEvent}
  {ahead : List EpollEvent} {input : MainInput Byte}

/-- EAGAIN is no EBADF. -/
theorem open_of_again {fd errno : Nat} (may : server.mayFail fd errno = true)
    (again : errno = EAGAIN ∨ errno = EWOULDBLOCK) : server.openFds fd = true := by
  have same : server.openFds fd = (errno ≠ EBADF : Bool) := of_decide_eq_true may
  rw [same]
  rcases again with rfl | rfl <;> rfl

theorem epollWait_cases (place : server.place = .epoll_wait)
    (step : server.epollWait input = some after) : MainStep listen_fd server input after := by
  unfold BufferServer.epollWait at step
  split at step
  · split at step
    · rename_i reported
      cases step
      exact .move _ _ (place ▸ .reported _ reported)
    · cases step
  · cases step
    split
    · exact .move _ _ (place ▸ .interrupted)
    · exact .move _ _ (place ▸ .failed)
  · cases step

theorem nextEvent_cases (place : server.place = .events ahead) :
    MainStep listen_fd server input (server.nextEvent listen_fd ahead) := by
  unfold BufferServer.nextEvent
  split
  · exact .move _ _ (place ▸ .handled)
  · split
    · rename_i here
      exact .move _ _ (place ▸ .listening _ _ here)
    · rename_i other
      exact .move _ _ (place ▸ .client _ _ other)

theorem acceptOne_cases (place : server.place = .accept ahead)
    (step : server.acceptOne ahead input = some after) : MainStep listen_fd server input after := by
  unfold BufferServer.acceptOne at step
  split at step
  · split at step
    · cases step
    · rename_i fresh
      cases step
      exact .accepted _ ahead place (by simpa using fresh)
  · cases step
    exact .move _ _ (place ▸ .acceptEnds ahead)
  · cases step

theorem setNonblocking_cases {fd : Nat} (place : server.place = .set_nonblocking fd ahead)
    (step : server.setNonblocking fd ahead input = some after) :
    MainStep listen_fd server input after := by
  unfold BufferServer.setNonblocking at step
  split at step
  · cases step
    exact .move _ _ (place ▸ .nonblocking fd ahead)
  · cases step
    exact .refused _ fd ahead place
  · cases step

theorem registerClient_cases {fd : Nat} (place : server.place = .register fd ahead)
    (step : server.registerClient fd ahead input = some after) :
    MainStep listen_fd server input after := by
  unfold BufferServer.registerClient at step
  split at step
  · cases step
    exact .registered fd ahead place
  · cases step
    exact .unregistered _ fd ahead place
  · cases step

theorem recvOne_cases (place : server.place = .recv event ahead) (running : server.running = true)
    (step : server.recvOne event ahead input = some after) :
    MainStep listen_fd server input after := by
  unfold BufferServer.recvOne at step
  dsimp only at step
  split at step
  · split at step
    · rename_i allowed
      split at step
      · rename_i ended
        cases step
        exact .recvCloses _ event ahead place running (decide_eq_true ended)
      · rename_i nonempty
        cases step
        exact .receives event _ ahead place running allowed.1 nonempty
    · cases step
  · split at step
    · rename_i may
      split at step
      · cases step
        exact .recvBlocked _ event ahead place running
      · rename_i error
        cases step
        exact .recvCloses _ event ahead place running
          (decide_eq_true fun again => error (.inl again))
    · cases step
  · cases step

theorem echoOne_cases {rest : List Byte} (place : server.place = .echo event rest ahead)
    (pending : rest ≠ [])
    (step : server.echoOne event rest ahead input = some after) :
    MainStep listen_fd server input after := by
  unfold BufferServer.echoOne at step
  dsimp only at step
  split at step
  · split at step
    · rename_i allowed
      cases step
      exact .sends _ event rest ahead place allowed.1
    · cases step
  · split at step
    · rename_i may
      split at step
      · rename_i again
        cases step
        exact .caches _ event rest ahead place (open_of_again may (.inl again.1))
      · rename_i error
        cases step
        exact .sendCloses _ event rest ahead place pending fun again => error ⟨again, again⟩
    · cases step
  · cases step

theorem writable_cases (place : server.place = .epollout event ahead) :
    MainStep listen_fd server input (server.writable event ahead) := by
  unfold BufferServer.writable
  split
  · rename_i masked
    split
    · exact .silences input event ahead place masked
    · rename_i pending
      exact .move _ _ (place ▸ .drain event ahead masked pending)
  · rename_i unmasked
    exact .move _ _ (place ▸ .unmasked event ahead (by simpa using unmasked))

theorem drainOne_cases (place : server.place = .drain event ahead)
    (step : server.drainOne event ahead input = some after) :
    MainStep listen_fd server input after := by
  unfold BufferServer.drainOne at step
  dsimp only at step
  split at step
  · split at step
    · rename_i allowed
      split at step
      · rename_i whole
        cases step
        rw [whole, List.take_length]
        exact .drained event ahead place allowed.1
      · cases step
        exact .drains _ event ahead place allowed.1
    · cases step
  · split at step
    · split at step
      · cases step
        exact .drainBlocked _ event ahead place
      · cases step
        exact .drainCloses _ event ahead place
    · cases step
  · cases step

/-- The inversion of `BufferServer.main`. -/
theorem main_cases (step : server.main listen_fd input = some after) :
    MainStep listen_fd server input after := by
  unfold BufferServer.main at step
  split at step
  · rename_i place
    cases step
    split
    · rename_i running
      exact .move _ _ (place ▸ .enter running)
    · rename_i stopped
      exact .move _ _ (place ▸ .stop (by simpa using stopped))
  · exact epollWait_cases ‹_› step
  · cases step
    exact nextEvent_cases ‹_›
  · rename_i place
    split at step
    · exact acceptOne_cases place step
    · cases step
      exact .move _ _ (place ▸ .acceptEnds _)
  · exact setNonblocking_cases ‹_› step
  · exact registerClient_cases ‹_› step
  · rename_i place
    split at step
    · exact recvOne_cases place ‹_› step
    · rename_i stopped
      cases step
      exact .move _ _ (place ▸ .recvStops _ _ (by simpa using stopped))
  · rename_i place
    split at step
    · rename_i sent
      cases step
      exact .move _ _ (place ▸ sent ▸ .echoed _ _)
    · exact echoOne_cases place ‹_› step
  · cases step
    exact writable_cases ‹_›
  · exact drainOne_cases ‹_› step
  · cases step

end Inversion

end Server

end MultiReactor
