/-
This file models `TcpServer` (TcpServer.h, TcpServer.cpp) and
`EventLoopThreadPool::getNextLoop` as a client of the event loops, from the
point where `TcpServer::start` has returned to the point where `~TcpServer`
begins. The base loop is `none`, the sub loop of index `i` is `some i`; with no
sub loops every connection lives on the base loop and its functors run
synchronously.

A shared_ptr is owned by an entry of `connections_`, by a functor `std::bind`
made, or by a temporary or local that a `release` on a stack ends. The strong
count of each control block is kept explicitly: copies raise it, destructions
lower it, and `~TcpConnection` runs in the step that lowers it to zero.
Executing a statement of an object whose destructor has run is undefined: the
thread has no further step.
-/

import MultiReactor.Step
import MultiReactor.TcpConnection

namespace MultiReactor

/-! ### Functors, code and system calls -/

/-- The base loop, and the sub loops of the thread pool. -/
abbrev LoopId (subLoops : Nat) := Option (Fin subLoops)

/-- The loop `TcpServer` was constructed with. -/
abbrev baseLoop {subLoops : Nat} : LoopId subLoops := none

/-- A connection is named by its place in the order of creation. -/
abbrev ConnectionId := Nat

/-- The functors: a member function of `TcpConnection` bound to a shared_ptr, or
`TcpServer::removeConnectionInLoop` bound to one. -/
inductive Functor where
  | bind (c : ConnectionId) (body : Statement)
  | removeConnectionInLoop (c : ConnectionId)
  deriving DecidableEq

/-- The connection whose shared_ptr a functor holds. -/
def Functor.connection : Functor → ConnectionId
  | .bind c _ => c
  | .removeConnectionInLoop c => c

/-- The client channels: `listen_channel_` and the connections' channels. -/
inductive ChannelId where
  | listen
  | connection (c : ConnectionId)
  deriving DecidableEq

/-- The statements of the server's threads. -/
inductive ServerCode where
  | connection (c : ConnectionId) (body : Statement)
  /-- the test of `Channel::handleEvent` on `listen_channel_` -/
  | listenCallback
  /-- the head of the accept loop -/
  | handleAccept
  | removeConnection (c : ConnectionId)
  | removeConnectionInLoop (c : ConnectionId)
  /-- a shared_ptr that is a local or a temporary goes out of scope -/
  | release (c : ConnectionId)
  deriving DecidableEq

/-- What `accept` returns, and for a new fd whether `setNonBlocking` succeeds on it. -/
inductive AcceptResult where
  | client (fd : Nat) (nonBlocking : Bool)
  | again
  | error
  deriving DecidableEq

/-- A call a user thread makes: it holds a shared_ptr for the duration of the call. -/
inductive UserCall (subLoops : Nat) where
  | send (c : ConnectionId) (msg : Bytes)
  | forceClose (c : ConnectionId)
  /-- `l->runInLoop(std::bind(&TcpConnection::send, conn, msg))` -/
  | sendOn (l : LoopId subLoops) (c : ConnectionId) (msg : Bytes)
  /-- `l->runInLoop(std::bind(&TcpConnection::forceClose, conn))` -/
  | forceCloseOn (l : LoopId subLoops) (c : ConnectionId)
  /-- `l->quit()` -/
  | quit (l : LoopId subLoops)
  deriving DecidableEq

/-- What the environment decides in a step. -/
inductive Input (subLoops : Nat) where
  | io (result : IoResult)
  | accept (result : AcceptResult)
  /-- the masks `epoll_wait` reports -/
  | revents (mask : ChannelId → Events)
  | user (call : UserCall subLoops)

/-! ### The server's data -/

/-- The connections ever created, the members of `TcpServer` and of its thread pool, and the
kernel's part: the interest list of each loop's epoll instance and the open fds. -/
structure TcpServer (subLoops : Nat) where
  connections : List (TcpConnection (LoopId subLoops))
  /-- `connections_`: the connection stored under each fd -/
  connections_ : Nat → Option ConnectionId
  listen_channel_ : Channel
  next_ : Nat
  epoll : LoopId subLoops → Interest ChannelId
  openFds : Nat → Bool

section Server

variable {subLoops : Nat}

/-- The connection of a name, whether its destructor has run or not. -/
def TcpServer.find (server : TcpServer subLoops) (c : ConnectionId) :
    Option (TcpConnection (LoopId subLoops)) :=
  server.connections[c]?

def TcpServer.setConnection (server : TcpServer subLoops) (c : ConnectionId)
    (connection : TcpConnection (LoopId subLoops)) : TcpServer subLoops :=
  { server with connections := server.connections.set c connection }

def TcpServer.setEpoll (server : TcpServer subLoops) (l : LoopId subLoops)
    (interest : Interest ChannelId) : TcpServer subLoops :=
  { server with epoll := Function.update server.epoll l interest }

/-- A shared_ptr to the connection is copied. -/
def TcpServer.share (server : TcpServer subLoops) (c : ConnectionId) : TcpServer subLoops :=
  { server with connections := server.connections.modify c TcpConnection.share }

/-- `::close(fd)`: the number is free again and leaves every epoll instance. -/
def TcpServer.closeFd (server : TcpServer subLoops) (fd : Nat) : TcpServer subLoops :=
  { server with
    epoll := fun l => (server.epoll l).close fd
    openFds := Function.update server.openFds fd false }

/-- A shared_ptr to the connection is destroyed; the last one destroys the connection, on
whatever thread this happens. -/
def TcpServer.release (server : TcpServer subLoops) (c : ConnectionId) : TcpServer subLoops :=
  let dropped := { server with connections := server.connections.modify c TcpConnection.drop }
  match server.find c with
  | some connection => if connection.useCount = 1 then dropped.closeFd connection.fd_ else dropped
  | none => server

/-- `EventLoopThreadPool::getNextLoop`: undefined where `loops_[next_]` is out of bounds. -/
def TcpServer.getNextLoop (server : TcpServer subLoops) :
    Option (LoopId subLoops × TcpServer subLoops) :=
  if subLoops = 0 then some (baseLoop, server)
  else if inBounds : server.next_ < subLoops then
    some (some ⟨server.next_, inBounds⟩, { server with next_ := (server.next_ + 1) % subLoops })
  else none

/-- `connections_[fd] = conn`: the entry becomes an owner, and an entry it overwrites stops
being one. -/
def TcpServer.store (server : TcpServer subLoops) (fd : Nat) (c : ConnectionId) :
    TcpServer subLoops :=
  let stored := { (server.share c) with
    connections_ := Function.update server.connections_ fd (some c) }
  match server.connections_ fd with
  | some old => stored.release old
  | none => stored

/-- One round of the loop of `TcpServer::handleAccept`. The kernel returns no fd that is
open. -/
def TcpServer.handleAccept (server : TcpServer subLoops) (result : AcceptResult) :
    Option (TcpServer subLoops × List (Call (LoopId subLoops) Functor ServerCode)) :=
  match result with
  | .again => some (server, [])
  | .error => some (server, [])
  | .client fd nonBlocking =>
    if server.openFds fd then none
    else if nonBlocking then
      server.getNextLoop.map fun (subLoop, dealt) =>
        let c := dealt.connections.length
        let conn := { TcpConnection.new subLoop fd with closeCallback_ := true }
        let created := { dealt with
          connections := dealt.connections ++ [conn]
          openFds := Function.update dealt.openFds fd true }
        (created.store fd c,
          [.code (.connection c .connectEstablished), .code (.release c), .code .handleAccept])
    else
      -- `close(client_fd); continue;`
      some (server, [.code .handleAccept])

/-- `TcpServer::removeConnection`. -/
def TcpServer.removeConnection (server : TcpServer subLoops) (c : ConnectionId) :
    TcpServer subLoops × List (Call (LoopId subLoops) Functor ServerCode) :=
  (server.share c, [.runInLoop baseLoop (.removeConnectionInLoop c)])

/-- `TcpServer::removeConnectionInLoop`: the map is searched by fd number. -/
def TcpServer.removeConnectionInLoop (server : TcpServer subLoops) (c : ConnectionId)
    (connection : TcpConnection (LoopId subLoops)) :
    TcpServer subLoops × List (Call (LoopId subLoops) Functor ServerCode) :=
  match server.connections_ connection.fd_ with
  | none => (server, [])
  | some erased =>
    (({ server with
        connections_ := Function.update server.connections_ connection.fd_ none }.release
          erased).share c,
      [.runInLoop connection.loop_ (.bind c .connectDestroyed)])

/-- Running what a statement of a connection leaves to be done on the thread. -/
def Next.toCall (c : ConnectionId) (loop : LoopId subLoops) :
    Next → Call (LoopId subLoops) Functor ServerCode
  | .statement body => .code (.connection c body)
  | .runInLoop body => .runInLoop loop (.bind c body)
  | .closeCallback => .code (.removeConnection c)
  | .release => .code (.release c)

/-- The world after a statement of connection `c` had this outcome. -/
def TcpServer.commit (server : TcpServer subLoops) (c : ConnectionId)
    (outcome : Outcome (LoopId subLoops)) : TcpServer subLoops :=
  (server.setConnection c outcome.connection).setEpoll outcome.connection.loop_
    ((server.epoll outcome.connection.loop_).update outcome.connection.fd_ (.connection c)
      outcome.ctl)

/-- A connection whose destructor has not run. -/
def TcpServer.live (server : TcpServer subLoops) (c : ConnectionId) :
    Option (TcpConnection (LoopId subLoops)) :=
  (server.find c).filter TcpConnection.alive

/-- The system call result an input carries, if it carries one. -/
def Input.ioResult : Input subLoops → IoResult
  | .io result => result
  | _ => .none

/-- Executing one statement of the server's code. -/
def TcpServer.execute (body : ServerCode) (input : Input subLoops) (server : TcpServer subLoops) :
    Option (TcpServer subLoops × List (Call (LoopId subLoops) Functor ServerCode)) :=
  match body with
  | .connection c body =>
    (server.live c).bind fun connection =>
      (connection.execute body input.ioResult).map fun outcome =>
        (server.commit c outcome, outcome.next.map (Next.toCall c connection.loop_))
  | .listenCallback =>
    some (server, if server.listen_channel_.revents_.epollin then [.code .handleAccept] else [])
  | .handleAccept =>
    match input with
    | .accept result => server.handleAccept result
    | _ => none
  | .removeConnection c => (server.live c).map fun _ => server.removeConnection c
  | .removeConnectionInLoop c => (server.live c).map (server.removeConnectionInLoop c)
  | .release c => some (server.release c, [])

/-- Calling a functor. -/
def Functor.invoke : Functor → List (Call (LoopId subLoops) Functor ServerCode)
  | .bind c body => [.code (.connection c body)]
  | .removeConnectionInLoop c => [.code (.removeConnectionInLoop c)]

/-- `Channel::handleEvent` of a client channel: error, read and write in this order. -/
def ChannelId.handleEvent : ChannelId → List (Call (LoopId subLoops) Functor ServerCode)
  | .listen => [.code .listenCallback]
  | .connection c => [.code (.connection c .errorCallback), .code (.connection c .readCallback),
      .code (.connection c .writeCallback)]

/-- Whether a loop's epoll instance can report a channel: it is in the interest list, and the
channel `ev.data.ptr` points to exists. -/
def TcpServer.reports (server : TcpServer subLoops) (l : LoopId subLoops) : ChannelId → Bool
  | .listen => ((server.epoll l) server.listen_channel_.fd_).map Prod.snd = some .listen
  | .connection c => match server.live c with
    | some connection => ((server.epoll l) connection.fd_).map Prod.snd = some (.connection c)
    | none => false

/-- `Epoll::poll`: `setRevents` on every channel that `epoll_wait` reports. -/
def TcpServer.setRevents (server : TcpServer subLoops) (active : List ChannelId)
    (mask : ChannelId → Events) : TcpServer subLoops :=
  { server with
    listen_channel_ := if .listen ∈ active then server.listen_channel_.setRevents (mask .listen)
      else server.listen_channel_
    connections := server.connections.mapIdx fun c connection =>
      if .connection c ∈ active then
        { connection with channel_ := connection.channel_.setRevents (mask (.connection c)) }
      else connection }

def TcpServer.poll (l : LoopId subLoops) (active : List ChannelId) (input : Input subLoops)
    (server : TcpServer subLoops) : Option (TcpServer subLoops) :=
  match input with
  | .revents mask =>
    if active.all (server.reports l) then some (server.setRevents active mask) else none
  | _ => none

/-- A user thread begins a call. -/
def TcpServer.begin {User : Type} (thread : Thread (LoopId subLoops) User)
    (input : Input subLoops) (server : TcpServer subLoops) :
    Option (TcpServer subLoops × List (Call (LoopId subLoops) Functor ServerCode)) :=
  match thread, input with
  | .user _, .user (.send c msg) => (server.live c).map fun _ =>
      (server.share c, [.code (.connection c (.send msg)), .code (.release c)])
  | .user _, .user (.forceClose c) => (server.live c).map fun _ =>
      (server.share c, [.code (.connection c .forceClose), .code (.release c)])
  | .user _, .user (.sendOn l c msg) => (server.live c).map fun _ =>
      (server.share c, [.runInLoop l (.bind c (.send msg))])
  | .user _, .user (.forceCloseOn l c) => (server.live c).map fun _ =>
      (server.share c, [.runInLoop l (.bind c .forceClose)])
  | .user _, .user (.quit l) => some (server, [.quit l])
  | _, _ => none

/-- The server as a client of its event loops. -/
def TcpServer.client (subLoops : Nat) (User : Type) :
    Client (LoopId subLoops) User Functor ChannelId ServerCode (Input subLoops)
      (TcpServer subLoops) :=
  { execute := TcpServer.execute
    invoke := Functor.invoke
    handleEvent := ChannelId.handleEvent
    copy := fun cb server => server.share cb.connection
    destroy := fun cb server => server.release cb.connection
    poll := TcpServer.poll
    begin := TcpServer.begin }

/-- The server when `start` has returned: listening on the base loop, without connections.
`openFds` are the fds the process has open by then. -/
def TcpServer.started (subLoops listenFd : Nat) (openFds : Nat → Bool) : TcpServer subLoops :=
  { connections := []
    connections_ := fun _ => none
    listen_channel_ := (Epoll.updateChannel (Channel.new listenFd).enableReading).1
    next_ := 0
    epoll := fun l => if l = baseLoop then
        Interest.update (fun _ => none) listenFd .listen
          (Epoll.updateChannel (Channel.new listenFd).enableReading).2
      else fun _ => none
    openFds := Function.update openFds listenFd true }

/-- The running server as a transition system. -/
abbrev TcpServer.system (subLoops : Nat) (User : Type) [DecidableEq User] (listenFd : Nat)
    (openFds : Nat → Bool) :=
  (TcpServer.client subLoops User).system (TcpServer.started subLoops listenFd openFds)

/-- The states of the running server. -/
abbrev ServerMachine (subLoops : Nat) (User : Type) :=
  Machine (LoopId subLoops) User Functor ChannelId ServerCode (TcpServer subLoops)

/-- The events of the running server. -/
abbrev ServerEvent (subLoops : Nat) (User : Type) :=
  Event (LoopId subLoops) User ChannelId (Input subLoops)

/-! ### Events that occur in many runs -/

/-- A thread executes an instruction that makes no system call. -/
abbrev steps {User : Type} (thread : Thread (LoopId subLoops) User) :
    ServerEvent subLoops User :=
  .run thread (.io .none)

/-- A loop's thread moves on in `loop()`. -/
abbrev moves {User : Type} (l : LoopId subLoops) : ServerEvent subLoops User :=
  .advance l [] (.io .none)

/-- `epoll_wait` returns these entries, the client's channels with EPOLLIN. -/
abbrev readable {User : Type} (l : LoopId subLoops) (active : List (Ready ChannelId)) :
    ServerEvent subLoops User :=
  .advance l active (.revents fun _ => { Events.none with epollin := true })

/-- The first of the sub loops. -/
def firstLoop : LoopId 1 := some 0

end Server

end MultiReactor
