/-
This file says once what the server's code can do. `ServerExecutes`,
`ServerBegins` and `ServerPolls` list the branches of `TcpServer.execute`,
`TcpServer.begin` and `TcpServer.poll` with their guards and their results, and
the lookups say what each operation does to one connection. The server obeys
the discipline under which a statement other than a dispatch test, an accept
round or a release is the next thing its thread executes.
-/

import MultiReactor.Discipline
import MultiReactor.Outcomes
import MultiReactor.TcpServer

namespace MultiReactor

variable {subLoops : Nat} {User : Type}

/-! ### One connection after an operation -/

section Lookups

variable (server : TcpServer subLoops) (c d : ConnectionId)

theorem share_find :
    (server.share c).find d =
      if d = c then (server.find d).map TcpConnection.share else server.find d := by
  unfold TcpServer.share TcpServer.find
  rw [List.getElem?_modify]
  by_cases same : d = c
  · subst same
    simp
  · simp [same, Ne.symm same]

theorem release_connections :
    (server.release c).connections = server.connections.modify c TcpConnection.drop := by
  unfold TcpServer.release
  dsimp only
  split
  · split <;> rfl
  · rename_i missing
    exact (List.modify_eq_self (List.getElem?_eq_none_iff.mp missing)).symm

theorem release_find :
    (server.release c).find d =
      if d = c then (server.find d).map TcpConnection.drop else server.find d := by
  unfold TcpServer.find
  rw [release_connections, List.getElem?_modify]
  by_cases same : d = c
  · subst same
    simp
  · simp [same, Ne.symm same]

theorem commit_find {connection : TcpConnection (LoopId subLoops)}
    (found : server.find c = some connection) (outcome : Outcome (LoopId subLoops)) :
    (server.commit c outcome).find d =
      if d = c then some outcome.connection else server.find d := by
  obtain ⟨bound, -⟩ := List.getElem?_eq_some_iff.mp found
  show (server.connections.set c outcome.connection)[d]? = _
  rw [List.getElem?_set]
  by_cases same : d = c
  · subst same
    simp [bound]
  · simp [same, Ne.symm same, TcpServer.find]

theorem setRevents_find (active : List ChannelId) (mask : ChannelId → Events) :
    (server.setRevents active mask).find d = (server.find d).map fun connection =>
      if .connection d ∈ active then
        { connection with channel_ := connection.channel_.setRevents (mask (.connection d)) }
      else connection := by
  unfold TcpServer.setRevents TcpServer.find
  rw [List.getElem?_mapIdx]

/-- What releasing a connection does to the other members. -/
theorem release_members {connection : TcpConnection (LoopId subLoops)}
    (found : server.find c = some connection) :
    (server.release c).connections_ = server.connections_ ∧
      (server.release c).listen_channel_ = server.listen_channel_ ∧
      (server.release c).openFds = (if connection.useCount = 1 then
        Function.update server.openFds connection.fd_ false else server.openFds) ∧
      (server.release c).epoll = if connection.useCount = 1 then
        fun l => (server.epoll l).close connection.fd_ else server.epoll := by
  unfold TcpServer.release
  rw [found]
  dsimp only
  split <;> exact ⟨rfl, rfl, rfl, rfl⟩

/-- Releasing a connection that has another owner and sharing it again changes nothing. -/
theorem release_share_self {connection : TcpConnection (LoopId subLoops)}
    (found : server.find c = some connection) (shared : 2 ≤ connection.useCount) :
    (server.release c).share c = server := by
  have kept : connection.drop.share = connection := by
    unfold TcpConnection.drop TcpConnection.share
    rw [if_neg (by omega), show connection.useCount - 1 + 1 = connection.useCount by omega]
  have connections :
      (server.connections.modify c TcpConnection.drop).modify c TcpConnection.share =
        server.connections := by
    refine List.ext_getElem? fun d => ?_
    rw [List.getElem?_modify, List.getElem?_modify]
    by_cases same : c = d
    · subst same
      rw [show server.connections[c]? = some connection from found]
      simp [kept]
    · simp [same]
  unfold TcpServer.release TcpServer.share
  rw [found]
  dsimp only
  rw [if_neg (by omega)]
  dsimp only
  rw [connections]

theorem getNextLoop_eq {subLoop : LoopId subLoops} {dealt : TcpServer subLoops}
    (deal : server.getNextLoop = some (subLoop, dealt)) :
    ∃ next, dealt = { server with next_ := next } := by
  unfold TcpServer.getNextLoop at deal
  split at deal
  · cases deal
    exact ⟨server.next_, rfl⟩
  · split at deal
    · cases deal
      exact ⟨_, rfl⟩
    · cases deal

/-- With sub loops, no connection is dealt to the base loop. -/
theorem getNextLoop_ne_base {subLoop : LoopId subLoops} {dealt : TcpServer subLoops}
    (deal : server.getNextLoop = some (subLoop, dealt)) (some : 0 < subLoops) :
    subLoop ≠ baseLoop := by
  unfold TcpServer.getNextLoop at deal
  rw [if_neg some.ne'] at deal
  split at deal
  · cases deal
    exact nofun
  · cases deal

end Lookups

theorem live_eq_some {server : TcpServer subLoops} {c : ConnectionId}
    {connection : TcpConnection (LoopId subLoops)} :
    server.live c = some connection ↔
      server.find c = some connection ∧ 0 < connection.useCount := by
  simp [TcpServer.live, TcpConnection.alive, Option.filter_eq_some_iff]

/-- The connection `handleAccept` makes, before `connections_` shares it. -/
def TcpConnection.accepted (subLoop : LoopId subLoops) (fd : Nat) :
    TcpConnection (LoopId subLoops) :=
  { TcpConnection.new subLoop fd with closeCallback_ := true }

/-- The map without the entry of a key, before the entry's shared_ptr is destroyed. -/
def TcpServer.erase (server : TcpServer subLoops) (fd : Nat) : TcpServer subLoops :=
  { server with connections_ := Function.update server.connections_ fd none }

/-- The server with a new connection that the local `conn` and the map own. -/
def TcpServer.enroll (server : TcpServer subLoops) (subLoop : LoopId subLoops) (fd : Nat) :
    TcpServer subLoops :=
  { server with
    connections := server.connections ++ [(TcpConnection.accepted subLoop fd).share]
    connections_ := Function.update server.connections_ fd (some server.connections.length)
    openFds := Function.update server.openFds fd true }

theorem modify_last {Element : Type} (front : List Element) (last : Element)
    (change : Element → Element) :
    (front ++ [last]).modify front.length change = front ++ [change last] := by
  induction front with
  | nil => rfl
  | cons first rest inductionHypothesis => simp [inductionHypothesis]

/-- Storing a new connection under a key that has no entry. -/
theorem store_eq_enroll (server : TcpServer subLoops) (subLoop : LoopId subLoops) (fd : Nat)
    (missing : server.connections_ fd = none) :
    TcpServer.store { server with
      connections := server.connections ++ [TcpConnection.accepted subLoop fd]
      openFds := Function.update server.openFds fd true } fd server.connections.length =
      server.enroll subLoop fd := by
  unfold TcpServer.store TcpServer.share TcpServer.enroll
  dsimp only
  rw [missing]
  dsimp only
  rw [modify_last]

theorem enroll_find (server : TcpServer subLoops) (subLoop : LoopId subLoops) (fd : Nat)
    (d : ConnectionId) :
    (server.enroll subLoop fd).find d = if d = server.connections.length then
      some (TcpConnection.accepted subLoop fd).share else server.find d := by
  show (server.connections ++ [_])[d]? = _
  rw [List.getElem?_append]
  by_cases before : d < server.connections.length
  · rw [if_pos before, if_neg before.ne]
    rfl
  · rw [if_neg before]
    by_cases same : d = server.connections.length
    · simp [same]
    · have past : server.connections.length < d :=
        Nat.lt_of_le_of_ne (Nat.not_lt.mp before) (Ne.symm same)
      have beyond : [(TcpConnection.accepted subLoop fd).share].length ≤
          d - server.connections.length := by
        rw [List.length_singleton]
        omega
      rw [if_neg same, TcpServer.find, List.getElem?_eq_none beyond,
        List.getElem?_eq_none past.le]

/-! ### The branches of the server's code -/

/-- Every branch of the server's code, with its guard and its result. -/
inductive ServerExecutes (server : TcpServer subLoops) :
    ServerCode → Input subLoops → TcpServer subLoops →
      List (Call (LoopId subLoops) Functor ServerCode) → Prop where
  | connection (c : ConnectionId) (body : Statement) (input : Input subLoops)
      (connection : TcpConnection (LoopId subLoops)) (outcome : Outcome (LoopId subLoops))
      (found : server.find c = some connection) (alive : 0 < connection.useCount)
      (executes : Executes connection body input.ioResult outcome) :
      ServerExecutes server (.connection c body) input (server.commit c outcome)
        (outcome.next.map (Next.toCall c connection.loop_))
  | listenCallback (input : Input subLoops)
      (masked : server.listen_channel_.revents_.epollin = true) :
      ServerExecutes server .listenCallback input server [.code .handleAccept]
  | listenIgnored (input : Input subLoops) : ServerExecutes server .listenCallback input server []
  | acceptEnds (result : AcceptResult) (ends : result = .again ∨ result = .error) :
      ServerExecutes server .handleAccept (.accept result) server []
  | acceptRefused (fd : Nat) (fresh : server.openFds fd = false) :
      ServerExecutes server .handleAccept (.accept (.client fd false)) server [.code .handleAccept]
  | accepted (fd : Nat) (fresh : server.openFds fd = false) (subLoop : LoopId subLoops)
      (dealt : TcpServer subLoops) (deal : server.getNextLoop = some (subLoop, dealt)) :
      ServerExecutes server .handleAccept (.accept (.client fd true))
        ({ dealt with
          connections := dealt.connections ++ [TcpConnection.accepted subLoop fd]
          openFds := Function.update dealt.openFds fd true }.store fd dealt.connections.length)
        [.code (.connection dealt.connections.length .connectEstablished),
          .code (.release dealt.connections.length), .code .handleAccept]
  | removeConnection (c : ConnectionId) (input : Input subLoops)
      (connection : TcpConnection (LoopId subLoops))
      (found : server.find c = some connection) (alive : 0 < connection.useCount) :
      ServerExecutes server (.removeConnection c) input (server.share c)
        [.runInLoop baseLoop (.removeConnectionInLoop c)]
  | removedAlready (c : ConnectionId) (input : Input subLoops)
      (connection : TcpConnection (LoopId subLoops))
      (found : server.find c = some connection) (alive : 0 < connection.useCount)
      (missing : server.connections_ connection.fd_ = none) :
      ServerExecutes server (.removeConnectionInLoop c) input server []
  | removeConnectionInLoop (c : ConnectionId) (input : Input subLoops)
      (connection : TcpConnection (LoopId subLoops)) (erased : ConnectionId)
      (found : server.find c = some connection) (alive : 0 < connection.useCount)
      (entry : server.connections_ connection.fd_ = some erased) :
      ServerExecutes server (.removeConnectionInLoop c) input
        (((server.erase connection.fd_).release erased).share c)
        [.runInLoop connection.loop_ (.bind c .connectDestroyed)]
  | release (c : ConnectionId) (input : Input subLoops) :
      ServerExecutes server (.release c) input (server.release c) []

theorem handleAccept_cases {server after : TcpServer subLoops} {result : AcceptResult}
    {calls : List (Call (LoopId subLoops) Functor ServerCode)}
    (executed : server.handleAccept result = some (after, calls)) :
    ServerExecutes server .handleAccept (.accept result) after calls := by
  unfold TcpServer.handleAccept at executed
  split at executed
  · cases executed
    exact .acceptEnds _ (.inl rfl)
  · cases executed
    exact .acceptEnds _ (.inr rfl)
  · rename_i fd nonBlocking
    split at executed
    · cases executed
    · rename_i fresh
      have fresh : server.openFds fd = false := by simpa using fresh
      split at executed
      · rename_i ready
        obtain rfl : nonBlocking = true := ready
        obtain ⟨⟨subLoop, dealt⟩, deal, same⟩ := Option.map_eq_some_iff.mp executed
        cases same
        exact .accepted fd fresh subLoop dealt deal
      · rename_i blocking
        obtain rfl : nonBlocking = false := by simpa using blocking
        cases executed
        exact .acceptRefused fd fresh

/-- The inversion of `TcpServer.execute`. -/
theorem serverExecute_cases {server after : TcpServer subLoops} {body : ServerCode}
    {input : Input subLoops} {calls : List (Call (LoopId subLoops) Functor ServerCode)}
    (executed : TcpServer.execute body input server = some (after, calls)) :
    ServerExecutes server body input after calls := by
  cases body with
  | connection c body =>
    obtain ⟨connection, live, mapped⟩ := Option.bind_eq_some_iff.mp executed
    obtain ⟨outcome, run, same⟩ := Option.map_eq_some_iff.mp mapped
    obtain ⟨found, alive⟩ := live_eq_some.mp live
    cases same
    exact .connection c body input connection outcome found alive (execute_cases run)
  | listenCallback =>
    simp only [TcpServer.execute] at executed
    split at executed
    · rename_i masked
      cases executed
      exact .listenCallback input masked
    · cases executed
      exact .listenIgnored input
  | handleAccept =>
    cases input with
    | accept result => exact handleAccept_cases executed
    | io result => cases executed
    | revents mask => cases executed
    | user call => cases executed
  | removeConnection c =>
    obtain ⟨connection, live, same⟩ := Option.map_eq_some_iff.mp executed
    obtain ⟨found, alive⟩ := live_eq_some.mp live
    cases same
    exact .removeConnection c input connection found alive
  | removeConnectionInLoop c =>
    obtain ⟨connection, live, same⟩ := Option.map_eq_some_iff.mp executed
    obtain ⟨found, alive⟩ := live_eq_some.mp live
    unfold TcpServer.removeConnectionInLoop at same
    split at same
    · rename_i missing
      cases same
      exact .removedAlready c input connection found alive missing
    · rename_i erased entry
      cases same
      exact .removeConnectionInLoop c input connection erased found alive entry
  | release c =>
    cases executed
    exact .release c input

/-- The connection a call is made on, and the member function it calls. -/
def UserCall.target : UserCall subLoops → Option (ConnectionId × Statement)
  | .send c msg => some (c, .send msg)
  | .forceClose c => some (c, .forceClose)
  | .sendOn _ c msg => some (c, .send msg)
  | .forceCloseOn _ c => some (c, .forceClose)
  | .quit _ => none

theorem target_cases {call : UserCall subLoops} {c : ConnectionId} {body : Statement}
    (target : call.target = some (c, body)) : body = .forceClose ∨ ∃ msg, body = .send msg := by
  cases call <;> cases target <;> first | exact .inl rfl | exact .inr ⟨_, rfl⟩

/-- Every call a user thread can begin, with its guard and its result. -/
inductive ServerBegins (server : TcpServer subLoops) :
    Thread (LoopId subLoops) User → Input subLoops → TcpServer subLoops →
      List (Call (LoopId subLoops) Functor ServerCode) → Prop where
  | member (t : User) (call : UserCall subLoops) (c : ConnectionId) (body : Statement)
      (connection : TcpConnection (LoopId subLoops))
      (made : call.target = some (c, body))
      (found : server.find c = some connection) (alive : 0 < connection.useCount) :
      ServerBegins server (.user t) (.user call) (server.share c)
        [.code (.connection c body), .code (.release c)]
  | bound (t : User) (call : UserCall subLoops) (l : LoopId subLoops) (c : ConnectionId)
      (body : Statement) (connection : TcpConnection (LoopId subLoops))
      (made : call.target = some (c, body))
      (found : server.find c = some connection) (alive : 0 < connection.useCount) :
      ServerBegins server (.user t) (.user call) (server.share c) [.runInLoop l (.bind c body)]
  | quit (t : User) (l : LoopId subLoops) :
      ServerBegins server (.user t) (.user (.quit l)) server [.quit l]

/-- The inversion of `TcpServer.begin`. -/
theorem serverBegin_cases {server after : TcpServer subLoops} {input : Input subLoops}
    {thread : Thread (LoopId subLoops) User}
    {calls : List (Call (LoopId subLoops) Functor ServerCode)}
    (begun : TcpServer.begin thread input server = some (after, calls)) :
    ServerBegins server thread input after calls := by
  unfold TcpServer.begin at begun
  split at begun
  · rename_i t c msg
    obtain ⟨connection, live, same⟩ := Option.map_eq_some_iff.mp begun
    obtain ⟨found, alive⟩ := live_eq_some.mp live
    cases same
    exact .member t _ c _ connection rfl found alive
  · rename_i t c
    obtain ⟨connection, live, same⟩ := Option.map_eq_some_iff.mp begun
    obtain ⟨found, alive⟩ := live_eq_some.mp live
    cases same
    exact .member t _ c _ connection rfl found alive
  · rename_i t l c msg
    obtain ⟨connection, live, same⟩ := Option.map_eq_some_iff.mp begun
    obtain ⟨found, alive⟩ := live_eq_some.mp live
    cases same
    exact .bound t _ l c _ connection rfl found alive
  · rename_i t l c
    obtain ⟨connection, live, same⟩ := Option.map_eq_some_iff.mp begun
    obtain ⟨found, alive⟩ := live_eq_some.mp live
    cases same
    exact .bound t _ l c _ connection rfl found alive
  · rename_i t l
    cases begun
    exact .quit t l
  · cases begun

/-- The inversion of `TcpServer.poll`. -/
theorem serverPoll_cases {server after : TcpServer subLoops} {l : LoopId subLoops}
    {active : List ChannelId} {input : Input subLoops}
    (polled : TcpServer.poll l active input server = some after) :
    ∃ mask, input = .revents mask ∧ (∀ ch ∈ active, server.reports l ch = true) ∧
      after = server.setRevents active mask := by
  unfold TcpServer.poll at polled
  split at polled
  · rename_i mask
    split at polled
    · rename_i reported
      cases polled
      exact ⟨mask, rfl, List.all_eq_true.mp reported, rfl⟩
    · cases polled
  · cases polled

/-! ### The discipline -/

/-- Whether a statement is left only by the call of a functor. -/
def Statement.bound : Statement → Bool
  | .connectEstablishedInLoop => true
  | .connectDestroyed => true
  | .connectDestroyedInLoop => true
  | .sendInLoop _ => true
  | .forceCloseInLoop => true
  | _ => false

/-- The dispatch tests, the accept loop and the releases rest on a stack; the functions that only
run as functors are entered through one. -/
def serverDiscipline : Discipline Functor ServerCode where
  resting
    | .connection _ .errorCallback => True
    | .connection _ .readCallback => True
    | .connection _ .writeCallback => True
    | .handleAccept => True
    | .release _ => True
    | _ => False
  entry
    | .connection c body => if body.bound then some (.bind c body) else none
    | .removeConnectionInLoop c => some (.removeConnectionInLoop c)
    | _ => none

theorem follows_not_bound {body after : Statement}
    (follows : body.follows (.statement after) = true) : after.bound = false := by
  cases after <;> simp_all [Statement.bound] <;> cases body <;> simp_all [Statement.follows]

theorem serverExecutes_admits {server after : TcpServer subLoops} {body : ServerCode}
    {input : Input subLoops} {calls : List (Call (LoopId subLoops) Functor ServerCode)}
    (executes : ServerExecutes server body input after calls) : serverDiscipline.Admits calls := by
  cases executes with
  | connection c body input connection outcome found alive executes =>
    have keeps := executes.keeps
    refine ⟨fun made member => ?_, fun code member => ?_⟩
    · rw [← List.map_tail] at member
      obtain ⟨next, inTail, rfl⟩ := List.mem_map.mp member
      rw [keeps.tail next inTail]
      trivial
    · obtain ⟨next, inNext, same⟩ := List.mem_map.mp member
      have follows := keeps.follows next inNext
      cases next with
      | statement after =>
        obtain rfl : _ = code := by simpa [Next.toCall] using same
        simp [serverDiscipline, follows_not_bound follows]
      | runInLoop after => cases same
      | closeCallback => cases same; rfl
      | release => cases same; rfl
  | accepted fd fresh subLoop dealt deal =>
    refine ⟨fun made member => ?_, fun code member => ?_⟩
    · rcases List.mem_cons.mp member with rfl | member
      · trivial
      · obtain rfl := List.mem_singleton.mp member
        trivial
    · simp only [List.mem_cons, Call.code.injEq, List.not_mem_nil, or_false] at member
      rcases member with rfl | rfl | rfl <;> rfl
  | _ => exact ⟨nofun, by simp [serverDiscipline]⟩

theorem server_obeys (subLoops : Nat) (User : Type) :
    Obeys (TcpServer.client subLoops User) serverDiscipline where
  execute _ _ _ _ _ executed := serverExecutes_admits (serverExecute_cases executed)
  handleEvent ch := by
    cases ch with
    | listen => exact ⟨nofun, by simp [TcpServer.client, ChannelId.handleEvent, serverDiscipline]⟩
    | connection c =>
      refine ⟨fun made member => ?_, fun code member => ?_⟩
      · rcases List.mem_cons.mp member with rfl | member
        · trivial
        · obtain rfl := List.mem_singleton.mp member
          trivial
      · simp only [TcpServer.client, ChannelId.handleEvent, List.mem_cons, Call.code.injEq,
          List.not_mem_nil, or_false] at member
        rcases member with rfl | rfl | rfl <;> rfl
  begin _ _ _ _ _ begun := by
    cases serverBegin_cases begun with
    | member t call c body connection made found alive =>
      refine ⟨fun made member => ?_, fun code member => ?_⟩
      · obtain rfl := List.mem_singleton.mp member
        trivial
      · simp only [List.mem_cons, Call.code.injEq, List.not_mem_nil, or_false] at member
        rcases member with rfl | rfl
        · rcases target_cases made with rfl | ⟨msg, rfl⟩ <;> rfl
        · rfl
    | bound t call l c body connection made found alive => exact ⟨nofun, by simp⟩
    | quit t l => exact ⟨nofun, by simp⟩
  invokeTail cb := by cases cb <;> exact nofun
  invokeEntry cb body member := by
    cases cb with
    | bind c bound =>
      obtain rfl : body = .connection c bound := by
        simpa [TcpServer.client, Functor.invoke] using member
      by_cases isBound : bound.bound = true <;> simp [serverDiscipline, isBound]
    | removeConnectionInLoop c =>
      obtain rfl : body = .removeConnectionInLoop c := by
        simpa [TcpServer.client, Functor.invoke] using member
      exact .inr rfl
  resting body rests := by
    unfold serverDiscipline at rests ⊢
    dsimp only at rests ⊢
    split at rests <;> first | rfl | exact rests.elim

end MultiReactor
