/-
This file is about which thread reads and writes what. A step ignores a part of
the world when it does the same whatever is stored there, and leaves it: it
neither reads nor writes it. Every step of a thread other than the base loop's
ignores `connections_` and `next_`, and every step of a thread other than the
one of a connection's loop ignores the connection's channel and buffers and
issues no `epoll_ctl` for it. So these are read and written by one thread each,
in every interleaving.
-/

import MultiReactor.Confinement
import MultiReactor.Interest
import MultiReactor.Quiescence

namespace MultiReactor

open Transition

/-! ### Steps that ignore a part of the world -/

section Client

variable {Loop User Functor Channel Code Input World : Type} [DecidableEq Loop] [DecidableEq User]
  [DecidableEq Channel]

/-- A step neither reads nor writes what `overwrite` replaces: taken after the replacement, it
does the same. -/
def Client.Ignores (client : Client Loop User Functor Channel Code Input World)
    (overwrite : World → World) (machine : Machine Loop User Functor Channel Code World)
    (event : Event Loop User Channel Input)
    (after : Machine Loop User Functor Channel Code World) : Prop :=
  client.step (machine.setWorld (overwrite machine.world)) event =
    some (after.setWorld (overwrite after.world))

/-- The functions of a client that a step of a thread calls ignore what `overwrite` replaces. -/
structure Client.Ignoring (client : Client Loop User Functor Channel Code Input World)
    (overwrite : World → World) (machine : Machine Loop User Functor Channel Code World)
    (thread : Thread Loop User) : Prop where
  execute : ∀ body rest input world calls,
    machine.stack thread = .call (.code body) :: rest →
      client.execute body input machine.world = some (world, calls) →
        client.execute body input (overwrite machine.world) = some (overwrite world, calls)
  copy : ∀ cb, client.copy cb (overwrite machine.world) = overwrite (client.copy cb machine.world)
  destroy : ∀ cb,
    client.destroy cb (overwrite machine.world) = overwrite (client.destroy cb machine.world)
  poll : ∀ l active input world, thread = .loop l →
    client.poll l active input machine.world = some world →
      client.poll l active input (overwrite machine.world) = some (overwrite world)
  begin : ∀ input world calls, client.begin thread input machine.world = some (world, calls) →
    client.begin thread input (overwrite machine.world) = some (overwrite world, calls)

variable {client : Client Loop User Functor Channel Code Input World} {overwrite : World → World}
  {machine after : Machine Loop User Functor Channel Code World}

omit [DecidableEq Channel] in
theorem run_ignores {thread : Thread Loop User} {input : Input}
    (ignoring : client.Ignoring overwrite machine thread)
    (step : client.run machine thread input = some after) :
    client.run (machine.setWorld (overwrite machine.world)) thread input =
      some (after.setWorld (overwrite after.world)) := by
  unfold Client.run at step ⊢
  rw [setWorld_stack]
  split at step
  · cases step
  · rename_i body rest top
    obtain ⟨⟨world, calls⟩, executed, rfl⟩ := Option.map_eq_some_iff.mp step
    simp only [setWorld_world, ignoring.execute body rest input world calls top executed]
    rfl
  · rename_i l cb rest top
    split at step
    · rename_i here
      obtain rfl := Option.some.inj step
      exact if_pos here
    · rename_i foreign
      obtain rfl := Option.some.inj step
      simp only [setWorld_world, ignoring.copy]
      exact if_neg foreign
  · obtain rfl := Option.some.inj step
    rfl
  · obtain rfl := Option.some.inj step
    rfl
  · obtain rfl := Option.some.inj step
    rfl
  · obtain rfl := Option.some.inj step
    simp only [setWorld_world, ignoring.destroy]
    rfl

theorem advance_ignores {l : Loop} {active : List (Ready Channel)} {input : Input}
    (ignoring : client.Ignoring overwrite machine (.loop l))
    (step : client.advance machine l active input = some after) :
    client.advance (machine.setWorld (overwrite machine.world)) l active input =
      some (after.setWorld (overwrite after.world)) := by
  unfold Client.advance at step ⊢
  rw [setWorld_loop]
  dsimp only at step ⊢
  split at step
  case h_3 place =>
    split at step
    · rename_i allowed
      obtain ⟨world, polled, rfl⟩ := Option.map_eq_some_iff.mp step
      simp only [setWorld_world, ignoring.poll l _ input world rfl polled]
      exact if_pos allowed
    · cases step
  case h_8 rest place =>
    split at step
    · rename_i counted
      obtain rfl := Option.some.inj step
      exact if_pos counted
    · rename_i empty
      obtain rfl := Option.some.inj step
      exact if_neg empty
  case h_12 cb rest next place =>
    obtain rfl := Option.some.inj step
    simp only [setWorld_world, ignoring.destroy]
    rfl
  all_goals
    obtain rfl := Option.some.inj step
    rfl

/-- A step whose thread calls functions that ignore it ignores it. -/
theorem step_ignores {event : Event Loop User Channel Input}
    (ignoring : client.Ignoring overwrite machine event.thread)
    (step : client.step machine event = some after) :
    client.Ignores overwrite machine event after := by
  cases event with
  | run thread input => exact run_ignores ignoring step
  | advance l active input =>
    simp only [Client.Ignores, Client.step, setWorld_stack] at step ⊢
    split at step
    · rename_i idle
      exact (if_pos idle).trans (advance_ignores ignoring step)
    · cases step
  | begin thread input =>
    have outside : (machine.setWorld (overwrite machine.world)).outside = machine.outside := rfl
    simp only [Client.Ignores, Client.step, setWorld_stack, outside] at step ⊢
    split at step
    · rename_i idle
      refine (if_pos idle).trans ?_
      obtain ⟨⟨world, calls⟩, begun, rfl⟩ := Option.map_eq_some_iff.mp step
      have same : client.begin thread input (overwrite machine.world) =
          some (overwrite world, calls) := ignoring.begin input world calls begun
      rw [setWorld_world, same]
      rfl
    · cases step

end Client

/-! ### The data of the base loop's thread -/

variable {subLoops : Nat} {User : Type}

/-- The server with another map, and another counter in the pool. -/
def TcpServer.withPool (connections_ : Nat → Option ConnectionId) (next_ : Nat)
    (server : TcpServer subLoops) : TcpServer subLoops :=
  { server with connections_ := connections_, next_ := next_ }

section Pool

variable (connections_ : Nat → Option ConnectionId) (next_ : Nat) (server : TcpServer subLoops)

theorem release_withPool (c : ConnectionId) :
    (server.withPool connections_ next_).release c =
      (server.release c).withPool connections_ next_ := by
  unfold TcpServer.release
  have found : (server.withPool connections_ next_).find c = server.find c := rfl
  rw [found]
  split
  · dsimp only
    split <;> rfl
  · rfl

/-- Only `handleAccept` and `removeConnectionInLoop` look at the map and the counter. -/
theorem execute_withPool {body : ServerCode} (elsewhere : body ≠ .handleAccept ∧
      ∀ c, body ≠ .removeConnectionInLoop c) {input : Input subLoops} {after : TcpServer subLoops}
    {calls : List (Call (LoopId subLoops) Functor ServerCode)}
    (executed : TcpServer.execute body input server = some (after, calls)) :
    TcpServer.execute body input (server.withPool connections_ next_) =
      some (after.withPool connections_ next_, calls) := by
  cases body with
  | connection c body =>
    obtain ⟨connection, live, mapped⟩ := Option.bind_eq_some_iff.mp executed
    obtain ⟨outcome, run, same⟩ := Option.map_eq_some_iff.mp mapped
    cases same
    refine Option.bind_eq_some_iff.mpr ⟨connection, live, ?_⟩
    rw [run]
    rfl
  | listenCallback =>
    cases executed
    rfl
  | handleAccept => exact absurd rfl elsewhere.1
  | removeConnection c =>
    obtain ⟨connection, live, same⟩ := Option.map_eq_some_iff.mp executed
    cases same
    exact Option.map_eq_some_iff.mpr ⟨connection, live, rfl⟩
  | removeConnectionInLoop c => exact absurd rfl (elsewhere.2 c)
  | release c =>
    cases executed
    exact congrArg (fun after => some (after, [])) (release_withPool connections_ next_ server c)

theorem begin_withPool {thread : Thread (LoopId subLoops) User} {input : Input subLoops}
    {after : TcpServer subLoops} {calls : List (Call (LoopId subLoops) Functor ServerCode)}
    (begun : TcpServer.begin thread input server = some (after, calls)) :
    TcpServer.begin thread input (server.withPool connections_ next_) =
      some (after.withPool connections_ next_, calls) := by
  unfold TcpServer.begin at begun ⊢
  split at begun
  case h_5 =>
    cases begun
    rfl
  case h_6 => cases begun
  all_goals
    obtain ⟨connection, live, same⟩ := Option.map_eq_some_iff.mp begun
    cases same
    exact Option.map_eq_some_iff.mpr ⟨connection, live, rfl⟩

theorem poll_withPool {l : LoopId subLoops} {active : List ChannelId} {input : Input subLoops}
    {after : TcpServer subLoops} (polled : TcpServer.poll l active input server = some after) :
    TcpServer.poll l active input (server.withPool connections_ next_) =
      some (after.withPool connections_ next_) := by
  obtain ⟨mask, rfl, reported, rfl⟩ := serverPoll_cases polled
  exact if_pos (List.all_eq_true.mpr reported)

/-- A thread other than the base loop's calls nothing that looks at the map or the counter. -/
theorem ignoring_withPool {machine : ServerMachine subLoops User}
    {thread : Thread (LoopId subLoops) User}
    (placed : Placed (serverPlacement subLoops User) machine)
    (foreign : thread ≠ .loop baseLoop) :
    (TcpServer.client subLoops User).Ignoring (TcpServer.withPool connections_ next_) machine
      thread where
  execute body rest input world calls top executed := by
    have isPlaced := placed.top top
    refine execute_withPool connections_ next_ machine.world ⟨?_, fun c => ?_⟩ executed
    · rintro rfl
      exact foreign isPlaced
    · rintro rfl
      exact foreign isPlaced
  copy _ := rfl
  destroy cb := release_withPool connections_ next_ machine.world cb.connection
  poll _ _ _ _ _ polled := poll_withPool connections_ next_ machine.world polled
  begin _ _ _ begun := begin_withPool connections_ next_ machine.world begun

end Pool

/-! ### The data of the thread of a connection's loop -/

/-- The connection with another channel and other buffers. -/
def TcpConnection.withData {Loop : Type} (channel_ : Channel) (input_buffer_ output_buffer_ : Bytes)
    (connection : TcpConnection Loop) : TcpConnection Loop :=
  { connection with
    channel_ := channel_, input_buffer_ := input_buffer_, output_buffer_ := output_buffer_ }

/-- The server where one connection has another channel and other buffers. -/
def TcpServer.withData (c : ConnectionId) (channel_ : Channel)
    (input_buffer_ output_buffer_ : Bytes) (server : TcpServer subLoops) : TcpServer subLoops :=
  { server with connections :=
      server.connections.modify c (.withData channel_ input_buffer_ output_buffer_) }

section Data

variable (c : ConnectionId) (channel_ : Channel) (input_buffer_ output_buffer_ : Bytes)
  (server : TcpServer subLoops)

theorem modify_comm {Element : Type} (list : List Element) (i j : Nat)
    (first second : Element → Element)
    (commute : ∀ element, first (second element) = second (first element)) :
    (list.modify i first).modify j second = (list.modify j second).modify i first := by
  refine List.ext_getElem? fun k => ?_
  simp only [List.getElem?_modify]
  cases list[k]? with
  | none => rfl
  | some element => by_cases atFirst : i = k <;> by_cases atSecond : j = k <;> simp [*]

theorem withData_find_of_ne {d : ConnectionId} (other : d ≠ c) :
    (server.withData c channel_ input_buffer_ output_buffer_).find d = server.find d := by
  show (server.connections.modify c _)[d]? = server.connections[d]?
  rw [List.getElem?_modify]
  simp [Ne.symm other]

theorem withData_find_self :
    (server.withData c channel_ input_buffer_ output_buffer_).find c =
      (server.find c).map (.withData channel_ input_buffer_ output_buffer_) := by
  show (server.connections.modify c _)[c]? = (server.connections[c]?).map _
  rw [List.getElem?_modify]
  simp

theorem share_withData (d : ConnectionId) :
    (server.withData c channel_ input_buffer_ output_buffer_).share d =
      (server.share d).withData c channel_ input_buffer_ output_buffer_ :=
  congrArg (fun connections => { server with connections := connections })
    (modify_comm server.connections c d (.withData channel_ input_buffer_ output_buffer_) .share
      fun _ => rfl)

/-- Whether a connection lives, its fd and its count are not among the data. -/
theorem release_withData (d : ConnectionId) :
    (server.withData c channel_ input_buffer_ output_buffer_).release d =
      (server.release d).withData c channel_ input_buffer_ output_buffer_ := by
  have dropped : { server.withData c channel_ input_buffer_ output_buffer_ with
      connections := (server.withData c channel_ input_buffer_ output_buffer_).connections.modify d
        TcpConnection.drop } =
      TcpServer.withData c channel_ input_buffer_ output_buffer_
        { server with connections := server.connections.modify d TcpConnection.drop } :=
    congrArg (fun connections => { server with connections := connections })
      (modify_comm server.connections c d (.withData channel_ input_buffer_ output_buffer_) .drop
        fun _ => rfl)
  unfold TcpServer.release
  dsimp only
  rw [dropped]
  by_cases same : d = c
  · subst same
    rw [withData_find_self]
    cases server.find d with
    | none => rfl
    | some connection =>
      show (if connection.useCount = 1 then _ else _) = _
      dsimp only
      split <;> rfl
  · rw [withData_find_of_ne _ _ _ _ _ same]
    cases server.find d with
    | none => rfl
    | some connection =>
      dsimp only
      split <;> rfl

theorem commit_withData_of_ne {d : ConnectionId} (other : d ≠ c)
    (outcome : Outcome (LoopId subLoops)) :
    (server.withData c channel_ input_buffer_ output_buffer_).commit d outcome =
      (server.commit d outcome).withData c channel_ input_buffer_ output_buffer_ := by
  have set : (server.connections.modify c
      (.withData channel_ input_buffer_ output_buffer_)).set d outcome.connection =
        (server.connections.set d outcome.connection).modify c
          (.withData channel_ input_buffer_ output_buffer_) := by
    refine List.ext_getElem? fun k => ?_
    simp only [List.getElem?_modify, List.getElem?_set]
    grind
  exact congrArg (fun connections => TcpServer.setEpoll { server with connections := connections }
    outcome.connection.loop_ ((server.epoll outcome.connection.loop_).update
      outcome.connection.fd_ (.connection d) outcome.ctl)) set

theorem live_withData_of_ne {d : ConnectionId} (other : d ≠ c) :
    (server.withData c channel_ input_buffer_ output_buffer_).live d = server.live d := by
  rw [TcpServer.live, withData_find_of_ne _ _ _ _ _ other]
  rfl

theorem live_withData_self :
    (server.withData c channel_ input_buffer_ output_buffer_).live c =
      (server.live c).map (.withData channel_ input_buffer_ output_buffer_) := by
  rw [TcpServer.live, withData_find_self, TcpServer.live]
  cases server.find c with
  | none => rfl
  | some connection =>
    simp only [Option.map_some, Option.filter]
    show (if connection.alive = true then _ else _) = _
    split <;> rfl

/-- The statements that may run on any thread look at `state_` and `loop_` alone. -/
theorem execute_withData {connection : TcpConnection (LoopId subLoops)} {body : Statement}
    (anywhere : body.inLoop = false) {io : IoResult} {outcome : Outcome (LoopId subLoops)}
    (run : connection.execute body io = some outcome) :
    (connection.withData channel_ input_buffer_ output_buffer_).execute body io =
        some { outcome with
          connection := outcome.connection.withData channel_ input_buffer_ output_buffer_ } := by
  have state : (connection.withData channel_ input_buffer_ output_buffer_).state_ =
      connection.state_ := rfl
  cases body with
  | connectEstablished =>
    cases run
    rfl
  | send msg =>
    simp only [TcpConnection.execute, TcpConnection.send, state] at run ⊢
    cases run
    split <;> rfl
  | forceClose =>
    cases run
    rfl
  | forceCloseRetest =>
    cases run
    rfl
  | forceCloseStore =>
    cases run
    rfl
  | _ => cases anywhere

theorem commit_withData_self (outcome : Outcome (LoopId subLoops)) :
    (server.withData c channel_ input_buffer_ output_buffer_).commit c { outcome with
        connection := outcome.connection.withData channel_ input_buffer_ output_buffer_ } =
      (server.commit c outcome).withData c channel_ input_buffer_ output_buffer_ := by
  have set : (server.connections.modify c (.withData channel_ input_buffer_ output_buffer_)).set c
      (outcome.connection.withData channel_ input_buffer_ output_buffer_) =
        (server.connections.set c outcome.connection).modify c
          (.withData channel_ input_buffer_ output_buffer_) := by
    refine List.ext_getElem? fun k => ?_
    simp only [List.getElem?_modify, List.getElem?_set]
    grind
  exact congrArg (fun connections => TcpServer.setEpoll { server with connections := connections }
    outcome.connection.loop_ ((server.epoll outcome.connection.loop_).update
      outcome.connection.fd_ (.connection c) outcome.ctl)) set

/-- A statement of the connection itself that may run on any thread, and every statement of
another connection. -/
theorem connection_withData {d : ConnectionId} {body : Statement} {input : Input subLoops}
    (foreign : d = c → body.inLoop = false) {after : TcpServer subLoops}
    {calls : List (Call (LoopId subLoops) Functor ServerCode)}
    (executed : TcpServer.execute (.connection d body) input server = some (after, calls)) :
    TcpServer.execute (.connection d body) input
        (server.withData c channel_ input_buffer_ output_buffer_) =
      some (after.withData c channel_ input_buffer_ output_buffer_, calls) := by
  obtain ⟨connection, live, mapped⟩ := Option.bind_eq_some_iff.mp executed
  obtain ⟨outcome, run, same⟩ := Option.map_eq_some_iff.mp mapped
  cases same
  by_cases own : d = c
  · subst own
    have again := execute_withData channel_ input_buffer_ output_buffer_ (foreign rfl) run
    refine Option.bind_eq_some_iff.mpr ⟨connection.withData channel_ input_buffer_ output_buffer_,
      ?_, Option.map_eq_some_iff.mpr ⟨_, again, ?_⟩⟩
    · rw [live_withData_self, live]
      rfl
    · rw [commit_withData_self]
      rfl
  · refine Option.bind_eq_some_iff.mpr
      ⟨connection, ?_, Option.map_eq_some_iff.mpr ⟨outcome, run, ?_⟩⟩
    · rw [live_withData_of_ne _ _ _ _ _ own]
      exact live
    · rw [commit_withData_of_ne _ _ _ _ _ own]

theorem store_withData (fd : Nat) (d : ConnectionId) :
    (server.withData c channel_ input_buffer_ output_buffer_).store fd d =
      (server.store fd d).withData c channel_ input_buffer_ output_buffer_ := by
  have stored : { (server.withData c channel_ input_buffer_ output_buffer_).share d with
      connections_ := Function.update server.connections_ fd (some d) } =
      TcpServer.withData c channel_ input_buffer_ output_buffer_
        { (server.share d) with
          connections_ := Function.update server.connections_ fd (some d) } := by
    rw [share_withData]
    rfl
  have entry : (server.withData c channel_ input_buffer_ output_buffer_).connections_ =
      server.connections_ := rfl
  unfold TcpServer.store
  rw [entry]
  dsimp only
  rw [stored]
  cases server.connections_ fd with
  | none => rfl
  | some old => exact release_withData c channel_ input_buffer_ output_buffer_ _ old

theorem getNextLoop_withData {subLoop : LoopId subLoops} {dealt : TcpServer subLoops}
    (deal : server.getNextLoop = some (subLoop, dealt)) :
    (server.withData c channel_ input_buffer_ output_buffer_).getNextLoop =
      some (subLoop, dealt.withData c channel_ input_buffer_ output_buffer_) := by
  unfold TcpServer.getNextLoop at deal ⊢
  split at deal
  · rename_i single
    cases deal
    exact if_pos single
  · rename_i several
    split at deal
    · rename_i inBounds
      cases deal
      exact (if_neg several).trans (dif_pos inBounds)
    · cases deal

/-- A new connection is another one. -/
theorem append_withData (born : c < server.connections.length)
    (conn : TcpConnection (LoopId subLoops)) (openFds : Nat → Bool) :
    { server.withData c channel_ input_buffer_ output_buffer_ with
        connections :=
          (server.withData c channel_ input_buffer_ output_buffer_).connections ++ [conn]
        openFds := openFds } =
      TcpServer.withData c channel_ input_buffer_ output_buffer_
        { server with connections := server.connections ++ [conn], openFds := openFds } := by
  have appended : server.connections.modify c (.withData channel_ input_buffer_ output_buffer_) ++
      [conn] = (server.connections ++ [conn]).modify c
        (.withData channel_ input_buffer_ output_buffer_) := by
    refine List.ext_getElem? fun k => ?_
    simp only [List.getElem?_modify, List.getElem?_append, List.length_modify]
    grind
  exact congrArg (fun connections => { server with connections := connections, openFds := openFds })
    appended

theorem handleAccept_withData (born : c < server.connections.length) {result : AcceptResult}
    {after : TcpServer subLoops} {calls : List (Call (LoopId subLoops) Functor ServerCode)}
    (executed : server.handleAccept result = some (after, calls)) :
    (server.withData c channel_ input_buffer_ output_buffer_).handleAccept result =
      some (after.withData c channel_ input_buffer_ output_buffer_, calls) := by
  have fds : (server.withData c channel_ input_buffer_ output_buffer_).openFds = server.openFds :=
    rfl
  cases handleAccept_cases executed with
  | acceptEnds _ ends => rcases ends with rfl | rfl <;> rfl
  | acceptRefused fd fresh => simp [TcpServer.handleAccept, fds, fresh]
  | accepted fd fresh subLoop dealt deal =>
    have again := getNextLoop_withData c channel_ input_buffer_ output_buffer_ server deal
    have dealtBorn : c < dealt.connections.length := by
      obtain ⟨next, rfl⟩ := getNextLoop_eq server deal
      exact born
    have length : (dealt.withData c channel_ input_buffer_ output_buffer_).connections.length =
        dealt.connections.length := List.length_modify ..
    unfold TcpServer.handleAccept
    dsimp only
    rw [fds, fresh, again, Option.map_some, length, append_withData _ _ _ _ _ dealtBorn,
      store_withData]
    rfl

/-- A connection that lives does, with the same fd and the same loop. -/
theorem live_withData {d : ConnectionId} {connection : TcpConnection (LoopId subLoops)}
    (live : server.live d = some connection) :
    ∃ again, (server.withData c channel_ input_buffer_ output_buffer_).live d = some again ∧
      again.fd_ = connection.fd_ ∧ again.loop_ = connection.loop_ := by
  by_cases own : d = c
  · subst own
    exact ⟨_, (live_withData_self _ _ _ _ server).trans (congrArg _ live), rfl, rfl⟩
  · exact ⟨connection, (live_withData_of_ne _ _ _ _ server own).trans live, rfl, rfl⟩

theorem removeConnectionInLoop_withData (d : ConnectionId)
    {connection again : TcpConnection (LoopId subLoops)} (fd : again.fd_ = connection.fd_)
    (loop : again.loop_ = connection.loop_) :
    (server.withData c channel_ input_buffer_ output_buffer_).removeConnectionInLoop d again =
      ((server.removeConnectionInLoop d connection).1.withData c channel_ input_buffer_
        output_buffer_, (server.removeConnectionInLoop d connection).2) := by
  have entry : (server.withData c channel_ input_buffer_ output_buffer_).connections_ =
      server.connections_ := rfl
  unfold TcpServer.removeConnectionInLoop
  rw [fd, loop, entry]
  cases server.connections_ connection.fd_ with
  | none => rfl
  | some erased =>
    have released := release_withData c channel_ input_buffer_ output_buffer_
      (server.erase connection.fd_) erased
    dsimp only
    refine congrArg (fun after => (after, _)) ?_
    exact (congrArg (TcpServer.share · d) released).trans
      (share_withData c channel_ input_buffer_ output_buffer_ _ d)

/-- Everything a thread executes, except a statement of the connection that belongs on the thread
of its loop. -/
theorem execute_ignores (born : c < server.connections.length) {body : ServerCode}
    {input : Input subLoops}
    (foreign : ∀ statement, body = .connection c statement → statement.inLoop = false)
    {after : TcpServer subLoops} {calls : List (Call (LoopId subLoops) Functor ServerCode)}
    (executed : TcpServer.execute body input server = some (after, calls)) :
    TcpServer.execute body input (server.withData c channel_ input_buffer_ output_buffer_) =
      some (after.withData c channel_ input_buffer_ output_buffer_, calls) := by
  cases body with
  | connection d body =>
    exact connection_withData c channel_ input_buffer_ output_buffer_ server
      (fun own => foreign body (by rw [own])) executed
  | listenCallback =>
    cases executed
    rfl
  | handleAccept =>
    cases input with
    | accept result =>
      exact handleAccept_withData c channel_ input_buffer_ output_buffer_ server born executed
    | _ => cases executed
  | removeConnection d =>
    obtain ⟨connection, live, same⟩ := Option.map_eq_some_iff.mp executed
    cases same
    obtain ⟨again, lives, -, -⟩ := live_withData c channel_ input_buffer_ output_buffer_ server live
    refine Option.map_eq_some_iff.mpr ⟨again, lives, ?_⟩
    exact congrArg (fun after => (after, _))
      (share_withData c channel_ input_buffer_ output_buffer_ server d)
  | removeConnectionInLoop d =>
    obtain ⟨connection, live, same⟩ := Option.map_eq_some_iff.mp executed
    obtain ⟨again, lives, fd, loop⟩ :=
      live_withData c channel_ input_buffer_ output_buffer_ server live
    refine Option.map_eq_some_iff.mpr ⟨again, lives, ?_⟩
    rw [removeConnectionInLoop_withData c channel_ input_buffer_ output_buffer_ server d fd loop,
      same]
  | release d =>
    cases executed
    exact congrArg (fun after => some (after, []))
      (release_withData c channel_ input_buffer_ output_buffer_ server d)

theorem begin_withData {thread : Thread (LoopId subLoops) User} {input : Input subLoops}
    {after : TcpServer subLoops} {calls : List (Call (LoopId subLoops) Functor ServerCode)}
    (begun : TcpServer.begin thread input server = some (after, calls)) :
    TcpServer.begin thread input (server.withData c channel_ input_buffer_ output_buffer_) =
      some (after.withData c channel_ input_buffer_ output_buffer_, calls) := by
  unfold TcpServer.begin at begun ⊢
  split at begun
  case h_5 =>
    cases begun
    rfl
  case h_6 => cases begun
  all_goals
    obtain ⟨connection, live, same⟩ := Option.map_eq_some_iff.mp begun
    cases same
    obtain ⟨again, lives, -, -⟩ := live_withData c channel_ input_buffer_ output_buffer_ server live
    refine Option.map_eq_some_iff.mpr ⟨again, lives, ?_⟩
    exact congrArg (fun after => (after, _))
      (share_withData c channel_ input_buffer_ output_buffer_ server _)

/-- A loop whose epoll instance does not report the connection. -/
theorem poll_withData {l : LoopId subLoops} {active : List ChannelId} {input : Input subLoops}
    {after : TcpServer subLoops} (unreported : .connection c ∉ active)
    (polled : TcpServer.poll l active input server = some after) :
    TcpServer.poll l active input (server.withData c channel_ input_buffer_ output_buffer_) =
      some (after.withData c channel_ input_buffer_ output_buffer_) := by
  obtain ⟨mask, rfl, reported, rfl⟩ := serverPoll_cases polled
  have reports : ∀ ch ∈ active,
      (server.withData c channel_ input_buffer_ output_buffer_).reports l ch = true := by
    intro ch member
    have before := reported ch member
    cases ch with
    | listen => exact before
    | connection d =>
      have other : d ≠ c := fun own => unreported (own ▸ member)
      unfold TcpServer.reports at before ⊢
      dsimp only at before ⊢
      rw [live_withData_of_ne _ _ _ _ server other]
      exact before
  refine (if_pos (List.all_eq_true.mpr reports)).trans (congrArg some ?_)
  refine congrArg (fun connections => { server with
    listen_channel_ := (server.setRevents active mask).listen_channel_
    connections := connections }) (List.ext_getElem? fun k => ?_)
  simp only [TcpServer.withData, TcpServer.setRevents, List.getElem?_mapIdx, List.getElem?_modify]
  by_cases own : c = k
  · subst own
    cases server.connections[c]? <;> simp [unreported]
  · simp [own]

/-- A thread other than the one of the connection's loop calls nothing that looks at the data. -/
theorem ignoring_withData {machine : ServerMachine subLoops User}
    {thread : Thread (LoopId subLoops) User} {connection : TcpConnection (LoopId subLoops)}
    (placed : Placed (serverPlacement subLoops User) machine) (wired : Wired machine.world)
    (found : machine.world.find c = some connection) (foreign : thread ≠ .loop connection.loop_) :
    (TcpServer.client subLoops User).Ignoring
      (TcpServer.withData c channel_ input_buffer_ output_buffer_) machine thread where
  execute body rest input world calls top executed := by
    have born : c < machine.world.connections.length := (List.getElem?_eq_some_iff.mp found).1
    refine execute_ignores c channel_ input_buffer_ output_buffer_ machine.world born
      (fun statement own => ?_) executed
    by_contra inLoop
    subst own
    obtain ⟨l, here, rfl⟩ := placed.top top (Bool.eq_true_of_not_eq_false inLoop)
    exact foreign (congrArg _ (Option.some.inj (here.symm.trans (loopOf_eq found))))
  copy cb := share_withData c channel_ input_buffer_ output_buffer_ machine.world cb.connection
  destroy cb := release_withData c channel_ input_buffer_ output_buffer_ machine.world cb.connection
  poll l active input world isLoop polled := by
    refine poll_withData c channel_ input_buffer_ output_buffer_ machine.world (fun member => ?_)
      polled
    obtain ⟨mask, -, reported, -⟩ := serverPoll_cases polled
    have registered := reported _ member
    unfold TcpServer.reports at registered
    dsimp only at registered
    split at registered
    · obtain ⟨registrant, same, rfl, -⟩ := wired.registrant (of_decide_eq_true registered)
      obtain rfl := Option.some.inj (found.symm.trans same)
      exact foreign isLoop
    · cases registered
  begin _ _ _ begun :=
    begin_withData c channel_ input_buffer_ output_buffer_ machine.world begun

end Data

/-- The statements that may run on any thread issue no `epoll_ctl`. -/
theorem Executes.silent {connection : TcpConnection (LoopId subLoops)} {body : Statement}
    {io : IoResult} {outcome : Outcome (LoopId subLoops)}
    (executes : Executes connection body io outcome) (anywhere : body.inLoop = false) :
    outcome.ctl = none := by
  cases executes <;> first | rfl | cases anywhere

/-- A turn of another thread than the one of the connection's loop issues no `epoll_ctl`. -/
theorem Turn.ctlOps {machine : ServerMachine subLoops User} {c : ConnectionId}
    {event : ServerEvent subLoops User} {connection now : TcpConnection (LoopId subLoops)}
    {stored storedNow : Nat} {used left : List Task}
    (turn : Turn machine c event connection stored now storedNow used left)
    (placed : Placed (serverPlacement subLoops User) machine)
    (found : machine.world.find c = some connection)
    (foreign : event.thread ≠ .loop connection.loop_) : now.ctlOps = connection.ctlOps := by
  cases turn with
  | statement thread input body rest connection stored outcome top alive executes =>
    have anywhere : body.inLoop = false := by
      by_contra inLoop
      obtain ⟨l, here, rfl⟩ := placed.top top (Bool.eq_true_of_not_eq_false inLoop)
      exact foreign (congrArg _ (Option.some.inj (here.symm.trans (loopOf_eq found))))
    rw [executes.ctlOps, executes.silent anywhere]
    exact List.append_nil _
  | dropped event connection stored alive => exact ctlOps_drop connection
  | _ => rfl

section Reachable

variable [DecidableEq User] [Fintype User] {listenFd : Nat} {openFds : Nat → Bool}
  {machine after : ServerMachine subLoops User} {event : ServerEvent subLoops User}

/-- One thread for each piece of data. Every step of a thread other than the base loop's ignores
`connections_` and `next_`. Every step of a thread other than the one of a connection's loop ignores
the connection's channel and its buffers, and issues no `epoll_ctl` for it. -/
theorem thread_confinement
    (reachable : Reachable (TcpServer.system subLoops User listenFd openFds) machine)
    (step : (TcpServer.system subLoops User listenFd openFds).step machine event = some after) :
    (event.thread ≠ .loop baseLoop → ∀ connections_ next_,
      (TcpServer.client subLoops User).Ignores (TcpServer.withPool connections_ next_) machine event
        after) ∧
    ∀ c connection, machine.world.find c = some connection →
      event.thread ≠ .loop connection.loop_ →
        (∀ channel_ input_buffer_ output_buffer_,
          (TcpServer.client subLoops User).Ignores
            (TcpServer.withData c channel_ input_buffer_ output_buffer_) machine event after) ∧
        ∃ now, after.world.find c = some now ∧ now.ctlOps = connection.ctlOps := by
  have placed := reachable_server_placed reachable
  refine ⟨fun foreign connections_ next_ =>
    step_ignores (ignoring_withPool connections_ next_ placed foreign) step,
    fun c connection found foreign => ⟨fun channel_ input_buffer_ output_buffer_ => ?_, ?_⟩⟩
  · exact step_ignores (ignoring_withData c channel_ input_buffer_ output_buffer_ placed
      (reachable_wired reachable) found foreign) step
  · obtain ⟨now, _, _, nowFound, turn, -⟩ := reachable_turn reachable step found
    exact ⟨now, nowFound, turn.ctlOps placed found foreign⟩

end Reachable

/-- A user thread stores kDisconnecting in the state of a connection that the sub loop has
registered; the sub loop receives a byte into the buffer of the connection. -/
theorem thread_confinement_forceClose :
    (∃ machine after : ServerMachine 1 Unit,
      (machine.world.find 0).map TcpConnection.state_ = some .kConnected ∧
        (after.world.find 0).map TcpConnection.state_ = some .kDisconnecting ∧
          ∀ channel_ input_buffer_ output_buffer_,
            (TcpServer.client 1 Unit).Ignores
              (TcpServer.withData 0 channel_ input_buffer_ output_buffer_) machine
              (steps (.user ())) after) ∧
      ∃ machine after : ServerMachine 1 Unit,
        (after.world.find 0).map TcpConnection.input_buffer_ = some [1] ∧
          ∀ connections_ next_, (TcpServer.client 1 Unit).Ignores
            (TcpServer.withPool connections_ next_) machine
            (.run (.loop firstLoop) (.io (.recv (.data [1])))) after := by
  constructor
  · have stores : ∃ machine, Reachable (TcpServer.system 1 Unit 3 fun _ => false) machine ∧
        (machine.world.find 0).map TcpConnection.state_ = some .kConnected ∧
          ∃ after ∈ (TcpServer.system 1 Unit 3 fun _ => false).step machine (steps (.user ())),
            (after.world.find 0).map TcpConnection.state_ = some .kDisconnecting :=
      exists_of_replay rfl (acceptRun ++ registration ++ closeRequest 1) (by decide)
    obtain ⟨machine, reachable, connected, after, step, disconnecting⟩ := stores
    obtain ⟨connection, found, -⟩ := Option.map_eq_some_iff.mp connected
    have confined :=
      (thread_confinement reachable step).2 0 connection found fun same => by cases same
    exact ⟨machine, after, connected, disconnecting, confined.1⟩
  · have received : ∃ machine, Reachable (TcpServer.system 1 Unit 3 fun _ => false) machine ∧
        ∃ after ∈ (TcpServer.system 1 Unit 3 fun _ => false).step machine
          (.run (.loop firstLoop) (.io (.recv (.data [1])))),
          (after.world.find 0).map TcpConnection.input_buffer_ = some [1] :=
      exists_of_replay rfl (acceptRun ++ registration ++ receives []) (by decide)
    obtain ⟨machine, reachable, after, step, stored⟩ := received
    exact ⟨machine, after, stored,
      (thread_confinement reachable step).1 fun same => by cases same⟩

end MultiReactor
