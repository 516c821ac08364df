/-
This file proves what the process looks like when it has come to rest: when no
functor is queued or running and no callback is executing. Nothing is then
outstanding for a connection but perhaps an entry of a batch, so the ledger of
owners and the life of each connection say what is left: the map holds exactly
the connections that have not been closed, and every other one is gone. A
request to close that found the connection registered has been carried out by
then; one that came before is lost.
-/

import MultiReactor.Lifecycle

namespace MultiReactor

open Transition

variable {subLoops : Nat} {User : Type}

/-! ### Rest -/

/-- Whether a loop's thread stands inside the callback of some channel. `doPendingFunctors` is
called from that of the eventfd's. -/
def Position.inCallback {Functor Channel : Type} : Position Functor Channel → Bool
  | .outside | .test | .poll | .dispatch _ => false
  | .handleEvent .. | .handleReadEventFd _ | .swap _ | .execute .. | .clear .. => true

/-- No call is in progress, no functor is queued or running, and no callback is executing. -/
structure Quiescent (machine : ServerMachine subLoops User) : Prop where
  stack : ∀ thread, machine.stack thread = []
  queue : ∀ l, (machine.loop l).pendingFunctors_ = []
  callback : ∀ l, (machine.loop l).position.inCallback = false

instance [Fintype User] (machine : ServerMachine subLoops User) :
    Decidable (Quiescent machine) :=
  decidable_of_iff ((∀ thread, machine.stack thread = []) ∧
      (∀ l, (machine.loop l).pendingFunctors_ = []) ∧
      ∀ l, (machine.loop l).position.inCallback = false)
    ⟨fun ⟨stack, queue, callback⟩ => ⟨stack, queue, callback⟩,
      fun ⟨stack, queue, callback⟩ => ⟨stack, queue, callback⟩⟩

/-- A process at rest has nothing outstanding but entries of batches. -/
theorem Quiescent.tally_eq_zero [Fintype User] {machine : ServerMachine subLoops User}
    (quiescent : Quiescent machine) {kind : ServerItem → Bool}
    (unready : ∀ ch, kind (.ready ch) = false) : tally kind machine = 0 := by
  refine MultiReactor.tally_eq_zero kind (fun thread => ?_) fun l => ?_
  · rw [quiescent.stack thread]
    rfl
  · have noFunctor : (machine.loop l).position.called = [] ∧
        (machine.loop l).position.uncalled = [] := by
      have callback := quiescent.callback l
      cases place : (machine.loop l).position <;> rw [place] at callback <;>
        first
        | exact ⟨rfl, rfl⟩
        | cases callback
    rw [EventLoop.items, Position.items, quiescent.queue l, noFunctor.1, noFunctor.2]
    refine List.countP_eq_zero.mpr fun item member => ?_
    obtain ⟨ch, -, rfl⟩ := List.mem_map.mp (by simpa using member)
    rw [unready ch]
    exact Bool.false_ne_true

section Reachable

variable [Fintype User] {listenFd : Nat} {openFds : Nat → Bool}
  {machine : ServerMachine subLoops User}

/-- At rest a connection has no task ahead. -/
theorem Quiescent.pending_eq_zero (quiescent : Quiescent machine) (c : ConnectionId)
    {kind : Task → Bool} (unready : kind .ready = false) : pending c machine kind = 0 := by
  refine quiescent.tally_eq_zero fun ch => ?_
  cases ch <;> simp [isTask, taskOf, unready]

/-- At rest the only owners are the entries of the map. -/
theorem Quiescent.owners_eq_zero (quiescent : Quiescent machine) (c : ConnectionId) :
    owners machine c = 0 :=
  quiescent.tally_eq_zero fun _ => rfl

variable [DecidableEq User]

/-- At rest a connection is stored unless it has been closed. -/
theorem Quiescent.settled
    (reachable : Reachable (TcpServer.system subLoops User listenFd openFds) machine)
    (quiescent : Quiescent machine) {c : ConnectionId}
    {connection : TcpConnection (LoopId subLoops)}
    (found : machine.world.find c = some connection) :
    0 < machine.world.stored c connection ↔ connection.closes = 0 := by
  have lively := reachable_lively reachable found
  constructor
  · intro stored
    refine Nat.eq_zero_of_not_pos fun closed => ?_
    have ahead := lively.removal closed stored
    rw [quiescent.pending_eq_zero c rfl] at ahead
    cases ahead
  · intro opened
    refine Nat.pos_of_ne_zero fun missing => ?_
    have closed := lively.unstored missing
    rw [opened] at closed
    cases closed

/-- At rest a connection that has not been closed is connected. -/
theorem Quiescent.connected
    (reachable : Reachable (TcpServer.system subLoops User listenFd openFds) machine)
    (quiescent : Quiescent machine) {c : ConnectionId}
    {connection : TcpConnection (LoopId subLoops)} (found : machine.world.find c = some connection)
    (opened : connection.closes = 0) : connection.state_ = .kConnected := by
  have lively := reachable_lively reachable found
  cases state : connection.state_ with
  | kConnecting =>
    have ahead := lively.establishing
    rw [if_pos state, quiescent.pending_eq_zero c rfl] at ahead
    cases ahead
  | kConnected => rfl
  | kDisconnecting =>
    have ahead := lively.closing state
    rw [quiescent.pending_eq_zero c rfl] at ahead
    cases ahead
  | kDisconnected =>
    have closed := lively.disconnected state
    rw [opened] at closed
    cases closed

/-- At rest nothing leaks and nothing is stale: the map holds exactly the connections that have
not been closed, each connected and registered with its own loop alone, and every other
connection has been destroyed and its fd closed once. -/
theorem quiescent_no_leak
    (reachable : Reachable (TcpServer.system subLoops User listenFd openFds) machine)
    (quiescent : Quiescent machine) :
    (∀ fd c, machine.world.connections_ fd = some c ↔
      ∃ connection, machine.world.find c = some connection ∧ connection.fd_ = fd ∧
        connection.closes = 0) ∧
    (∀ c connection, machine.world.find c = some connection → connection.closes = 0 →
      connection.state_ = .kConnected ∧ connection.alive = true ∧
        ∀ l fd, (machine.world.epoll l fd).map Prod.snd = some (.connection c) ↔
          l = connection.loop_ ∧ fd = connection.fd_) ∧
    ∀ c connection, machine.world.find c = some connection → 0 < connection.closes →
      connection.alive = false ∧ connection.history.count .fdClosed = 1 := by
  have owned := reachable_owned reachable
  have wired := reachable_wired reachable
  have entry {fd : Nat} {c : ConnectionId} {connection : TcpConnection (LoopId subLoops)}
      (found : machine.world.find c = some connection) (isFd : connection.fd_ = fd) :
      machine.world.connections_ fd = some c ↔ connection.closes = 0 := by
    have settled := quiescent.settled reachable found
    rw [TcpServer.stored, isFd] at settled
    by_cases stored : machine.world.connections_ fd = some c
    · rw [if_pos stored] at settled
      exact ⟨fun _ => settled.mp Nat.one_pos, fun _ => stored⟩
    · rw [if_neg stored] at settled
      exact ⟨fun held => absurd held stored, fun opened => absurd (settled.mpr opened) (by decide)⟩
  refine ⟨fun fd c => ⟨fun stored => ?_, ?_⟩, fun c connection found opened => ?_,
    fun c connection found closed => ?_⟩
  · obtain ⟨connection, found, isFd⟩ := owned.entry fd c stored
    exact ⟨connection, found, isFd, (entry found isFd).mp stored⟩
  · rintro ⟨connection, found, isFd, opened⟩
    exact (entry found isFd).mpr opened
  · have connected := quiescent.connected reachable found opened
    have added := ((reachable_lively reachable found).connected connected).1
    obtain ⟨held, heldFound, -, alive⟩ := owned.entry_alive ((entry found rfl).mpr opened)
    obtain rfl := Option.some.inj (found.symm.trans heldFound)
    refine ⟨connected, by simpa [TcpConnection.alive] using alive,
      fun l fd => ⟨fun registered => ?_, ?_⟩⟩
    · obtain ⟨other, otherFound, isLoop, isFd, -⟩ := wired.registrant registered
      obtain rfl := Option.some.inj (found.symm.trans otherFound)
      exact ⟨isLoop.symm, isFd.symm⟩
    · rintro ⟨rfl, rfl⟩
      rw [wired.own c connection found alive added]
      rfl
  · have dead : connection.useCount = 0 := by
      rw [owned.counted c connection found, quiescent.owners_eq_zero, Nat.zero_add]
      refine Nat.eq_zero_of_not_pos fun stored => ?_
      exact closed.ne' ((quiescent.settled reachable found).mp stored)
    refine ⟨by simp [TcpConnection.alive, dead], ?_⟩
    rw [owned.destroyed c connection found, dead]
    rfl

end Reachable

/-- At rest after a close nothing is left of the connection. -/
theorem quiescent_no_leak_closed : ∃ machine : ServerMachine 1 Unit,
    Quiescent machine ∧ machine.world.connections_ 7 = none ∧
      ∃ connection, machine.world.find 0 = some connection ∧ 0 < connection.closes ∧
        connection.alive = false ∧ connection.history.count .fdClosed = 1 := by
  have closed : ∃ machine, Reachable (TcpServer.system 1 Unit 3 fun _ => false) machine ∧
      Quiescent machine ∧ machine.world.connections_ 7 = none ∧
        ∃ connection ∈ machine.world.find 0, 0 < connection.closes :=
    exists_of_replay rfl (acceptRun ++ registration ++ endOfStream 10 ++ removal 3) (by decide)
  obtain ⟨machine, reachable, quiescent, missing, connection, found, isClosed⟩ := closed
  exact ⟨machine, quiescent, missing, connection, found, isClosed,
    (quiescent_no_leak reachable quiescent).2.2 0 connection found isClosed⟩

/-! ### Requests to close -/

/-- The store of `forceClose`. -/
def Task.storing : Task → Bool
  | .statement .forceCloseStore => true
  | _ => false

/-- The tests of `forceClose`. -/
def Task.testing : Task → Bool
  | .statement .forceClose => true
  | .statement .forceCloseRetest => true
  | _ => false

/-- What is outstanding while a `forceClose`, the functor it queued or a `handleClose` is in
progress. -/
def Task.requesting (task : Task) : Bool :=
  task.testing || task.storing || task.closing || task.announcing

theorem storing_past (task : Task) (storing : task.storing = true) : task.past = true := by
  rcases task with body | _ | _ | _ <;> first | cases storing | skip
  cases body <;> first | rfl | cases storing

/-- A `forceClose` has been called on the connection, and its first load did not see
`kConnecting`. -/
def TcpConnection.closeRequested (connection : TcpConnection (LoopId subLoops)) : Prop :=
  ∃ seen, seen ≠ StateE.kConnecting ∧ .closeRequested seen ∈ connection.history

/-- A request to close has been stored, or its store is ahead. -/
def Honoured (connection : TcpConnection (LoopId subLoops)) (count : (Task → Bool) → Nat) : Prop :=
  connection.closeRequested →
    connection.state_ = .kDisconnecting ∨ connection.state_ = .kDisconnected ∨
      0 < count Task.storing

section Honoured

variable {connection now : TcpConnection (LoopId subLoops)} {stored storedNow held : Nat}
  {count countNow : (Task → Bool) → Nat} {used left : List Task}

/-- A turn that makes no request, leaves the state as it is and uses up no store. -/
theorem Honoured.keep (honoured : Honoured connection count)
    (exchange : Exchanges count countNow used left) (state : now.state_ = connection.state_)
    (requests : now.closeRequested → connection.closeRequested)
    (storing : used.countP Task.storing = 0) : Honoured now countNow := by
  intro requested
  have change := exchange Task.storing
  rw [state]
  refine (honoured (requests requested)).imp_right (Or.imp_right fun ahead => ?_)
  omega

/-- Only `forceClose` makes a request. -/
theorem Executes.requests {body : Statement} {io : IoResult} {outcome : Outcome (LoopId subLoops)}
    (executes : Executes connection body io outcome) (other : body ≠ .forceClose)
    (requested : outcome.connection.closeRequested) : connection.closeRequested := by
  obtain ⟨seen, registered, member⟩ := requested
  obtain ⟨happened, history, records⟩ := executes.records
  rw [history] at member
  refine ⟨seen, registered, (List.mem_append.mp member).resolve_right fun new => ?_⟩
  have recorded := records _ new
  cases body <;> first | exact absurd rfl other | cases recorded

theorem Honoured.statement {body : Statement} {io : IoResult} {outcome : Outcome (LoopId subLoops)}
    (honoured : Honoured connection count) (lively : Lively connection stored count)
    (late : 0 < count Task.storing → connection.state_ ≠ .kConnecting)
    (executes : Executes connection body io outcome)
    (exchange : Exchanges count countNow [.statement body]
      (outcome.next.filterMap Next.task)) : Honoured outcome.connection countNow := by
  have state := executes.state
  by_cases request : body = .forceClose
  · subst request
    cases executes with
    | forceCloseConnected io connected =>
      refine fun _ => .inr (.inr ?_)
      have change := (exchange Task.storing).2
      have left : [Task.statement .forceCloseStore].countP Task.storing = 1 := rfl
      have used : [Task.statement .forceClose].countP Task.storing = 0 := rfl
      exact (Nat.succ_pos _).trans_eq change.symm
    | forceCloseOther io other =>
      rintro ⟨seen, registered, member⟩
      rcases List.mem_append.mp member with old | new
      · exact honoured.keep exchange rfl (fun _ => ⟨seen, registered, old⟩) rfl
          ⟨seen, registered, member⟩
      · obtain rfl := Occurrence.closeRequested.inj (List.mem_singleton.mp new)
        have closing :
            connection.state_ = .kDisconnecting ∨ connection.state_ = .kDisconnected := by
          cases seen : connection.state_ <;> simp_all
        exact closing.imp_right .inl
  · intro requested
    have before := executes.requests request requested
    by_cases storing : body.stores = none
    · rw [storing] at state
      refine honoured.keep exchange state (fun _ => before) ?_ requested
      cases body <;> first | rfl | cases storing
    · cases body with
      | connectEstablishedInLoop =>
        -- the connection was connecting, when no request is stored or about to be
        have connecting := lively.used_establishing exchange Nat.one_pos
        rcases honoured before with closing | closed | ahead
        · rw [connecting] at closing
          cases closing
        · rw [connecting] at closed
          cases closed
        · exact absurd connecting (late ahead)
      | connectDestroyedInLoopStore => exact .inr (.inl state)
      | forceCloseStore => exact .inl state
      | handleCloseStore => exact .inr (.inl state)
      | _ => exact absurd rfl storing

/-- Every turn keeps the invariant. -/
theorem Honoured.turn {machine : ServerMachine subLoops User} {c : ConnectionId}
    {event : ServerEvent subLoops User} (honoured : Honoured connection count)
    (lively : Lively connection held count)
    (late : 0 < count Task.storing → connection.state_ ≠ .kConnecting)
    (turn : Turn machine c event connection stored now storedNow used left)
    (exchange : Exchanges count countNow used left) : Honoured now countNow := by
  cases turn with
  | statement thread input body rest connection stored outcome top alive executes =>
    exact honoured.statement lively late executes exchange
  | requested t call connection stored body made =>
    rcases target_cases made with rfl | ⟨msg, rfl⟩ <;> exact honoured.keep exchange rfl id rfl
  | dropped event connection stored alive =>
    exact honoured.keep exchange rfl (fun ⟨seen, registered, member⟩ =>
      ⟨seen, registered, (mem_drop_history connection (by nofun)).mp member⟩) rfl
  | _ => exact honoured.keep exchange rfl id rfl

end Honoured

section Requests

variable [DecidableEq User] [Fintype User] {listenFd : Nat} {openFds : Nat → Bool}
  {machine : ServerMachine subLoops User} {c : ConnectionId}

theorem reachable_honoured
    (reachable : Reachable (TcpServer.system subLoops User listenFd openFds) machine)
    {connection : TcpConnection (LoopId subLoops)}
    (found : machine.world.find c = some connection) :
    Honoured connection (pending c machine) := by
  refine connection_invariant c (fun connection _ count => Honoured connection count) ?_ ?_
    reachable found
  · rintro subLoop fd - ⟨seen, -, member⟩
    cases member
  · intro machine event connection stored now storedNow used left after before _ found honoured
      turn exchange
    have lively := reachable_lively before found
    exact honoured.turn lively
      (fun ahead => lively.past (ahead.trans_le (pending_mono storing_past)))
      turn exchange

/-- A request to close that did not find the connection connecting is not lost: once no
`forceClose` of the connection, no functor one has queued and no `handleClose` is in progress, the
connection is disconnected and out of epoll, and its close callback has been invoked. -/
theorem close_request_honoured
    (reachable : Reachable (TcpServer.system subLoops User listenFd openFds) machine)
    {connection : TcpConnection (LoopId subLoops)} (found : machine.world.find c = some connection)
    (requested : connection.closeRequested) (settled : pending c machine Task.requesting = 0) :
    connection.state_ = .kDisconnected ∧
      (∀ l fd, (machine.world.epoll l fd).map Prod.snd ≠ some (.connection c)) ∧
      .closeCallback ∈ connection.history := by
  have lively := reachable_lively reachable found
  have none {kind : Task → Bool} (implied : ∀ task, kind task = true → task.requesting = true) :
      pending c machine kind = 0 :=
    Nat.eq_zero_of_le_zero ((pending_mono implied).trans_eq settled)
  have disconnected : connection.state_ = .kDisconnected := by
    rcases reachable_honoured reachable found requested with closing | closed | ahead
    · have closes := lively.closing closing
      rw [none fun _ closing => by simp [Task.requesting, closing]] at closes
      cases closes
    · exact closed
    · rw [none fun _ storing => by simp [Task.requesting, storing]] at ahead
      cases ahead
  have closed := lively.disconnected disconnected
  refine ⟨disconnected, fun l fd registered => ?_, ?_⟩
  · obtain ⟨other, otherFound, -, -, added⟩ := (reachable_wired reachable).registrant registered
    obtain rfl := Option.some.inj (found.symm.trans otherFound)
    rcases lively.channel with ⟨-, -, -, opened⟩ | ⟨fresh, -⟩
    · exact closed.ne' opened
    · rw [added] at fresh
      cases fresh
  · have announced := lively.announced
    rw [none fun _ announcing => by simp [Task.requesting, announcing], Nat.add_zero] at announced
    exact List.count_pos_iff.mp (announced ▸ closed)

end Requests

/-- A user thread calls `forceClose` and takes this many steps. -/
def closeRequest (taken : Nat) : List (ServerEvent 1 Unit) :=
  .begin (.user ()) (.user (.forceClose 0)) :: List.replicate taken (steps (.user ()))

/-- The request of a connected connection has been carried out at rest. -/
theorem close_request_honoured_connected : ∃ machine : ServerMachine 1 Unit,
    ∃ connection, machine.world.find 0 = some connection ∧ connection.closeRequested ∧
      connection.state_ = .kDisconnected ∧
      (∀ l fd, (machine.world.epoll l fd).map Prod.snd ≠ some (.connection 0)) ∧
      .closeCallback ∈ connection.history := by
  have carried : ∃ machine, Reachable (TcpServer.system 1 Unit 3 fun _ => false) machine ∧
      Quiescent machine ∧
        ∃ connection ∈ machine.world.find 0, .closeRequested .kConnected ∈ connection.history :=
    exists_of_replay rfl (acceptRun ++ registration ++ closeRequest 7 ++
      [moves firstLoop, readable firstLoop [.eventfd]] ++ List.replicate 4 (moves firstLoop) ++
      List.replicate 11 (steps (.loop firstLoop)) ++ List.replicate 4 (moves firstLoop) ++
      removal 1)
      (by decide)
  obtain ⟨machine, reachable, quiescent, connection, found, member⟩ := carried
  have requested : connection.closeRequested := ⟨.kConnected, nofun, member⟩
  exact ⟨machine, connection, found, requested,
    close_request_honoured reachable found requested (quiescent.pending_eq_zero 0 rfl)⟩

/-- Two requests to close that are not followed by what they ask for. One finds the connection
connecting, and the connection stays open; the other finds it disconnected by a `handleClose` that
has yet to invoke the close callback. -/
theorem close_request_lost :
    (∃ machine : ServerMachine 1 Unit,
      Reachable (TcpServer.system 1 Unit 3 fun _ => false) machine ∧ Quiescent machine ∧
        ∃ connection ∈ machine.world.find 0, .closeRequested .kConnecting ∈ connection.history ∧
          connection.state_ = .kConnected ∧
          (machine.world.epoll firstLoop 7).map Prod.snd = some (.connection 0) ∧
          .closeCallback ∉ connection.history) ∧
    ∃ machine : ServerMachine 1 Unit,
      Reachable (TcpServer.system 1 Unit 3 fun _ => false) machine ∧
        machine.stack (.user ()) = [] ∧
        (∀ l, (machine.loop l).waiting = [] ∧ (machine.loop l).position.called = []) ∧
        ∃ connection ∈ machine.world.find 0, .closeRequested .kDisconnected ∈ connection.history ∧
          .closeCallback ∉ connection.history :=
  ⟨exists_of_replay rfl (acceptRun ++ closeRequest 3 ++ registration) (by decide),
    exists_of_replay rfl (acceptRun ++ registration ++ endOfStream 2 ++ closeRequest 3) (by decide)⟩

end MultiReactor
