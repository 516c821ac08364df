/-
This file proves that with sub loops the server always comes to rest. No thread
of it ever gets stuck: every statement finds its connection alive, `getNextLoop`
finds its index in bounds, and `epoll_wait` does not go on waiting while there is
work for the loop. Nor do the threads keep each other busy: a statement has a
price that pays for all it leads to, on whatever thread, so a run takes no more
than so many steps for each prompt of the environment, and what the threads write
to each other's eventfds is no prompt. When the prompts stop, every chain of
callbacks and functors therefore ends, with all queues empty and every loop
waiting in `epoll_wait`.
-/

import MultiReactor.Dangling
import MultiReactor.RoundRobin
import MultiReactor.Wakeup
import MultiReactor.Workload

namespace MultiReactor

open Transition Ledger

variable {subLoops : Nat} {User : Type}

/-! ### No thread gets stuck -/

/-- What the system call of a statement can return, if it makes one. -/
def Statement.returns : Statement → IoResult → Prop
  | .handleRead, .recv (.data bytes) => bytes ≠ [] ∧ bytes.length ≤ recvSize
  | .handleRead, .recv _ => True
  | .handleRead, _ => False
  | .sendInLoop msg, .send (.count sent) => sent ≤ msg.length
  | .sendInLoop _, .send _ => True
  | .sendInLoop _, _ => False
  | .handleWriteLoop totalSent totalLen, .send (.count sent) => sent ≤ totalLen - totalSent
  | .handleWriteLoop _ _, .send _ => True
  | .handleWriteLoop _ _, _ => False
  | _, _ => True

/-- What the system calls of the server's code can return: `accept` returns no fd that is open. -/
def ServerCode.returns (server : TcpServer subLoops) : ServerCode → Input subLoops → Prop
  | .connection _ body, input => body.returns input.ioResult
  | .handleAccept, .accept (.client fd _) => server.openFds fd = false
  | .handleAccept, .accept _ => True
  | .handleAccept, _ => False
  | _, _ => True

/-- Every statement is defined on a connection that exists. -/
theorem execute_isSome {connection : TcpConnection (LoopId subLoops)} {body : Statement}
    {io : IoResult} (returns : body.returns io) : (connection.execute body io).isSome = true := by
  cases body with
  | handleRead =>
    match io, returns with
    | .recv (.data bytes), fits => exact congrArg Option.isSome (if_pos fits)
    | .recv .eof, _ => rfl
    | .recv .again, _ => rfl
    | .recv .error, _ => rfl
  | sendInLoop msg =>
    show (connection.sendInLoop msg io).isSome = true
    unfold TcpConnection.sendInLoop
    split
    · rfl
    · dsimp only
      split
      · match io, returns with
        | .send (.count sent), fits => exact congrArg Option.isSome (if_pos fits)
        | .send .again, _ => rfl
        | .send .error, _ => rfl
      · rfl
  | handleWriteLoop totalSent totalLen =>
    show (connection.handleWriteLoop totalSent totalLen io).isSome = true
    unfold TcpConnection.handleWriteLoop
    split
    · match io, returns with
      | .send (.count sent), fits =>
        dsimp only
        split
        · rfl
        · exact congrArg Option.isSome (if_pos fits)
      | .send .again, _ => rfl
      | .send .error, _ => rfl
    · rfl
  | _ => rfl

/-- Every statement of the server is defined where the connection it is about exists and the cursor
of `getNextLoop` is in bounds. -/
theorem server_execute_isSome {server : TcpServer subLoops} {body : ServerCode}
    {input : Input subLoops} (inBounds : server.next_ < subLoops)
    (live : ∀ c, (.code body : Call (LoopId subLoops) Functor ServerCode).about c →
      (server.live c).isSome = true)
    (returns : body.returns server input) :
    (TcpServer.execute body input server).isSome = true := by
  cases body with
  | connection c body =>
    obtain ⟨connection, alive⟩ := Option.isSome_iff_exists.mp (live c rfl)
    show (Option.bind (server.live c) _).isSome = true
    rw [alive, Option.bind_some, Option.isSome_map]
    exact execute_isSome returns
  | handleAccept =>
    match input, returns with
    | .accept (.client fd nonBlocking), fresh =>
      have fresh : server.openFds fd = false := fresh
      have deals : server.getNextLoop.isSome = true := by
        rw [TcpServer.getNextLoop, if_neg (Nat.ne_zero_of_lt inBounds), dif_pos inBounds]
        rfl
      show (server.handleAccept (.client fd nonBlocking)).isSome = true
      rw [TcpServer.handleAccept]
      simp only [fresh, Bool.false_eq_true, if_false]
      cases nonBlocking with
      | true => rwa [if_pos rfl, Option.isSome_map]
      | false => rfl
    | .accept .again, _ => rfl
    | .accept .error, _ => rfl
  | removeConnection c =>
    show (Option.map _ (server.live c)).isSome = true
    rw [Option.isSome_map]
    exact live c rfl
  | removeConnectionInLoop c =>
    show (Option.map _ (server.live c)).isSome = true
    rw [Option.isSome_map]
    exact live c rfl
  | listenCallback => rfl
  | release c => rfl

/-- Whether a system call hands something over: a client, data, or room for the output. -/
def ServerCode.prompted : ServerCode → Input subLoops → Bool
  | .connection _ .handleRead, .io (.recv (.data _)) => true
  | .connection _ (.handleWriteLoop totalSent totalLen), .io (.send (.count sent)) =>
    totalSent < totalLen && 0 < sent
  | .handleAccept, .accept (.client _ _) => true
  | _, _ => false

/-- Every statement can be executed with a result that hands nothing over. -/
theorem exists_returns (server : TcpServer subLoops) (body : ServerCode) :
    ∃ input, body.returns server input ∧ body.prompted input = false := by
  cases body with
  | connection c body =>
    cases body with
    | handleRead => exact ⟨.io (.recv .again), trivial, rfl⟩
    | sendInLoop msg => exact ⟨.io (.send .again), trivial, rfl⟩
    | handleWriteLoop totalSent totalLen => exact ⟨.io (.send .again), trivial, rfl⟩
    | _ => exact ⟨.io .none, trivial, rfl⟩
  | handleAccept => exact ⟨.accept .again, trivial, rfl⟩
  | _ => exact ⟨.io .none, trivial, rfl⟩

section Moves

variable [DecidableEq User] {machine : ServerMachine subLoops User}

/-- A thread whose next instruction is no statement executes it. -/
theorem run_isSome {thread : Thread (LoopId subLoops) User} {input : Input subLoops}
    {top : Instruction (LoopId subLoops) Functor ServerCode}
    {rest : List (Instruction (LoopId subLoops) Functor ServerCode)}
    (stack : machine.stack thread = top :: rest) (plain : ∀ body, top ≠ .call (.code body)) :
    ((TcpServer.client subLoops User).step machine (.run thread input)).isSome = true := by
  simp only [Client.step, Client.run, stack]
  rcases top with (body | ⟨l, cb⟩ | ⟨l, cb⟩ | l) | l | cb
  · exact absurd rfl (plain body)
  · dsimp only
    split <;> rfl
  · rfl
  · rfl
  · rfl
  · rfl

/-- `epoll_wait` returns the eventfd while its counter is positive. -/
theorem wakes_isSome {l : LoopId subLoops} (idle : machine.stack (.loop l) = [])
    (place : (machine.loop l).position = .poll) (counted : 0 < (machine.loop l).eventfd_) :
    ((TcpServer.client subLoops User).step machine
      (.advance l [.eventfd] (.revents fun _ => Events.none))).isSome = true := by
  simp only [Client.step, idle, if_true, Client.advance, place]
  rw [if_pos ⟨List.nodup_singleton _, (by decide : 1 ≤ maxEvents), fun _ => counted⟩]
  rfl

end Moves

section Reachable

variable [DecidableEq User] [Fintype User] {listenFd : Nat} {openFds : Nat → Bool}
  {machine : ServerMachine subLoops User}

/-- With sub loops, a statement on top of a stack is executed with every result its system call can
return. -/
theorem statement_isSome (multi : 0 < subLoops)
    (reachable : Reachable (TcpServer.system subLoops User listenFd openFds) machine)
    {thread : Thread (LoopId subLoops) User} {body : ServerCode}
    {rest : List (Instruction (LoopId subLoops) Functor ServerCode)} {input : Input subLoops}
    (top : machine.stack thread = .call (.code body) :: rest)
    (returns : body.returns machine.world input) :
    ((TcpServer.client subLoops User).step machine (.run thread input)).isSome = true := by
  have inBounds : machine.world.next_ < subLoops := by
    rw [(reachable_inTurn multi reachable).cursor]
    exact Nat.mod_lt _ multi
  have onStack : .call (.code body) ∈ machine.stack thread := by
    rw [top]
    exact List.mem_cons_self
  have executed : (TcpServer.execute body input machine.world).isSome = true :=
    server_execute_isSome inBounds (fun c about => live_of_uses multi reachable onStack about)
      returns
  show ((TcpServer.client subLoops User).run machine thread input).isSome = true
  simp only [Client.run, top, Option.isSome_map]
  exact executed

/-- With sub loops, no thread gets stuck, whatever the interleaving: a statement on top of a stack
is executed with every result its system call can return, a thread with something on its stack can
go on, and `epoll_wait` can return to a loop for which a functor is queued or `quit_` is set, unless
the write to its eventfd is still ahead of a thread. -/
theorem server_never_stuck (multi : 0 < subLoops)
    (reachable : Reachable (TcpServer.system subLoops User listenFd openFds) machine) :
    (∀ thread body rest input, machine.stack thread = .call (.code body) :: rest →
        body.returns machine.world input →
          ((TcpServer.system subLoops User listenFd openFds).step machine
            (.run thread input)).isSome = true) ∧
      (∀ thread, machine.stack thread ≠ [] → ∃ input,
        ((TcpServer.system subLoops User listenFd openFds).step machine
          (.run thread input)).isSome = true) ∧
      ∀ l, machine.stack (.loop l) = [] → (machine.loop l).position = .poll →
        (machine.loop l).pendingFunctors_ ≠ [] ∨ (machine.loop l).quit_ = true →
          (∃ input, ((TcpServer.system subLoops User listenFd openFds).step machine
            (.advance l [.eventfd] input)).isSome = true) ∨
            ∃ thread, .wakeup l ∈ machine.stack thread := by
  refine ⟨fun thread body rest input top returns => statement_isSome multi reachable top returns,
    fun thread busy => ?_, fun l idle place work => ?_⟩
  · obtain ⟨top, rest, stack⟩ := List.exists_cons_of_ne_nil busy
    by_cases code : ∃ body, top = .call (.code body)
    · obtain ⟨body, rfl⟩ := code
      obtain ⟨input, returns, -⟩ := exists_returns machine.world body
      exact ⟨input, statement_isSome multi reachable stack returns⟩
    · exact ⟨.io .none, run_isSome stack fun body same => code ⟨body, same⟩⟩
  · have signalled : Signalled machine l := by
      by_contra silent
      obtain ⟨empty, running⟩ := (reachable_armed reachable l).idle place silent
      rcases work with queued | stopped
      · exact queued empty
      · cases running.symm.trans stopped
    exact signalled.imp_left fun counted => ⟨_, wakes_isSome idle place counted⟩

end Reachable

/-- The sub loop goes on after the base loop has erased the closed connection, and `epoll_wait` can
return to the base loop while it has yet to erase it. -/
theorem server_never_stuck_erased :
    (∃ machine : ServerMachine 1 Unit, machine.world.connections_ 7 = none ∧
      ((TcpServer.system 1 Unit 3 fun _ => false).step machine
        (.run (.loop firstLoop) (.io .none))).isSome = true) ∧
      ∃ machine : ServerMachine 1 Unit,
        (machine.loop baseLoop).pendingFunctors_ = [.removeConnectionInLoop 0] ∧
          ∃ input, ((TcpServer.system 1 Unit 3 fun _ => false).step machine
            (.advance baseLoop [.eventfd] input)).isSome = true := by
  constructor
  · obtain ⟨machine, reachable, erased, stack⟩ := erased_while_handled
    obtain ⟨executes, -, -⟩ := server_never_stuck Nat.one_pos reachable
    exact ⟨machine, erased, executes _ _ _ (.io .none) stack trivial⟩
  · have asleep : ∃ machine, Reachable (TcpServer.system 1 Unit 3 fun _ => false) machine ∧
        (machine.loop baseLoop).pendingFunctors_ = [.removeConnectionInLoop 0] ∧
          (machine.stack (.loop baseLoop) = [] ∧ (machine.loop baseLoop).position = .poll) ∧
            ∀ thread, .wakeup baseLoop ∉ machine.stack thread :=
      exists_of_replay rfl (acceptRun ++ registration ++ endOfStream 9) (by decide)
    obtain ⟨machine, reachable, queued, ⟨idle, place⟩, written⟩ := asleep
    obtain ⟨-, -, wakes⟩ := server_never_stuck Nat.one_pos reachable
    refine ⟨machine, queued, (wakes baseLoop idle place (.inl ?_)).resolve_right ?_⟩
    · rw [queued]
      exact List.cons_ne_nil _ _
    · rintro ⟨thread, member⟩
      exact written thread member

/-! ### What it all costs -/

/-- The price of a statement: its own step, and the most expensive way on. -/
def Statement.price : Statement → Nat
  | .errorCallback => 53
  | .readCallback => 53
  | .writeCallback => 55
  | .connectEstablished => 16
  | .connectEstablishedInLoop => 1
  | .connectDestroyed => 17
  | .connectDestroyedInLoop => 2
  | .connectDestroyedInLoopStore => 1
  | .send _ => 16
  | .sendInLoop _ => 1
  | .forceClose => 70
  | .forceCloseRetest => 69
  | .forceCloseStore => 68
  | .forceCloseInLoop => 53
  | .forceCloseInLoopRetest => 52
  | .handleRead => 52
  | .handleReadEcho => 17
  | .handleWrite => 54
  | .handleWriteLoop _ _ => 53
  | .handleWriteRest _ => 52
  | .handleError => 52
  | .handleClose => 51
  | .handleCloseStore => 50
  | .handleCloseCallback => 49

def ServerCode.price : ServerCode → Nat
  | .connection _ body => body.price
  | .listenCallback => 2
  | .handleAccept => 1
  | .removeConnection _ => 47
  | .removeConnectionInLoop _ => 32
  | .release _ => 1

def Functor.price : Functor → Nat
  | .bind _ body => body.price
  | .removeConnectionInLoop _ => 32

/-- The price of what a statement leaves to be done. -/
def Next.price : Next → Nat
  | .statement body => body.price
  | .runInLoop body => body.price + 6 + wakeupPrice
  | .closeCallback => 47
  | .release => 1

section Prices

variable {connection : TcpConnection (LoopId subLoops)} {body : Statement}
  {outcome : Outcome (LoopId subLoops)}

/-- A statement pays for what it leaves, but for the next round of its loop, which what the system
call has handed over pays for. -/
theorem executes_price {c : ConnectionId} {input : Input subLoops}
    (executes : Executes connection body input.ioResult outcome) :
    total Next.price outcome.next + 1 ≤
      body.price + if ServerCode.prompted (.connection c body) input then 84 else 0 := by
  have affords (lower : total Next.price outcome.next + 1 ≤ body.price) :
      total Next.price outcome.next + 1 ≤
        body.price + if ServerCode.prompted (.connection c body) input then 84 else 0 :=
    lower.trans (Nat.le_add_right _ _)
  generalize result : input.ioResult = io at executes
  cases executes with
  | handleReadData bytes nonempty bounded =>
    cases input with
    | io received =>
      obtain rfl : received = .recv (.data bytes) := result
      exact (by decide : 52 + 0 + 1 ≤ 52 + 84)
    | _ => cases result
  | handleWriteSent totalSent totalLen sent left positive bounded =>
    cases input with
    | io accepted =>
      obtain rfl : accepted = .send (.count sent) := result
      have prompted : ServerCode.prompted (.connection c (.handleWriteLoop totalSent totalLen))
          (.io (.send (.count sent)) : Input subLoops) = true := by
        simp [ServerCode.prompted, left, positive]
      rw [prompted, if_pos rfl]
      exact (by decide : 53 + 0 + 1 ≤ 53 + 84)
    | _ => cases result
  | handleWriteNothing io empty =>
    refine affords ?_
    rw [stopWriting_next]
    exact Nat.le_of_ble_eq_true rfl
  | handleWriteDrained totalSent io drained =>
    refine affords ?_
    rw [stopWriting_next]
    split <;> exact Nat.le_of_ble_eq_true rfl
  | sendInLoopDirect | sendInLoopBlocked | sendInLoopQueued =>
    refine affords ?_
    rw [bufferRemaining_next]
    exact Nat.le_refl 1
  | _ => exact affords (Nat.le_of_ble_eq_true rfl)

/-- The calls a statement leaves cost what its outcome says. -/
theorem total_toCall (c : ConnectionId) (loop : LoopId subLoops) (next : List Next) :
    total (Call.price ServerCode.price Functor.price) (next.map (Next.toCall c loop)) =
      total Next.price next := by
  rw [total_map]
  refine congrArg (total · next) (funext fun each => ?_)
  cases each <;> rfl

end Prices

/-- Every statement of the server pays for what it leaves. -/
theorem serverExecutes_price {server after : TcpServer subLoops} {body : ServerCode}
    {input : Input subLoops} {calls : List (Call (LoopId subLoops) Functor ServerCode)}
    (executes : ServerExecutes server body input after calls) :
    total (Call.price ServerCode.price Functor.price) calls + 1 ≤
      body.price + if body.prompted input then 84 else 0 := by
  have affords (lower : total (Call.price ServerCode.price Functor.price) calls + 1 ≤ body.price) :
      total (Call.price ServerCode.price Functor.price) calls + 1 ≤
        body.price + if body.prompted input then 84 else 0 :=
    lower.trans (Nat.le_add_right _ _)
  cases executes with
  | connection c body input connection outcome found alive executes =>
    rw [total_toCall]
    exact executes_price executes
  | acceptRefused fd fresh => exact (by decide : 1 + 0 + 1 ≤ 1 + 84)
  | accepted fd fresh subLoop dealt deal => exact (by decide : 16 + (1 + (1 + 0)) + 1 ≤ 1 + 84)
  | _ => exact affords (Nat.le_of_ble_eq_true rfl)

/-- What a user begins costs no more than a `forceClose` that is handed to a loop. -/
theorem serverBegins_price {server after : TcpServer subLoops} {input : Input subLoops}
    {thread : Thread (LoopId subLoops) User}
    {calls : List (Call (LoopId subLoops) Functor ServerCode)}
    (begins : ServerBegins server thread input after calls) :
    total (Call.price ServerCode.price Functor.price) calls ≤ 84 := by
  cases begins with
  | member t call c body connection made found alive =>
    rcases target_cases made with rfl | ⟨msg, rfl⟩ <;> exact Nat.le_of_ble_eq_true rfl
  | bound t call l c body connection made found alive =>
    rcases target_cases made with rfl | ⟨msg, rfl⟩ <;> exact Nat.le_of_ble_eq_true rfl
  | quit t l => exact Nat.le_of_ble_eq_true rfl

/-- The prices of the server. -/
def TcpServer.pricing (subLoops : Nat) (User : Type) :
    Pricing (TcpServer.client subLoops User) where
  code := ServerCode.price
  functor := Functor.price
  channel := 161
  fee := 84
  prompted := ServerCode.prompted
  execute _ _ _ _ _ executed := serverExecutes_price (serverExecute_cases executed)
  invoke cb := by cases cb <;> exact Nat.le_refl _
  handleEvent ch := by cases ch <;> exact Nat.le_of_ble_eq_true rfl
  begin _ _ _ _ _ begun := serverBegins_price (serverBegin_cases begun)

/-! ### Coming to rest -/

section Rest

variable [DecidableEq User] [Fintype User] {listenFd : Nat} {openFds : Nat → Bool}
  {machine : ServerMachine subLoops User}

/-- The threads never keep each other busy: whatever the interleaving, the process takes no more
than 10711 steps for each prompt. A prompt is that `epoll_wait` returns anything but an eventfd
alone, that a thread enters `loop()`, that a user begins a call, or that a system call hands
something over. -/
theorem server_bounded
    {run : Recorded (ServerMachine subLoops User) (ServerEvent subLoops User)}
    (reachable : Reachable (TcpServer.system subLoops User listenFd openFds).recorded run) :
    run.past.length ≤ 10711 * (TcpServer.pricing subLoops User).promptsIn run.past :=
  (Nat.le_add_right _ _).trans (length_le_of_prompts (TcpServer.pricing subLoops User) reachable)

omit [DecidableEq User] [Fintype User] in
/-- The base loop enters `loop()`, `epoll_wait` returns, and so does `accept`. -/
theorem server_bounded_accepted :
    ∃ run : Recorded (ServerMachine 1 Unit) (ServerEvent 1 Unit),
      run.now.world.connections_ 7 = some 0 ∧ run.past.length ≤ 10711 * 3 := by
  have accepted : ∃ run, Reachable (TcpServer.system 1 Unit 3 fun _ => false).recorded run ∧
      run.now.world.connections_ 7 = some 0 ∧
        (TcpServer.pricing 1 Unit).promptsIn run.past = 3 :=
    exists_of_replay (initial_recorded rfl) acceptRun (by decide)
  obtain ⟨run, reachable, stored, prompted⟩ := accepted
  have bounded := server_bounded reachable
  rw [prompted] at bounded
  exact ⟨run, stored, bounded⟩

end Rest

end MultiReactor
