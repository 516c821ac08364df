/-
This file proves which thread runs what. A connection never changes its loop.
The statements of a member function that ends in `InLoop`, and of everything a
channel callback leads to, are executed by the thread of that loop and no other;
only registering a new connection and the calls a user makes begin elsewhere.
A channel is reported to its own loop only. So what a connection does on its
loop happens one statement at a time, and nothing of it is under way while the
loop waits in `epoll_wait`.
-/

import MultiReactor.Registration
import MultiReactor.Tasks

namespace MultiReactor

open Transition

variable {subLoops : Nat} {User : Type}

/-! ### The loop of a connection -/

/-- The loop a connection was constructed with. -/
def TcpServer.loopOf (server : TcpServer subLoops) (c : ConnectionId) :
    Option (LoopId subLoops) :=
  (server.find c).map TcpConnection.loop_

theorem loopOf_eq {server : TcpServer subLoops} {c : ConnectionId}
    {connection : TcpConnection (LoopId subLoops)} (found : server.find c = some connection) :
    server.loopOf c = some connection.loop_ := by
  rw [TcpServer.loopOf, found]
  rfl

section Kept

variable (server : TcpServer subLoops) (c d : ConnectionId)

@[simp] theorem loopOf_share : (server.share c).loopOf d = server.loopOf d := by
  rw [TcpServer.loopOf, share_find]
  split
  · rw [Option.map_map]
    rfl
  · rfl

@[simp] theorem loopOf_release : (server.release c).loopOf d = server.loopOf d := by
  rw [TcpServer.loopOf, release_find]
  split
  · rw [Option.map_map]
    rfl
  · rfl

@[simp] theorem loopOf_setRevents (active : List ChannelId) (mask : ChannelId → Events) :
    (server.setRevents active mask).loopOf d = server.loopOf d := by
  rw [TcpServer.loopOf, setRevents_find, Option.map_map]
  refine congrArg (Option.map · _) (funext fun connection => ?_)
  simp only [Function.comp_apply]
  split <;> rfl

@[simp] theorem loopOf_store (fd : Nat) : (server.store fd c).loopOf d = server.loopOf d := by
  have stored : TcpServer.loopOf { server.share c with
      connections_ := Function.update server.connections_ fd (some c) } d = server.loopOf d :=
    loopOf_share server c d
  unfold TcpServer.store
  dsimp only
  split
  · rw [loopOf_release, stored]
  · exact stored

theorem loopOf_commit {connection : TcpConnection (LoopId subLoops)}
    (found : server.find c = some connection) (outcome : Outcome (LoopId subLoops))
    (loop : outcome.connection.loop_ = connection.loop_) :
    (server.commit c outcome).loopOf d = server.loopOf d := by
  rw [TcpServer.loopOf, commit_find _ _ _ found]
  split
  · rename_i same
    subst same
    rw [Option.map_some, loop, loopOf_eq found]
  · rfl

end Kept

/-! ### The placement -/

/-- The statements that run on the thread of the connection's loop. -/
def Statement.inLoop : Statement → Bool
  | .connectEstablished => false
  | .send _ => false
  | .forceClose => false
  | .forceCloseRetest => false
  | .forceCloseStore => false
  | _ => true

/-- The queue a functor belongs in: one that must run on the thread of the connection's loop is
the call of a function that ends in `InLoop`, or `connectDestroyed`. -/
def Functor.belongs (server : TcpServer subLoops) (l : LoopId subLoops) : Functor → Prop
  | .bind c body => body.inLoop = true → body.bound = true ∧ server.loopOf c = some l
  | .removeConnectionInLoop _ => l = baseLoop

/-- Where the server's calls, functors and channels belong. -/
def serverPlacement (subLoops : Nat) (User : Type) :
    Placement (LoopId subLoops) User Functor ChannelId ServerCode (TcpServer subLoops) where
  grows before after := ∀ c l, before.loopOf c = some l → after.loopOf c = some l
  call server thread
    | .code (.connection c body) =>
      body.inLoop = true → ∃ l, server.loopOf c = some l ∧ thread = .loop l
    | .code .listenCallback => thread = .loop baseLoop
    | .code .handleAccept => thread = .loop baseLoop
    | .code (.removeConnectionInLoop _) => thread = .loop baseLoop
    | .runInLoop l cb => cb.belongs server l ∧
      ∀ c, cb = .bind c .connectDestroyed → thread = .loop baseLoop
    | .queueInLoop l cb => cb.belongs server l ∧
      ∀ c, cb = .bind c .connectDestroyed → thread = .loop baseLoop
    | _ => True
  functor server l cb := cb.belongs server l
  channel server l
    | .listen => l = baseLoop
    | .connection c => server.loopOf c = some l

theorem Functor.belongs_grows {before after : TcpServer subLoops} {l : LoopId subLoops}
    {cb : Functor} (grows : ∀ c l, before.loopOf c = some l → after.loopOf c = some l)
    (belongs : cb.belongs before l) : cb.belongs after l := by
  cases cb with
  | bind c body => exact fun inLoop => (belongs inLoop).imp_right (grows c l)
  | removeConnectionInLoop c => exact belongs

/-- What a statement of the loop's thread leaves is for the loop's thread. -/
theorem follows_inLoop {body after : Statement} (follows : body.follows (.statement after) = true)
    (inLoop : after.inLoop = true) : body.inLoop = true := by
  cases body <;> cases after <;> first | rfl | (cases follows; done) | cases inLoop

theorem follows_bound {body after : Statement} (follows : body.follows (.runInLoop after) = true) :
    after.bound = true := by
  cases body <;> cases after <;> first | rfl | cases follows

/-- No statement hands `connectDestroyed` over. -/
theorem follows_ne_connectDestroyed {body : Statement} :
    body.follows (.runInLoop .connectDestroyed) = false := by
  cases body <;> rfl

/-- The call of a functor that lies where it belongs. -/
theorem invoke_placed {server : TcpServer subLoops} {l : LoopId subLoops} {cb : Functor}
    (belongs : cb.belongs server l) :
    ∀ made ∈ (cb.invoke : List (Call (LoopId subLoops) Functor ServerCode)),
      (serverPlacement subLoops User).call server (.loop l) made := by
  intro made member
  cases cb with
  | bind c body =>
    obtain rfl := List.mem_singleton.mp member
    exact fun inLoop => ⟨l, (belongs inLoop).2, rfl⟩
  | removeConnectionInLoop c =>
    obtain rfl := List.mem_singleton.mp member
    exact congrArg Thread.loop belongs

theorem server_respects (subLoops : Nat) (User : Type) :
    Respects (TcpServer.client subLoops User) (serverPlacement subLoops User) (fun _ _ => True)
      Wired where
  keepCall := by
    intro before after thread made grows placed
    cases made with
    | code body =>
      cases body with
      | connection c body =>
        exact fun inLoop => (placed inLoop).imp fun l here => here.imp_left (grows c l)
      | listenCallback => exact placed
      | handleAccept => exact placed
      | removeConnection c => trivial
      | removeConnectionInLoop c => exact placed
      | release c => trivial
    | runInLoop l cb => exact placed.imp_left (Functor.belongs_grows grows)
    | queueInLoop l cb => exact placed.imp_left (Functor.belongs_grows grows)
    | quit l => trivial
  keepFunctor _ _ _ _ grows placed := Functor.belongs_grows grows placed
  keepChannel := by
    intro before after l ch grows placed
    cases ch with
    | listen => exact placed
    | connection c => exact grows c l placed
  execute := by
    intro server after thread body input calls executed
    have executed : TcpServer.execute body input server = some (after, calls) := executed
    cases serverExecute_cases executed with
    | connection c body input connection outcome found alive executes =>
      have keeps := executes.keeps
      have same d := loopOf_commit server c d found outcome keeps.loop
      refine ⟨fun d l here => (same d).trans here, fun placed made member => ?_⟩
      obtain ⟨next, inNext, rfl⟩ := List.mem_map.mp member
      have follows := keeps.follows next inNext
      cases next with
      | statement next =>
        intro inLoop
        rw [same]
        exact placed (follows_inLoop follows inLoop)
      | runInLoop next =>
        refine ⟨fun _ => ⟨follows_bound follows, (same c).trans (loopOf_eq found)⟩,
          fun d isBind => ?_⟩
        cases isBind
        rw [follows_ne_connectDestroyed] at follows
        cases follows
      | closeCallback => trivial
      | release => trivial
    | listenCallback input masked =>
      refine ⟨fun _ _ here => here, fun placed made member => ?_⟩
      obtain rfl := List.mem_singleton.mp member
      exact placed
    | listenIgnored input => exact ⟨fun _ _ here => here, fun _ _ member => by cases member⟩
    | acceptEnds result ends => exact ⟨fun _ _ here => here, fun _ _ member => by cases member⟩
    | acceptRefused fd fresh =>
      refine ⟨fun _ _ here => here, fun placed made member => ?_⟩
      obtain rfl := List.mem_singleton.mp member
      exact placed
    | accepted fd fresh subLoop dealt deal =>
      obtain ⟨next, rfl⟩ := getNextLoop_eq server deal
      refine ⟨fun d l here => ?_, fun placed made member => ?_⟩
      · rw [loopOf_store]
        obtain ⟨connection, found, isLoop⟩ := Option.map_eq_some_iff.mp here
        refine Option.map_eq_some_iff.mpr ⟨connection, ?_, isLoop⟩
        exact (List.getElem?_append_left (List.getElem?_eq_some_iff.mp found).1).trans found
      · simp only [List.mem_cons, List.not_mem_nil, or_false] at member
        rcases member with rfl | rfl | rfl
        · exact fun inLoop => by cases inLoop
        · trivial
        · exact placed
    | removeConnection c input connection found alive =>
      refine ⟨fun d l here => (loopOf_share server c d).trans here, fun _ made member => ?_⟩
      obtain rfl := List.mem_singleton.mp member
      exact ⟨rfl, fun d isBind => by cases isBind⟩
    | removedAlready c input connection found alive missing =>
      exact ⟨fun _ _ here => here, fun _ _ member => by cases member⟩
    | removeConnectionInLoop c input connection erased found alive entry =>
      have same d : (((server.erase connection.fd_).release erased).share c).loopOf d =
          server.loopOf d := by
        rw [loopOf_share, loopOf_release]
        rfl
      refine ⟨fun d l here => (same d).trans here, fun placed made member => ?_⟩
      obtain rfl := List.mem_singleton.mp member
      exact ⟨fun _ => ⟨rfl, (same c).trans (loopOf_eq found)⟩, fun _ _ => placed⟩
    | release c input =>
      exact ⟨fun d l here => (loopOf_release server c d).trans here,
        fun _ _ member => by cases member⟩
  runHere _ _ _ placed := invoke_placed placed.1
  runQueued _ _ _ _ _ placed := placed
  pushBack _ _ _ _ placed := placed.1
  invoke _ _ _ belongs := invoke_placed belongs
  handleEvent := by
    intro server l ch placed made member
    cases ch with
    | listen =>
      obtain rfl := List.mem_singleton.mp member
      exact congrArg Thread.loop placed
    | connection c =>
      simp only [TcpServer.client, ChannelId.handleEvent, List.mem_cons, List.not_mem_nil,
        or_false] at member
      rcases member with rfl | rfl | rfl <;> exact fun _ => ⟨l, placed, rfl⟩
  copy server cb c l here := (loopOf_share server _ c).trans here
  destroy server cb c l here := (loopOf_release server _ c).trans here
  poll := by
    intro server after l active input wired polled
    have polled : TcpServer.poll l active input server = some after := polled
    obtain ⟨mask, -, reported, rfl⟩ := serverPoll_cases polled
    refine ⟨fun c m here => (loopOf_setRevents server c active mask).trans here,
      fun ch member => ?_⟩
    have registered := reported ch member
    cases ch with
    | listen =>
      obtain ⟨⟨events, pointer⟩, entry, same⟩ :=
        Option.map_eq_some_iff.mp (of_decide_eq_true registered)
      obtain rfl : pointer = .listen := same
      exact (wired.listen l _ events entry).1
    | connection c =>
      unfold TcpServer.reports at registered
      dsimp only at registered
      split at registered
      · obtain ⟨connection, found, isLoop, -⟩ := wired.registrant (of_decide_eq_true registered)
        exact (loopOf_setRevents server c active mask).trans (isLoop ▸ loopOf_eq found)
      · cases registered
  begin := by
    intro server after thread input calls _ begun
    cases serverBegin_cases begun with
    | member t call c body connection made found alive =>
      refine ⟨fun d l here => (loopOf_share server c d).trans here, fun each member => ?_⟩
      simp only [List.mem_cons, List.not_mem_nil, or_false] at member
      rcases member with rfl | rfl
      · rcases target_cases made with rfl | ⟨msg, rfl⟩ <;> exact fun inLoop => by cases inLoop
      · trivial
    | bound t call l c body connection made found alive =>
      refine ⟨fun d l here => (loopOf_share server c d).trans here, fun each member => ?_⟩
      obtain rfl := List.mem_singleton.mp member
      rcases target_cases made with rfl | ⟨msg, rfl⟩ <;>
        exact ⟨fun inLoop => (by cases inLoop), fun d isBind => by cases isBind⟩
    | quit t l =>
      refine ⟨fun _ _ here => here, fun each member => ?_⟩
      obtain rfl := List.mem_singleton.mp member
      trivial

/-! ### What lies on the loop of a connection -/

/-- What only the loop of a connection has to do with, once its functor has been called: its
statements there, and the entry of a batch. -/
def Task.onLoop : Task → Bool
  | .statement body => body.inLoop && !body.bound
  | .ready => true
  | _ => false

theorem isTask_code {c : ConnectionId} {kind : Task → Bool} {body : ServerCode}
    (counted : isTask c kind (.code body) = true) :
    (∃ statement, body = .connection c statement ∧ kind (.statement statement) = true) ∨
      body = .removeConnection c ∧ kind .removeConnection = true ∨
      body = .removeConnectionInLoop c ∧ kind .removeConnectionInLoop = true := by
  cases body <;> simp_all [isTask, taskOf]

theorem isTask_queued {c : ConnectionId} {kind : Task → Bool} {cb : Functor}
    (counted : isTask c kind (.queued cb) = true) :
    (∃ statement, cb = .bind c statement ∧ kind (.statement statement) = true) ∨
      cb = .removeConnectionInLoop c ∧ kind .removeConnectionInLoop = true := by
  cases cb <;> simp_all [isTask, taskOf]

/-- A functor whose call runs on the loop of a connection is not among them. -/
theorem belongs_not_onLoop {server : TcpServer subLoops} {l : LoopId subLoops} {cb : Functor}
    (belongs : cb.belongs server l) (c : ConnectionId) :
    isTask c Task.onLoop (.queued cb) = false := by
  refine Bool.eq_false_iff.mpr fun counted => ?_
  rcases isTask_queued counted with ⟨body, rfl, onLoop⟩ | ⟨rfl, onLoop⟩
  · obtain ⟨inLoop, unbound⟩ : body.inLoop = true ∧ body.bound = false := by
      simpa [Task.onLoop] using onLoop
    rw [(belongs inLoop).1] at unbound
    cases unbound
  · cases onLoop

section Placed

variable {machine : ServerMachine subLoops User} {c : ConnectionId} {l : LoopId subLoops}

/-- On a stack, it is a statement on the stack of the loop's thread. -/
theorem onLoop_of_stack (placed : Placed (serverPlacement subLoops User) machine)
    (here : machine.world.loopOf c = some l) {thread : Thread (LoopId subLoops) User}
    {instruction : Instruction (LoopId subLoops) Functor ServerCode}
    (onStack : instruction ∈ machine.stack thread) {item : ServerItem}
    (inItems : item ∈ instruction.items) (counted : isTask c Task.onLoop item = true) :
    thread = .loop l ∧ ∃ body, instruction = .call (.code (.connection c body)) ∧
      body.inLoop = true ∧ body.bound = false := by
  have isPlaced := placed.stack thread instruction onStack
  cases instruction with
  | call made =>
    cases made with
    | code body =>
      obtain rfl := List.mem_singleton.mp inItems
      rcases isTask_code counted with ⟨statement, rfl, onLoop⟩ | ⟨rfl, onLoop⟩ | ⟨rfl, onLoop⟩
      · obtain ⟨inLoop, unbound⟩ : statement.inLoop = true ∧ statement.bound = false := by
          simpa [Task.onLoop] using onLoop
        obtain ⟨m, found, isThread⟩ := isPlaced inLoop
        obtain rfl := Option.some.inj (here.symm.trans found)
        exact ⟨isThread, statement, rfl, inLoop, unbound⟩
      · cases onLoop
      · cases onLoop
    | runInLoop m cb =>
      obtain rfl := List.mem_singleton.mp inItems
      rw [belongs_not_onLoop isPlaced.1] at counted
      cases counted
    | queueInLoop m cb =>
      obtain rfl := List.mem_singleton.mp inItems
      rw [belongs_not_onLoop isPlaced.1] at counted
      cases counted
    | quit m => cases inItems
  | wakeup m => cases inItems
  | destroy cb =>
    obtain rfl := List.mem_singleton.mp inItems
    cases counted

/-- In a loop, it is an entry of the loop's batch. -/
theorem onLoop_of_loop (placed : Placed (serverPlacement subLoops User) machine)
    (here : machine.world.loopOf c = some l) {m : LoopId subLoops} {item : ServerItem}
    (inItems : item ∈ (machine.loop m).items) (counted : isTask c Task.onLoop item = true) :
    m = l ∧ item = .ready (.connection c) ∧
      .channel (.connection c) ∈ (machine.loop m).position.active := by
  have queued {cb : Functor} (member : cb ∈ (machine.loop m).waiting)
      (counted : isTask c Task.onLoop (.queued cb) = true) : False := by
    rw [belongs_not_onLoop (placed.queue m cb member)] at counted
    cases counted
  simp only [EventLoop.items, Position.items, List.mem_append, List.mem_map] at inItems
  rcases inItems with
    ⟨cb, member, rfl⟩ | (⟨cb, member, rfl⟩ | ⟨cb, member, rfl⟩) | ⟨ch, member, rfl⟩
  · exact (queued (List.mem_append_right _ member) counted).elim
  · cases counted
  · exact (queued (List.mem_append_left _ member) counted).elim
  · cases ch with
    | listen => cases counted
    | connection d =>
      obtain rfl : d = c := by simpa [isTask, taskOf, Task.onLoop] using counted
      have isActive := mem_channelsOf.mp member
      have batch : .channel (.connection d) ∈ (machine.loop m).position.batch := by
        unfold Position.batch
        split
        · rename_i place
          rw [place] at isActive
          exact List.mem_cons_of_mem _ isActive
        · exact isActive
      have isLoop : machine.world.loopOf d = some m := placed.batch m _ batch
      exact ⟨Option.some.inj (isLoop.symm.trans here), rfl, isActive⟩

variable [Fintype User]

/-- While the loop waits in `epoll_wait`, it has nothing of the connection to do. -/
theorem onLoop_eq_zero (placed : Placed (serverPlacement subLoops User) machine)
    (here : machine.world.loopOf c = some l) (idle : machine.stack (.loop l) = [])
    (inactive : .channel (.connection c) ∉ (machine.loop l).position.active) :
    pending c machine Task.onLoop = 0 := by
  refine tally_eq_zero _ (fun thread => ?_) fun m => ?_
  · refine List.countP_eq_zero.mpr fun item member counted => ?_
    obtain ⟨instruction, onStack, inItems⟩ := List.mem_flatMap.mp member
    obtain ⟨rfl, -⟩ := onLoop_of_stack placed here onStack inItems counted
    rw [idle] at onStack
    cases onStack
  · refine List.countP_eq_zero.mpr fun item member counted => ?_
    obtain ⟨rfl, -, isActive⟩ := onLoop_of_loop placed here member counted
    exact inactive isActive

end Placed

/-! ### One statement at a time -/

/-- The statements of a connection's loop that are executed before anything else is: neither
called as a functor nor one of the tests of `Channel::handleEvent`. -/
def Task.inHand : Task → Bool
  | .statement .errorCallback => false
  | .statement .readCallback => false
  | .statement .writeCallback => false
  | .ready => false
  | task => task.onLoop

theorem inHand_onLoop (task : Task) (inHand : task.inHand = true) : task.onLoop = true := by
  unfold Task.inHand at inHand
  split at inHand <;> first | exact inHand | cases inHand

section Reachable

variable [DecidableEq User] [Fintype User] {listenFd : Nat} {openFds : Nat → Bool}
  {machine : ServerMachine subLoops User} {c : ConnectionId} {l : LoopId subLoops}

/-- Everything lies where it belongs in every reachable state. -/
theorem reachable_server_placed
    (reachable : Reachable (TcpServer.system subLoops User listenFd openFds) machine) :
    Placed (serverPlacement subLoops User) machine :=
  reachable_placed (server_respects subLoops User) (fun _ _ _ _ => trivial)
    (fun _ before => reachable_wired before) reachable

/-- What the loop of a connection has in hand of it is on top of its stack. -/
theorem reachable_hand
    (reachable : Reachable (TcpServer.system subLoops User listenFd openFds) machine)
    (here : machine.world.loopOf c = some l) {kind : Task → Bool}
    (inHand : ∀ task, kind task = true → task.inHand = true) :
    pending c machine kind =
      (stackItems ((machine.stack (.loop l)).take 1)).countP (isTask c kind) := by
  have placed := reachable_server_placed reachable
  have onLoop (item : ServerItem) (counted : isTask c kind item = true) :
      isTask c Task.onLoop item = true :=
    isTask_mono (fun task isKind => inHand_onLoop task (inHand task isKind)) counted
  refine (reachable_server_orderly reachable).tally_eq_top (.loop l) (fun m item member => ?_)
    fun other instruction onStack item inItems counted => ?_
  · refine Bool.eq_false_iff.mpr fun counted => ?_
    obtain ⟨-, rfl, -⟩ := onLoop_of_loop placed here member (onLoop _ counted)
    have ready := isTask_mono inHand counted
    simp [isTask, taskOf, Task.inHand] at ready
  · obtain ⟨isThread, body, rfl, -⟩ :=
      onLoop_of_stack placed here onStack inItems (onLoop _ counted)
    refine ⟨isThread, fun rests => ?_⟩
    obtain rfl := List.mem_singleton.mp inItems
    have isInHand := isTask_mono inHand counted
    cases body <;> first | exact rests | simp [isTask, taskOf, Task.inHand] at isInHand

omit [DecidableEq User] [Fintype User] in
/-- The task on top of a stack, where that is a statement of the connection. -/
theorem tasks_of_top {thread : Thread (LoopId subLoops) User} {body : Statement}
    {rest : List (Instruction (LoopId subLoops) Functor ServerCode)}
    (top : machine.stack thread = .call (.code (.connection c body)) :: rest) (kind : Task → Bool) :
    (stackItems ((machine.stack thread).take 1)).countP (isTask c kind) =
      [Task.statement body].countP kind := by
  have tasks : tasksOf c [.code (.connection c body)] = [.statement body] :=
    (tasksOf_item rfl c).trans (if_pos rfl)
  rw [top, countP_isTask, ← tasks]
  rfl

/-- While a statement of the connection's loop is executed, it is all that the loop has in hand of
the connection. -/
theorem reachable_hand_top
    (reachable : Reachable (TcpServer.system subLoops User listenFd openFds) machine)
    {thread : Thread (LoopId subLoops) User} {body : Statement}
    {rest : List (Instruction (LoopId subLoops) Functor ServerCode)}
    (top : machine.stack thread = .call (.code (.connection c body)) :: rest)
    (inLoop : body.inLoop = true) {kind : Task → Bool}
    (inHand : ∀ task, kind task = true → task.inHand = true) :
    pending c machine kind = [Task.statement body].countP kind := by
  obtain ⟨l, here, rfl⟩ := (reachable_server_placed reachable).top top inLoop
  exact (reachable_hand reachable here inHand).trans (tasks_of_top top kind)

/-- Between two callbacks the loop of a connection has nothing of it in hand. -/
theorem reachable_hand_idle
    (reachable : Reachable (TcpServer.system subLoops User listenFd openFds) machine)
    (here : machine.world.loopOf c = some l) (idle : machine.stack (.loop l) = [])
    {kind : Task → Bool} (inHand : ∀ task, kind task = true → task.inHand = true) :
    pending c machine kind = 0 := by
  rw [reachable_hand reachable here inHand, idle]
  rfl

/-- The loop of a connection has one statement of it in hand at most. -/
theorem reachable_inHand
    (reachable : Reachable (TcpServer.system subLoops User listenFd openFds) machine)
    (c : ConnectionId) : pending c machine Task.inHand ≤ 1 := by
  cases here : machine.world.loopOf c with
  | none =>
    have unborn : machine.world.find c = none := Option.map_eq_none_iff.mp here
    rw [reachable_unborn reachable unborn]
    exact Nat.zero_le 1
  | some l =>
    rw [reachable_hand reachable here fun _ isInHand => isInHand]
    exact stackItems_take_one _

end Reachable

end MultiReactor
