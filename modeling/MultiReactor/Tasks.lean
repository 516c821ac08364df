/-
This file looks at the process from one connection. Its *tasks* are the
statements about it that are still to be executed, as code or as a functor, the
steps of its removal from the map, and its entries in the batches; which thread
they wait on is forgotten. A `Turn` is what a step of the process does to the
connection: what becomes of its members, whether the map still stores it, which
task is used up and which tasks are left. Every step of a reachable machine is
a turn for every connection, so an invariant of one connection's life is proved
over the turns.
-/

import MultiReactor.Ownership

namespace MultiReactor

open Transition

variable {subLoops : Nat} {User : Type}

/-! ### Tasks -/

/-- What can be outstanding for a connection. -/
inductive Task where
  | statement (body : Statement)
  | removeConnection
  | removeConnectionInLoop
  | ready
  deriving DecidableEq

/-- The connection an item is a task of, and the task. A functor that has been called and a
release are none. -/
def taskOf : ServerItem → Option (ConnectionId × Task)
  | .code (.connection c body) => some (c, .statement body)
  | .queued (.bind c body) => some (c, .statement body)
  | .code (.removeConnection c) => some (c, .removeConnection)
  | .code (.removeConnectionInLoop c) => some (c, .removeConnectionInLoop)
  | .queued (.removeConnectionInLoop c) => some (c, .removeConnectionInLoop)
  | .ready (.connection c) => some (c, .ready)
  | _ => none

/-- The tasks of a connection among some items. -/
def tasksOf (c : ConnectionId) (items : List ServerItem) : List Task :=
  items.filterMap fun item =>
    (taskOf item).bind fun task => if task.1 = c then some task.2 else none

/-- Whether an item is a task of a connection with some property. -/
def isTask (c : ConnectionId) (kind : Task → Bool) (item : ServerItem) : Bool :=
  (taskOf item).any fun task => task.1 = c && kind task.2

/-- The number of tasks of a connection that have some property. -/
def pending [Fintype User] (c : ConnectionId) (machine : ServerMachine subLoops User)
    (kind : Task → Bool) : Nat :=
  tally (isTask c kind) machine

/-- An item that is a task of a narrower kind is one of a wider kind. -/
theorem isTask_mono {c : ConnectionId} {narrow wide : Task → Bool}
    (implied : ∀ task, narrow task = true → wide task = true) {item : ServerItem}
    (isNarrow : isTask c narrow item = true) : isTask c wide item = true := by
  unfold isTask at isNarrow ⊢
  cases task : taskOf item with
  | none => simp [task] at isNarrow
  | some found => simp_all

/-- A narrower kind of tasks has fewer tasks. -/
theorem pending_mono [Fintype User] {machine : ServerMachine subLoops User} {c : ConnectionId}
    {narrow wide : Task → Bool} (implied : ∀ task, narrow task = true → wide task = true) :
    pending c machine narrow ≤ pending c machine wide :=
  tally_mono (fun _ => isTask_mono implied) machine

theorem countP_isTask (c : ConnectionId) (kind : Task → Bool) (items : List ServerItem) :
    items.countP (isTask c kind) = (tasksOf c items).countP kind := by
  induction items with
  | nil => rfl
  | cons item rest inductionHypothesis =>
    rw [List.countP_cons, inductionHypothesis, tasksOf, tasksOf, List.filterMap_cons]
    cases task : taskOf item with
    | none => simp [isTask, task]
    | some found =>
      by_cases same : found.1 = c
      · simp [isTask, task, same, List.countP_cons]
      · simp [isTask, task, same]

/-- What a statement leaves to be done, as a task of its connection. -/
def Next.task : Next → Option Task
  | .statement body => some (.statement body)
  | .runInLoop body => some (.statement body)
  | .closeCallback => some .removeConnection
  | .release => none

theorem tasksOf_statement (c d : ConnectionId) (l : LoopId subLoops) (next : List Next) :
    tasksOf d (itemsOf (next.map (Next.toCall c l))) =
      if c = d then next.filterMap Next.task else [] := by
  induction next with
  | nil => simp [tasksOf]
  | cons first rest inductionHypothesis =>
    rw [List.map_cons, itemsOf_cons, tasksOf, List.filterMap_append, ← tasksOf, ← tasksOf,
      inductionHypothesis]
    by_cases same : c = d
    · cases first <;>
        simp [Next.toCall, Call.items, tasksOf, taskOf, Next.task, same, List.filterMap_cons]
    · cases first <;> simp [Next.toCall, Call.items, tasksOf, taskOf, same]

/-! ### Turns -/

/-- What a step of the process does to a connection: its members and whether the map stores it,
before and after, and the tasks used up and left. -/
inductive Turn (machine : ServerMachine subLoops User) (c : ConnectionId) :
    ServerEvent subLoops User → TcpConnection (LoopId subLoops) → Nat →
      TcpConnection (LoopId subLoops) → Nat → List Task → List Task → Prop where
  /-- a statement of the connection is executed -/
  | statement (thread : Thread (LoopId subLoops) User) (input : Input subLoops) (body : Statement)
      (rest : List (Instruction (LoopId subLoops) Functor ServerCode))
      (connection : TcpConnection (LoopId subLoops)) (stored : Nat)
      (outcome : Outcome (LoopId subLoops))
      (top : machine.stack thread = .call (.code (.connection c body)) :: rest)
      (alive : 0 < connection.useCount)
      (executes : Executes connection body input.ioResult outcome) :
      Turn machine c (.run thread input) connection stored outcome.connection stored
        [.statement body] (outcome.next.filterMap Next.task)
  /-- the close callback asks the base loop to remove the connection -/
  | removeConnection (event : ServerEvent subLoops User)
      (connection : TcpConnection (LoopId subLoops)) (stored : Nat) :
      Turn machine c event connection stored connection.share stored [.removeConnection]
        [.removeConnectionInLoop]
  /-- the map has no entry under the connection's fd any more -/
  | removedAlready (event : ServerEvent subLoops User)
      (connection : TcpConnection (LoopId subLoops)) :
      Turn machine c event connection 0 connection 0 [.removeConnectionInLoop] []
  /-- the connection's entry is erased -/
  | removed (event : ServerEvent subLoops User) (connection : TcpConnection (LoopId subLoops)) :
      Turn machine c event connection 1 connection 0 [.removeConnectionInLoop]
        [.statement .connectDestroyed]
  /-- `epoll_wait` reports the connection's channel -/
  | reported (l : LoopId subLoops) (active : List (Ready ChannelId)) (mask : ChannelId → Events)
      (connection : TcpConnection (LoopId subLoops)) (stored : Nat)
      (idle : machine.stack (.loop l) = []) (place : (machine.loop l).position = .poll)
      (member : .connection c ∈ channelsOf active) (alive : 0 < connection.useCount)
      (registered : ((machine.world.epoll l) connection.fd_).map Prod.snd = some (.connection c)) :
      Turn machine c (.advance l active (.revents mask)) connection stored
        { connection with channel_ := connection.channel_.setRevents (mask (.connection c)) }
        stored [] [.ready]
  /-- the loop dispatches the connection's channel -/
  | delivered (event : ServerEvent subLoops User) (connection : TcpConnection (LoopId subLoops))
      (stored : Nat) :
      Turn machine c event connection stored connection stored [.ready]
        [.statement .errorCallback, .statement .readCallback, .statement .writeCallback]
  /-- a user thread begins a call on the connection -/
  | requested (t : User) (call : UserCall subLoops)
      (connection : TcpConnection (LoopId subLoops)) (stored : Nat) (body : Statement)
      (made : call.target = some (c, body)) :
      Turn machine c (.begin (.user t) (.user call)) connection stored connection.share stored []
        [.statement body]
  /-- one of the connection's owners is copied -/
  | shared (event : ServerEvent subLoops User) (connection : TcpConnection (LoopId subLoops))
      (stored : Nat) : Turn machine c event connection stored connection.share stored [] []
  /-- one of the connection's owners is destroyed -/
  | dropped (event : ServerEvent subLoops User) (connection : TcpConnection (LoopId subLoops))
      (stored : Nat) (alive : 0 < connection.useCount) :
      Turn machine c event connection stored connection.drop stored [] []
  /-- the step is about something else -/
  | bystander (event : ServerEvent subLoops User) (connection : TcpConnection (LoopId subLoops))
      (stored : Nat) : Turn machine c event connection stored connection stored [] []

section Turn

variable {machine : ServerMachine subLoops User} {c : ConnectionId}
  {event : ServerEvent subLoops User} {connection now : TcpConnection (LoopId subLoops)}
  {stored storedNow : Nat} {used left : List Task}

/-- No turn moves a connection to another loop. -/
theorem Turn.loop (turn : Turn machine c event connection stored now storedNow used left) :
    now.loop_ = connection.loop_ := by
  cases turn with
  | statement thread input body rest connection stored outcome top alive executes =>
    exact executes.keeps.loop
  | _ => rfl

/-- No turn gives a connection another fd. -/
theorem Turn.fd (turn : Turn machine c event connection stored now storedNow used left) :
    now.fd_ = connection.fd_ := by
  cases turn with
  | statement thread input body rest connection stored outcome top alive executes =>
    exact executes.keeps.fd
  | _ => rfl

/-- Only a turn that drops an owner destroys a connection. -/
theorem Turn.destroys (turn : Turn machine c event connection stored now storedNow used left)
    (alive : 0 < connection.useCount) (destroyed : now.useCount = 0) : storedNow = stored := by
  cases turn with
  | statement thread input body rest connection stored outcome top alive executes => rfl
  | removed event connection => exact absurd destroyed alive.ne'
  | _ => rfl

end Turn

/-- The statement an event executes, if it executes one. -/
def executing (machine : ServerMachine subLoops User) :
    ServerEvent subLoops User → Option ServerCode
  | .run thread _ => match machine.stack thread with
    | .call (.code body) :: _ => some body
    | _ => none
  | _ => none

theorem executing_run {machine : ServerMachine subLoops User}
    {thread : Thread (LoopId subLoops) User} {body : ServerCode}
    {rest : List (Instruction (LoopId subLoops) Functor ServerCode)}
    (top : machine.stack thread = .call (.code body) :: rest) (input : Input subLoops) :
    executing machine (.run thread input) = some body := by
  simp only [executing, top]

/-! ### Every step is a turn -/

@[simp] theorem tasksOf_nil (c : ConnectionId) : tasksOf c [] = [] := rfl

theorem tasksOf_cons (c : ConnectionId) (item : ServerItem) (rest : List ServerItem) :
    tasksOf c (item :: rest) = tasksOf c [item] ++ tasksOf c rest := by
  rw [tasksOf, tasksOf, tasksOf, ← List.filterMap_append]
  rfl

/-- The tasks of a connection an item is. -/
theorem tasksOf_item {item : ServerItem} {d : ConnectionId} {task : Task}
    (found : taskOf item = some (d, task)) (c : ConnectionId) :
    tasksOf c [item] = if d = c then [task] else [] := by
  by_cases same : d = c <;> simp [tasksOf, found, same]

theorem tasksOf_none {item : ServerItem} (none : taskOf item = none) (c : ConnectionId) :
    tasksOf c [item] = [] := by
  simp [tasksOf, none]

/-- A functor is the task its call leaves. -/
theorem tasksOf_invoke (c : ConnectionId) (cb : Functor) :
    tasksOf c
        (.spent cb :: itemsOf (cb.invoke : List (Call (LoopId subLoops) Functor ServerCode))) =
      tasksOf c [.queued cb] := by
  cases cb <;> rfl

theorem tasksOf_copy (c : ConnectionId) (cb : Functor) :
    tasksOf c [.queued cb, .spent cb] = tasksOf c [.queued cb] := by
  cases cb <;> rfl

theorem tasksOf_handleEvent (c d : ConnectionId) :
    tasksOf c (itemsOf ((ChannelId.connection d).handleEvent :
      List (Call (LoopId subLoops) Functor ServerCode))) = if d = c then
          [.statement .errorCallback, .statement .readCallback, .statement .writeCallback]
        else [] := by
  by_cases same : d = c <;> simp [ChannelId.handleEvent, Call.items, tasksOf, taskOf, same]

theorem tasksOf_ready (c : ConnectionId) {active : List ChannelId} (distinct : active.Nodup) :
    tasksOf c (active.map .ready) = if .connection c ∈ active then [.ready] else [] := by
  induction active with
  | nil => rfl
  | cons ch rest inductionHypothesis =>
    obtain ⟨fresh, restDistinct⟩ := List.nodup_cons.mp distinct
    rw [List.map_cons, tasksOf_cons, inductionHypothesis restDistinct]
    cases ch with
    | listen => simp [tasksOf, taskOf]
    | connection d =>
      by_cases same : d = c
      · subst same
        simp [tasksOf, taskOf, fresh]
      · simp [tasksOf, taskOf, same, Ne.symm same]

/-- The step is a turn of the connection, and the tasks it uses up and leaves are those of the
turn next to some it only moves. -/
def TakesTurn (machine : ServerMachine subLoops User) (after : TcpServer subLoops)
    (event : ServerEvent subLoops User) (c : ConnectionId)
    (connection : TcpConnection (LoopId subLoops)) (used left : List Task) : Prop :=
  ∃ now usedNow leftNow moved, after.find c = some now ∧
    Turn machine c event connection (machine.world.stored c connection) now (after.stored c now)
      usedNow leftNow ∧
    used = usedNow ++ moved ∧ left = leftNow ++ moved

section Effects

variable {machine : ServerMachine subLoops User} {event : ServerEvent subLoops User}
  {c : ConnectionId} {connection : TcpConnection (LoopId subLoops)}

theorem TakesTurn.of_turn {after : TcpServer subLoops} {now : TcpConnection (LoopId subLoops)}
    {used left : List Task} (found : after.find c = some now)
    (turn : Turn machine c event connection (machine.world.stored c connection) now
      (after.stored c now) used left) :
    TakesTurn machine after event c connection used left :=
  ⟨now, used, left, [], found, turn, by simp, by simp⟩

/-- A step that leaves the connection and its entry alone and only moves tasks. -/
theorem TakesTurn.of_same {after : TcpServer subLoops} {tasks : List Task}
    (found : after.find c = some connection)
    (stored : after.stored c connection = machine.world.stored c connection) :
    TakesTurn machine after event c connection tasks tasks :=
  ⟨connection, [], [], tasks, found, stored ▸ .bystander event connection _, by simp, by simp⟩

/-- A step that copies an owner of some connection and only moves tasks. -/
theorem TakesTurn.of_share {d : ConnectionId} {tasks : List Task}
    (found : machine.world.find c = some connection) :
    TakesTurn machine (machine.world.share d) event c connection tasks tasks := by
  by_cases same : c = d
  · refine ⟨connection.share, [], [], tasks, ?_, .shared event connection _, by simp, by simp⟩
    rw [share_find, if_pos same, found]
    rfl
  · refine TakesTurn.of_same ?_ rfl
    rw [share_find, if_neg same, found]

/-- A step that destroys an owner of some live connection. -/
theorem TakesTurn.of_release {d : ConnectionId} {released : TcpConnection (LoopId subLoops)}
    (found : machine.world.find c = some connection)
    (releasedFound : machine.world.find d = some released) (alive : 0 < released.useCount) :
    TakesTurn machine (machine.world.release d) event c connection [] [] := by
  have map := (release_members machine.world d releasedFound).1
  by_cases same : c = d
  · subst same
    obtain rfl := Option.some.inj (found.symm.trans releasedFound)
    have now : (machine.world.release c).find c = some connection.drop := by
      rw [release_find, if_pos rfl, found]
      rfl
    have stored : (machine.world.release c).stored c connection.drop =
        machine.world.stored c connection := by
      rw [TcpServer.stored, TcpServer.stored, map]
      rfl
    exact .of_turn now (stored ▸ .dropped event connection _ alive)
  · refine TakesTurn.of_same ?_ (by rw [TcpServer.stored, TcpServer.stored, map])
    rw [release_find, if_neg same, found]

/-- Every effect of a step is a turn for every connection that exists. -/
theorem effect_turn {after : TcpServer subLoops} {used left : List ServerItem}
    (effect : ServerEffect machine event after used left)
    (found : machine.world.find c = some connection) :
    TakesTurn machine after event c connection (tasksOf c used) (tasksOf c left) := by
  cases effect with
  | statement thread input d body rest executing outcome top executingFound alive executes =>
    rw [tasksOf_item rfl, tasksOf_statement]
    by_cases same : d = c
    · subst same
      obtain rfl := Option.some.inj (found.symm.trans executingFound)
      rw [if_pos rfl, if_pos rfl]
      have now : (machine.world.commit d outcome).find d = some outcome.connection := by
        rw [commit_find _ d d found, if_pos rfl]
      have stored : (machine.world.commit d outcome).stored d outcome.connection =
          machine.world.stored d connection := by
        rw [TcpServer.stored, executes.keeps.fd]
        rfl
      exact .of_turn now (stored ▸ .statement thread input body rest connection _ outcome top alive
        executes)
    · rw [if_neg same, if_neg same]
      refine .of_same ?_ rfl
      rw [commit_find _ d c executingFound, if_neg (Ne.symm same), found]
  | listenCallback event => exact .of_same found rfl
  | listenIgnored event => exact .of_same found rfl
  | acceptEnds event => exact .of_same found rfl
  | acceptRefused event => exact .of_same found rfl
  | accepted event fd subLoop next fresh missing dealt =>
    have isOld : c ≠ machine.world.connections.length := by
      rintro rfl
      cases (List.getElem?_eq_none (Nat.le_refl _)).symm.trans found
    have leaves : tasksOf c
        [.code (.connection machine.world.connections.length .connectEstablished),
          .code (.release machine.world.connections.length), .code .handleAccept] = [] := by
      simp [tasksOf, taskOf, Ne.symm isOld]
    rw [tasksOf_none rfl, leaves]
    refine .of_same ?_ ?_
    · rw [enroll_find, if_neg isOld]
      exact found
    · by_cases isFd : connection.fd_ = fd
      · have now : (TcpServer.enroll { machine.world with next_ := next } subLoop fd).stored c
            connection = if some machine.world.connections.length = some c then 1 else 0 :=
          stored_eq (by rw [isFd]; exact Function.update_self ..)
        rw [now, if_neg (by simpa using Ne.symm isOld), stored_of_missing (isFd ▸ missing)]
      · exact stored_eq (Function.update_of_ne isFd ..)
  | removeConnection event d removing removingFound alive =>
    rw [tasksOf_item rfl, tasksOf_item rfl]
    by_cases same : d = c
    · subst same
      rw [if_pos rfl, if_pos rfl]
      refine .of_turn ?_ (.removeConnection event connection _)
      rw [share_find, if_pos rfl, found]
      rfl
    · rw [if_neg same, if_neg same]
      exact .of_share found
  | removedAlready event d removing removingFound missing =>
    rw [tasksOf_item rfl]
    by_cases same : d = c
    · subst same
      obtain rfl := Option.some.inj (found.symm.trans removingFound)
      rw [if_pos rfl]
      refine .of_turn found ?_
      rw [stored_of_missing missing]
      exact .removedAlready event connection
    · rw [if_neg same]
      exact .of_same found rfl
  | removeConnectionInLoop event d removing removingFound shared entry =>
    rw [tasksOf_item rfl, tasksOf_item rfl]
    by_cases same : d = c
    · subst same
      obtain rfl := Option.some.inj (found.symm.trans removingFound)
      rw [if_pos rfl, if_pos rfl]
      have before : machine.world.stored d connection = 1 := by rw [stored_eq entry, if_pos rfl]
      have after : (machine.world.erase connection.fd_).stored d connection = 0 :=
        stored_of_missing (Function.update_self ..)
      refine .of_turn found ?_
      rw [before, after]
      exact .removed event connection
    · rw [if_neg same, if_neg same]
      refine .of_same found ?_
      by_cases isFd : connection.fd_ = removing.fd_
      · have before : machine.world.stored c connection = 0 := by
          rw [stored_eq (isFd ▸ entry), if_neg (by simpa using same)]
        rw [before]
        exact stored_of_missing (by rw [isFd]; exact Function.update_self ..)
      · exact stored_eq (Function.update_of_ne isFd ..)
  | release event d released releasedFound alive =>
    rw [tasksOf_none rfl]
    exact .of_release found releasedFound alive
  | invoke event cb called invoked invokedFound alive =>
    rw [tasksOf_invoke]
    exact .of_same found rfl
  | copy event cb copied copiedFound alive =>
    rw [tasksOf_copy]
    exact .of_share found
  | destroy event cb destroyed destroyedFound alive =>
    rw [tasksOf_none rfl]
    exact .of_release found destroyedFound alive
  | poll l active mask idle place distinct reported =>
    rw [tasksOf_nil, tasksOf_ready c distinct]
    by_cases member : .connection c ∈ channelsOf active
    · rw [if_pos member]
      have registered := reported _ member
      unfold TcpServer.reports at registered
      dsimp only at registered
      split at registered
      · rename_i live isLive
        obtain ⟨liveFound, alive⟩ := live_eq_some.mp isLive
        obtain rfl := Option.some.inj (found.symm.trans liveFound)
        refine .of_turn ?_ (.reported l active mask connection _ idle place member alive
          (of_decide_eq_true registered))
        rw [setRevents_find, found, Option.map_some, if_pos member]
      · cases registered
    · rw [if_neg member]
      refine .of_same ?_ rfl
      rw [setRevents_find, found, Option.map_some, if_neg member]
  | deliver event ch =>
    cases ch with
    | listen => exact .of_same found rfl
    | connection d =>
      rw [tasksOf_item rfl, tasksOf_handleEvent]
      by_cases same : d = c
      · rw [if_pos same, if_pos same]
        exact .of_turn found (.delivered event connection _)
      · rw [if_neg same, if_neg same]
        exact .of_same found rfl
  | begin thread input after calls begun =>
    -- both ways to begin share the connection and leave one statement to be executed
    have requested (t : User) (call : UserCall subLoops) (d : ConnectionId) (body : Statement)
        (made : call.target = some (d, body)) :
        TakesTurn machine (machine.world.share d) (.begin (.user t) (.user call)) c connection []
          (if d = c then [.statement body] else []) := by
      by_cases same : d = c
      · subst same
        rw [if_pos rfl]
        refine .of_turn ?_ (.requested t call connection _ body made)
        rw [share_find, if_pos rfl, found]
        rfl
      · rw [if_neg same]
        exact .of_share found
    cases begun with
    | member t call d body called made calledFound alive =>
      have leaves : tasksOf c (itemsOf ([.code (.connection d body), .code (.release d)] :
          List (Call (LoopId subLoops) Functor ServerCode))) =
            if d = c then [.statement body] else [] := by
        by_cases same : d = c <;> simp [Call.items, tasksOf, taskOf, same]
      rw [leaves]
      exact requested t call d body made
    | bound t call l d body called made calledFound alive =>
      have leaves : tasksOf c (itemsOf ([.runInLoop l (.bind d body)] :
          List (Call (LoopId subLoops) Functor ServerCode))) =
            if d = c then [.statement body] else [] := by
        by_cases same : d = c <;> simp [Call.items, tasksOf, taskOf, same]
      rw [leaves]
      exact requested t call d body made
    | quit t l => exact .of_same found rfl
  | silent event => exact .of_same found rfl

/-- An effect of a step leaves no task for a connection that does not exist, unless it creates
it. -/
theorem effect_birth {after : TcpServer subLoops} {used left : List ServerItem}
    (effect : ServerEffect machine event after used left) (unborn : machine.world.find c = none)
    (idle : tasksOf c used = []) :
    after.find c = none ∧ tasksOf c left = [] ∨
      ∃ subLoop fd, after.find c = some (TcpConnection.accepted subLoop fd).share ∧
        after.stored c (TcpConnection.accepted subLoop fd).share = 1 ∧
        (0 < subLoops → subLoop ≠ baseLoop) ∧
        tasksOf c left = [.statement .connectEstablished] := by
  have other {d : ConnectionId} {connection : TcpConnection (LoopId subLoops)}
      (found : machine.world.find d = some connection) : d ≠ c := by
    rintro rfl
    cases unborn.symm.trans found
  cases effect with
  | statement thread input d body rest executing outcome top found alive executes =>
    refine .inl ⟨?_, by rw [tasksOf_statement, if_neg (other found)]⟩
    rw [commit_find _ d c found, if_neg (other found).symm, unborn]
  | listenCallback event => exact .inl ⟨unborn, rfl⟩
  | listenIgnored event => exact .inl ⟨unborn, rfl⟩
  | acceptEnds event => exact .inl ⟨unborn, rfl⟩
  | acceptRefused event => exact .inl ⟨unborn, rfl⟩
  | accepted event fd subLoop next fresh missing dealt =>
    by_cases isNew : c = machine.world.connections.length
    · subst isNew
      refine .inr ⟨subLoop, fd, ?_, ?_, dealt, by simp [tasksOf, taskOf]⟩
      · rw [enroll_find]
        exact if_pos rfl
      · have stored : (TcpServer.enroll { machine.world with next_ := next } subLoop fd).stored
            machine.world.connections.length (TcpConnection.accepted subLoop fd).share =
            if some machine.world.connections.length = some machine.world.connections.length
              then 1 else 0 :=
          stored_eq (Function.update_self ..)
        rw [stored, if_pos rfl]
    · refine .inl ⟨?_, by simp [tasksOf, taskOf, Ne.symm isNew]⟩
      rw [enroll_find, if_neg isNew]
      exact unborn
  | removeConnection event d connection found alive =>
    refine .inl ⟨?_, by rw [tasksOf_item rfl, if_neg (other found)]⟩
    rw [share_find, if_neg (other found).symm, unborn]
  | removedAlready event d connection found missing => exact .inl ⟨unborn, rfl⟩
  | removeConnectionInLoop event d connection found shared entry =>
    exact .inl ⟨unborn, by rw [tasksOf_item rfl, if_neg (other found)]⟩
  | release event d connection found alive =>
    refine .inl ⟨?_, rfl⟩
    rw [release_find, if_neg (other found).symm, unborn]
  | invoke event cb called connection found alive => exact .inl ⟨unborn, by rwa [tasksOf_invoke]⟩
  | copy event cb connection found alive =>
    refine .inl ⟨?_, by rwa [tasksOf_copy]⟩
    rw [share_find, if_neg (other found).symm, unborn]
  | destroy event cb connection found alive =>
    refine .inl ⟨?_, rfl⟩
    rw [release_find, if_neg (other found).symm, unborn]
  | poll l active mask idle place distinct reported =>
    refine .inl ⟨by rw [setRevents_find, unborn]; rfl, ?_⟩
    rw [tasksOf_ready c distinct, if_neg]
    intro member
    have registered := reported _ member
    simp [TcpServer.reports, TcpServer.live, unborn] at registered
  | deliver event ch =>
    refine .inl ⟨unborn, ?_⟩
    cases ch with
    | listen => rfl
    | connection d =>
      rw [tasksOf_item rfl] at idle
      rw [tasksOf_handleEvent, if_neg]
      intro same
      rw [if_pos same] at idle
      cases idle
  | begin thread input after calls begun =>
    cases begun with
    | member t call d body called made found alive =>
      refine .inl ⟨?_, by simp [Call.items, tasksOf, taskOf, other found]⟩
      rw [share_find, if_neg (other found).symm, unborn]
    | bound t call l d body called made found alive =>
      refine .inl ⟨?_, by simp [Call.items, tasksOf, taskOf, other found]⟩
      rw [share_find, if_neg (other found).symm, unborn]
    | quit t l => exact .inl ⟨unborn, rfl⟩
  | silent event => exact .inl ⟨unborn, rfl⟩

end Effects

section Reachable

variable [DecidableEq User] [Fintype User] {listenFd : Nat} {openFds : Nat → Bool}
  {machine after : ServerMachine subLoops User} {event : ServerEvent subLoops User}
  {c : ConnectionId}

/-- Every step from a reachable state is a turn for every connection that exists. -/
theorem reachable_turn {connection : TcpConnection (LoopId subLoops)}
    (reachable : Reachable (TcpServer.system subLoops User listenFd openFds) machine)
    (step : (TcpServer.system subLoops User listenFd openFds).step machine event = some after)
    (found : machine.world.find c = some connection) :
    ∃ now used left, after.world.find c = some now ∧
      Turn machine c event connection (machine.world.stored c connection) now
        (after.world.stored c now) used left ∧
      ∀ kind, used.countP kind ≤ pending c machine kind ∧
        pending c after kind + used.countP kind = pending c machine kind + left.countP kind := by
  obtain ⟨used, left, effect, tallies⟩ := reachable_effect reachable step
  obtain ⟨now, usedNow, leftNow, moved, nowFound, turn, usedSame, leftSame⟩ :=
    effect_turn effect found
  refine ⟨now, usedNow, leftNow, nowFound, turn, fun kind => ?_⟩
  have change := tallies (isTask c kind)
  rw [countP_isTask, countP_isTask, usedSame, leftSame, List.countP_append,
    List.countP_append] at change
  unfold pending
  omega

/-- A connection that does not exist has no tasks; a step that creates it leaves it registering
itself. -/
theorem reachable_birth (reachable : Reachable (TcpServer.system subLoops User listenFd openFds)
      machine)
    (step : (TcpServer.system subLoops User listenFd openFds).step machine event = some after)
    (unborn : machine.world.find c = none) (idle : ∀ kind, pending c machine kind = 0) :
    after.world.find c = none ∧ (∀ kind, pending c after kind = 0) ∨
      ∃ subLoop fd, after.world.find c = some (TcpConnection.accepted subLoop fd).share ∧
        after.world.stored c (TcpConnection.accepted subLoop fd).share = 1 ∧
        (0 < subLoops → subLoop ≠ baseLoop) ∧
        ∀ kind, pending c after kind = [Task.statement .connectEstablished].countP kind := by
  obtain ⟨used, left, effect, tallies⟩ := reachable_effect reachable step
  have none : tasksOf c used = [] := by
    have held := (tallies (isTask c fun _ => true)).1
    rw [countP_isTask, ← pending, idle] at held
    simpa using held
  have change (kind : Task → Bool) : pending c after kind = (tasksOf c left).countP kind := by
    have change := (tallies (isTask c kind)).2
    have before := idle kind
    rw [countP_isTask, countP_isTask, none, List.countP_nil] at change
    unfold pending at before ⊢
    omega
  rcases effect_birth effect unborn none with
    ⟨still, leaves⟩ | ⟨subLoop, fd, now, stored, dealt, leaves⟩
  · exact .inl ⟨still, fun kind => by rw [change, leaves, List.countP_nil]⟩
  · exact .inr ⟨subLoop, fd, now, stored, dealt, fun kind => by rw [change, leaves]⟩

theorem reachable_unborn (reachable : Reachable (TcpServer.system subLoops User listenFd openFds)
    machine) (unborn : machine.world.find c = none) (kind : Task → Bool) :
    pending c machine kind = 0 := by
  refine reachable.invariant
    (fun machine => machine.world.find c = none → ∀ kind, pending c machine kind = 0) ?_ ?_
    unborn kind
  · rintro _ rfl _ kind
    exact start_tally _ _
  · intro machine event after before inductionHypothesis _ step missing
    have unborn : machine.world.find c = none := by
      cases found : machine.world.find c with
      | none => rfl
      | some connection =>
        obtain ⟨now, used, left, nowFound, -⟩ := reachable_turn before step found
        cases missing.symm.trans nowFound
    rcases reachable_birth before step unborn (inductionHypothesis unborn) with
      ⟨-, idle⟩ | ⟨subLoop, fd, now, -⟩
    · exact idle
    · cases missing.symm.trans now

/-- What the tasks used up and left do to the numbers of tasks. -/
def Exchanges (before after : (Task → Bool) → Nat) (used left : List Task) : Prop :=
  ∀ kind, used.countP kind ≤ before kind ∧
    after kind + used.countP kind = before kind + left.countP kind

/-- A property of a connection, of whether the map stores it and of its tasks holds throughout a
guarded run, if it holds when the connection is created and every permitted turn keeps it. -/
theorem connection_invariant
    {guard : Guard (ServerMachine subLoops User) (ServerEvent subLoops User)} (c : ConnectionId)
    (property : TcpConnection (LoopId subLoops) → Nat → ((Task → Bool) → Nat) → Prop)
    (birth : ∀ subLoop fd, (0 < subLoops → subLoop ≠ baseLoop) →
      property (TcpConnection.accepted subLoop fd).share 1 fun kind =>
        [Task.statement .connectEstablished].countP kind)
    (turn : ∀ machine event connection stored now storedNow used left after,
      ReachableBy (TcpServer.system subLoops User listenFd openFds) guard machine →
      guard machine event → machine.world.find c = some connection →
      property connection stored (pending c machine) →
      Turn machine c event connection stored now storedNow used left →
      Exchanges (pending c machine) after used left → property now storedNow after)
    (reachable : ReachableBy (TcpServer.system subLoops User listenFd openFds) guard machine)
    {connection : TcpConnection (LoopId subLoops)}
    (found : machine.world.find c = some connection) :
    property connection (machine.world.stored c connection) (pending c machine) := by
  refine reachable.invariant (fun machine => ∀ connection, machine.world.find c = some connection →
    property connection (machine.world.stored c connection) (pending c machine)) ?_ ?_ connection
    found
  · rintro _ rfl connection found
    cases found
  · intro machine event after before inductionHypothesis permitted step now nowFound
    cases found : machine.world.find c with
    | none =>
      rcases reachable_birth before.reachable step found
        (reachable_unborn before.reachable found) with
        ⟨still, -⟩ | ⟨subLoop, fd, born, stored, dealt, tasks⟩
      · cases still.symm.trans nowFound
      · obtain rfl := Option.some.inj (born.symm.trans nowFound)
        rw [stored, show pending c after = _ from funext tasks]
        exact birth subLoop fd dealt
    | some connection =>
      obtain ⟨same, used, left, sameFound, taken, exchange⟩ :=
        reachable_turn before.reachable step found
      obtain rfl := Option.some.inj (sameFound.symm.trans nowFound)
      exact turn machine event connection _ same _ used left _ before permitted found
        (inductionHypothesis connection found) taken exchange

/-- With sub loops, no connection lives on the base loop. -/
theorem reachable_loop_ne_base (multi : 0 < subLoops)
    (reachable : Reachable (TcpServer.system subLoops User listenFd openFds) machine)
    {connection : TcpConnection (LoopId subLoops)}
    (found : machine.world.find c = some connection) :
    connection.loop_ ≠ baseLoop := by
  refine connection_invariant c (fun connection _ _ => connection.loop_ ≠ baseLoop) ?_ ?_ reachable
    found
  · intro subLoop fd dealt
    exact dealt multi
  · intro machine event connection stored now storedNow used left after _ _ _ other turn _
    rwa [turn.loop]

end Reachable

end MultiReactor
