/-
This file proves that the channels and the kernel agree about what is
registered. In every reachable state a live connection whose channel says that
it is in epoll is in the interest list of its own loop, under its own fd and
with the events the channel asks for, and whatever an interest list holds is
the channel of a live connection, or the listening channel. So no `epoll_ctl`
call the code makes fails, although its result is only logged.
-/

import MultiReactor.Ownership

namespace MultiReactor

open Transition

variable {subLoops : Nat} {User : Type}

/-! ### What an `epoll_ctl` call does -/

/-- What handing a channel to `Epoll` issues, for a channel whose index is one of the two the
convention knows. -/
theorem channelCall_cases {channel now : Channel} {ctl : Option EpollCtl}
    (indexed : channel.index_ = 1 ∨ channel.index_ = -1) (call : ChannelCall channel (now, ctl)) :
    ctl = none ∧ now.index_ = channel.index_ ∧
        (channel.index_ = 1 → now.events_ = channel.events_) ∨
      ctl = some { op := .add, events := now.events_ } ∧ channel.index_ = -1 ∧ now.index_ = 1 ∨
      ctl = some { op := .mod, events := now.events_ } ∧ channel.index_ = 1 ∧ now.index_ = 1 ∨
      ∃ events, ctl = some { op := .del, events := events } ∧ channel.index_ = 1 ∧
        now.index_ = -1 := by
  rcases call with same | ⟨events, same⟩ | same
  · cases same
    exact .inl ⟨rfl, rfl, fun _ => rfl⟩
  · unfold Epoll.updateChannel at same
    rcases indexed with added | fresh
    · by_cases empty : events = .none
      · simp only [empty, added, if_true, Prod.mk.injEq] at same
        obtain ⟨rfl, rfl⟩ := same
        exact .inr (.inr (.inr ⟨_, rfl, added, rfl⟩))
      · simp [empty, added] at same
        obtain ⟨rfl, rfl⟩ := same
        exact .inr (.inr (.inl ⟨rfl, added, rfl⟩))
    · by_cases empty : events = .none
      · simp [empty, fresh] at same
        obtain ⟨rfl, rfl⟩ := same
        exact .inl ⟨rfl, fresh.symm ▸ rfl, fun added => by rw [fresh] at added; cases added⟩
      · simp [empty, fresh] at same
        obtain ⟨rfl, rfl⟩ := same
        exact .inr (.inl ⟨rfl, fresh, rfl⟩)
  · unfold Epoll.removeChannel Channel.disableAll at same
    rcases indexed with added | fresh
    · simp only [added, if_true, Prod.mk.injEq] at same
      obtain ⟨rfl, rfl⟩ := same
      exact .inr (.inr (.inr ⟨_, rfl, added, rfl⟩))
    · simp [fresh] at same
      obtain ⟨rfl, rfl⟩ := same
      exact .inl ⟨rfl, fresh.symm ▸ rfl, fun added => by rw [fresh] at added; cases added⟩

theorem update_add {interest : Interest ChannelId} {fd : Nat} (events : Events)
    (pointer : ChannelId) (free : interest fd = none) :
    interest.update fd pointer (some { op := .add, events := events }) =
      Function.update interest fd (some (events, pointer)) := by
  simp [Interest.update, Interest.ctl, free]

theorem update_mod {interest : Interest ChannelId} {fd : Nat} {old : Events × ChannelId}
    (events : Events) (pointer : ChannelId) (registered : interest fd = some old) :
    interest.update fd pointer (some { op := .mod, events := events }) =
      Function.update interest fd (some (events, pointer)) := by
  simp [Interest.update, Interest.ctl, registered]

theorem update_del {interest : Interest ChannelId} {fd : Nat} {old : Events × ChannelId}
    (events : Events) (pointer : ChannelId) (registered : interest fd = some old) :
    interest.update fd pointer (some { op := .del, events := events }) =
      Function.update interest fd none := by
  simp [Interest.update, Interest.ctl, registered]

/-! ### The channels and the interest lists -/

/-- The channels and the interest lists agree. -/
structure Wired (server : TcpServer subLoops) : Prop where
  indexed : ∀ c connection, server.find c = some connection →
    connection.channel_.index_ = 1 ∨ connection.channel_.index_ = -1
  own : ∀ c connection, server.find c = some connection → 0 < connection.useCount →
    connection.channel_.index_ = 1 →
    server.epoll connection.loop_ connection.fd_ =
      some (connection.channel_.events_, .connection c)
  only : ∀ l fd events c, server.epoll l fd = some (events, .connection c) →
    ∃ connection, server.find c = some connection ∧ 0 < connection.useCount ∧
      connection.loop_ = l ∧ connection.fd_ = fd ∧ connection.channel_.index_ = 1
  listen : ∀ l fd events, server.epoll l fd = some (events, .listen) →
    l = baseLoop ∧ fd = server.listen_channel_.fd_

/-- What an interest list holds for a connection is its own fd, in the list of its own loop. -/
theorem Wired.registrant {server : TcpServer subLoops} (wired : Wired server) {l : LoopId subLoops}
    {fd : Nat} {c : ConnectionId}
    (registered : (server.epoll l fd).map Prod.snd = some (.connection c)) :
    ∃ connection, server.find c = some connection ∧ connection.loop_ = l ∧ connection.fd_ = fd ∧
      connection.channel_.index_ = 1 := by
  obtain ⟨⟨events, pointer⟩, entry, same⟩ := Option.map_eq_some_iff.mp registered
  obtain rfl : pointer = .connection c := same
  obtain ⟨connection, found, -, isLoop, isFd, added⟩ := wired.only l fd events c entry
  exact ⟨connection, found, isLoop, isFd, added⟩

/-- A live connection whose channel says it is not in epoll finds its fd free in every interest
list. -/
theorem Wired.free {server : TcpServer subLoops} {owners : ConnectionId → Nat}
    (wired : Wired server) (owned : Owned server owners) {c : ConnectionId}
    {connection : TcpConnection (LoopId subLoops)} (found : server.find c = some connection)
    (alive : 0 < connection.useCount) (fresh : connection.channel_.index_ = -1)
    (l : LoopId subLoops) : server.epoll l connection.fd_ = none := by
  cases entry : server.epoll l connection.fd_ with
  | none => rfl
  | some registered =>
    obtain ⟨events, pointer⟩ := registered
    cases pointer with
    | listen =>
      exact absurd (wired.listen l _ events entry).2 (owned.separate c connection found alive)
    | connection d =>
      obtain ⟨other, otherFound, otherAlive, -, sameFd, added⟩ := wired.only l _ events d entry
      obtain rfl := owned.distinct d c other connection otherFound found otherAlive alive sameFd
      obtain rfl := Option.some.inj (found.symm.trans otherFound)
      rw [fresh] at added
      cases added

/-! ### What keeps them in agreement -/

/-- A change of the connections that leaves the interest lists, the owners' signs of life and what
the channels say about registration alone. -/
theorem Wired.change {server after : TcpServer subLoops} (wired : Wired server)
    (change : ConnectionId → TcpConnection (LoopId subLoops) → TcpConnection (LoopId subLoops))
    (find : ∀ d, after.find d = (server.find d).map (change d))
    (kept : ∀ d old, server.find d = some old → (change d old).loop_ = old.loop_ ∧
      (change d old).fd_ = old.fd_ ∧ (change d old).channel_.index_ = old.channel_.index_ ∧
      (old.channel_.index_ = 1 → (change d old).channel_.events_ = old.channel_.events_) ∧
      (0 < (change d old).useCount ↔ 0 < old.useCount))
    (epoll : after.epoll = server.epoll)
    (listen : after.listen_channel_.fd_ = server.listen_channel_.fd_) : Wired after where
  indexed d now found := by
    rw [find] at found
    obtain ⟨old, wasThere, rfl⟩ := Option.map_eq_some_iff.mp found
    obtain ⟨-, -, index, -, -⟩ := kept d old wasThere
    rw [index]
    exact wired.indexed d old wasThere
  own d now found alive added := by
    rw [find] at found
    obtain ⟨old, wasThere, rfl⟩ := Option.map_eq_some_iff.mp found
    obtain ⟨loop, fd, index, events, lives⟩ := kept d old wasThere
    rw [index] at added
    rw [epoll, loop, fd, events added]
    exact wired.own d old wasThere (lives.mp alive) added
  only l fd events d entry := by
    rw [epoll] at entry
    obtain ⟨old, wasThere, alive, rfl, rfl, added⟩ := wired.only l fd events d entry
    obtain ⟨loop, fd, index, events, lives⟩ := kept d old wasThere
    exact ⟨change d old, by rw [find, wasThere]; rfl, lives.mpr alive, loop, fd, index.trans added⟩
  listen l fd events entry := by
    rw [epoll] at entry
    rw [listen]
    exact wired.listen l fd events entry

/-- A step that changes one entry of an interest list with the channel it is about. -/
theorem Wired.entry {server after : TcpServer subLoops} {owners : ConnectionId → Nat}
    {c : ConnectionId} {connection now : TcpConnection (LoopId subLoops)}
    {entry : Option (Events × ChannelId)} (wired : Wired server) (owned : Owned server owners)
    (found : server.find c = some connection) (alive : 0 < connection.useCount)
    (find : ∀ d, after.find d = if d = c then some now else server.find d)
    (loop : now.loop_ = connection.loop_) (fd : now.fd_ = connection.fd_)
    (live : 0 < now.useCount)
    (listen : after.listen_channel_ = server.listen_channel_)
    (epoll : after.epoll = Function.update server.epoll connection.loop_
      (Function.update (server.epoll connection.loop_) connection.fd_ entry))
    (registered : entry = some (now.channel_.events_, .connection c) ∧ now.channel_.index_ = 1 ∨
      entry = none ∧ now.channel_.index_ = -1) : Wired after := by
  have lookup (l : LoopId subLoops) (key : Nat) : after.epoll l key =
      if l = connection.loop_ ∧ key = connection.fd_ then entry else server.epoll l key := by
    rw [epoll]
    by_cases isLoop : l = connection.loop_
    · subst isLoop
      rw [Function.update_self]
      by_cases isFd : key = connection.fd_
      · rw [isFd, Function.update_self, if_pos ⟨rfl, rfl⟩]
      · rw [Function.update_of_ne isFd, if_neg fun both => isFd both.2]
    · rw [Function.update_of_ne isLoop, if_neg fun both => isLoop both.1]
  refine ⟨?_, ?_, ?_, ?_⟩
  · intro d other member
    rw [find] at member
    by_cases same : d = c
    · rw [if_pos same] at member
      obtain rfl := Option.some.inj member
      exact registered.imp And.right And.right
    · rw [if_neg same] at member
      exact wired.indexed d other member
  · intro d other member otherAlive added
    rw [find] at member
    by_cases same : d = c
    · rw [if_pos same] at member
      obtain rfl := Option.some.inj member
      subst same
      rcases registered with ⟨isEntry, -⟩ | ⟨-, removed⟩
      · rw [lookup, if_pos ⟨loop, fd⟩, isEntry]
      · rw [added] at removed
        cases removed
    · rw [if_neg same] at member
      have different : other.fd_ ≠ connection.fd_ := fun sameFd =>
        same (owned.distinct d c other connection member found otherAlive alive sameFd)
      rw [lookup, if_neg fun both => different both.2]
      exact wired.own d other member otherAlive added
  · intro l key events d member
    rw [lookup] at member
    by_cases here : l = connection.loop_ ∧ key = connection.fd_
    · rw [if_pos here] at member
      rcases registered with ⟨isEntry, added⟩ | ⟨isNone, -⟩
      · rw [isEntry] at member
        cases member
        exact ⟨now, by rw [find, if_pos rfl], live, loop.trans here.1.symm, fd.trans here.2.symm,
          added⟩
      · rw [isNone] at member
        cases member
    · rw [if_neg here] at member
      obtain ⟨other, otherFound, otherAlive, rfl, rfl, added⟩ := wired.only l key events d member
      by_cases same : d = c
      · subst same
        obtain rfl := Option.some.inj (found.symm.trans otherFound)
        exact absurd ⟨rfl, rfl⟩ here
      · exact ⟨other, by rw [find, if_neg same, otherFound], otherAlive, rfl, rfl, added⟩
  · intro l key events member
    rw [lookup] at member
    rw [listen]
    by_cases here : l = connection.loop_ ∧ key = connection.fd_
    · rw [if_pos here] at member
      rcases registered with ⟨isEntry, -⟩ | ⟨isNone, -⟩
      · rw [isEntry] at member
        cases member
      · rw [isNone] at member
        cases member
    · rw [if_neg here] at member
      exact wired.listen l key events member

/-- Executing a statement keeps the agreement. -/
theorem Wired.commit {server : TcpServer subLoops} {owners : ConnectionId → Nat}
    {c : ConnectionId} {connection : TcpConnection (LoopId subLoops)} {body : Statement}
    {io : IoResult} {outcome : Outcome (LoopId subLoops)} (wired : Wired server)
    (owned : Owned server owners) (found : server.find c = some connection)
    (alive : 0 < connection.useCount) (executes : Executes connection body io outcome) :
    Wired (server.commit c outcome) := by
  have keeps := executes.keeps
  have live : 0 < outcome.connection.useCount := by rw [keeps.useCount]; omega
  have find (d : ConnectionId) := commit_find server c d found outcome
  have epoll (entry : Option (Events × ChannelId))
      (updated : (server.epoll connection.loop_).update connection.fd_ (.connection c)
        outcome.ctl = Function.update (server.epoll connection.loop_) connection.fd_ entry) :
      (server.commit c outcome).epoll = Function.update server.epoll connection.loop_
        (Function.update (server.epoll connection.loop_) connection.fd_ entry) := by
    rw [← updated, ← keeps.loop, ← keeps.fd]
    rfl
  rcases channelCall_cases (wired.indexed c connection found) executes.channelCall with
    ⟨none, index, events⟩ | ⟨add, fresh, added⟩ | ⟨mod, added, still⟩ | ⟨asked, del, added, removed⟩
  · refine wired.change (fun d old => if d = c then outcome.connection else old) (fun d => ?_)
      (fun d old member => ?_) ?_ rfl
    · rw [find]
      by_cases same : d = c
      · simp [same, found]
      · simp [same]
    · by_cases same : d = c
      · subst same
        obtain rfl := Option.some.inj (found.symm.trans member)
        simp only [if_true]
        exact ⟨keeps.loop, keeps.fd, index, events, fun _ => alive, fun _ => live⟩
      · rw [if_neg same]
        exact ⟨rfl, rfl, rfl, fun _ => rfl, Iff.rfl⟩
    · show Function.update server.epoll outcome.connection.loop_ _ = server.epoll
      rw [none]
      exact Function.update_eq_self ..
  · exact wired.entry owned found alive find keeps.loop keeps.fd live rfl
      (epoll _ (by rw [add, update_add _ _ (wired.free owned found alive fresh _)]))
      (.inl ⟨rfl, added⟩)
  · exact wired.entry owned found alive find keeps.loop keeps.fd live rfl
      (epoll _ (by rw [mod, update_mod _ _ (wired.own c connection found alive added)]))
      (.inl ⟨rfl, still⟩)
  · exact wired.entry owned found alive find keeps.loop keeps.fd live rfl
      (epoll _ (by rw [del, update_del _ _ (wired.own c connection found alive added)]))
      (.inr ⟨rfl, removed⟩)

/-- Copying an owner keeps the agreement. -/
theorem Wired.share {server : TcpServer subLoops} {c : ConnectionId}
    {connection : TcpConnection (LoopId subLoops)} (wired : Wired server)
    (found : server.find c = some connection) (alive : 0 < connection.useCount) :
    Wired (server.share c) := by
  refine wired.change (fun d old => if d = c then old.share else old) (fun d => ?_)
    (fun d old member => ?_) rfl rfl
  · rw [share_find]
    by_cases same : d = c <;> simp [same]
  · by_cases same : d = c
    · subst same
      obtain rfl := Option.some.inj (found.symm.trans member)
      simp only [if_true]
      exact ⟨rfl, rfl, rfl, fun _ => rfl, fun _ => alive, fun _ => Nat.succ_pos _⟩
    · rw [if_neg same]
      exact ⟨rfl, rfl, rfl, fun _ => rfl, Iff.rfl⟩

/-- Destroying an owner keeps the agreement: the fd that closes leaves every interest list. -/
theorem Wired.release {server : TcpServer subLoops} {owners : ConnectionId → Nat}
    {c : ConnectionId} {connection : TcpConnection (LoopId subLoops)} (wired : Wired server)
    (owned : Owned server owners) (found : server.find c = some connection)
    (alive : 0 < connection.useCount) : Wired (server.release c) := by
  obtain ⟨-, listen, -, epoll⟩ := release_members server c found
  by_cases last : connection.useCount = 1
  · rw [if_pos last] at epoll
    have lookup (l : LoopId subLoops) (fd : Nat) : (server.release c).epoll l fd =
        if fd = connection.fd_ then none else server.epoll l fd := by
      rw [epoll]
      by_cases isFd : fd = connection.fd_
      · simp [Interest.close, isFd]
      · simp [Interest.close, isFd]
    have find (d : ConnectionId) : (server.release c).find d =
        if d = c then some connection.drop else server.find d := by
      rw [release_find]
      by_cases same : d = c <;> simp [same, found]
    refine ⟨?_, ?_, ?_, ?_⟩
    · intro d other member
      rw [find] at member
      by_cases same : d = c
      · rw [if_pos same] at member
        obtain rfl := Option.some.inj member
        exact wired.indexed c connection found
      · rw [if_neg same] at member
        exact wired.indexed d other member
    · intro d other member otherAlive added
      rw [find] at member
      by_cases same : d = c
      · rw [if_pos same] at member
        obtain rfl := Option.some.inj member
        have remains : 0 < connection.useCount - 1 := otherAlive
        omega
      · rw [if_neg same] at member
        have different : other.fd_ ≠ connection.fd_ := fun sameFd =>
          same (owned.distinct d c other connection member found otherAlive alive sameFd)
        rw [lookup, if_neg different]
        exact wired.own d other member otherAlive added
    · intro l fd events d entry
      rw [lookup] at entry
      by_cases isFd : fd = connection.fd_
      · rw [if_pos isFd] at entry
        cases entry
      · rw [if_neg isFd] at entry
        obtain ⟨other, otherFound, otherAlive, rfl, rfl, added⟩ := wired.only l fd events d entry
        refine ⟨other, ?_, otherAlive, rfl, rfl, added⟩
        rw [find, if_neg, otherFound]
        rintro rfl
        obtain rfl := Option.some.inj (found.symm.trans otherFound)
        exact isFd rfl
    · intro l fd events entry
      rw [lookup] at entry
      rw [listen]
      by_cases isFd : fd = connection.fd_
      · rw [if_pos isFd] at entry
        cases entry
      · rw [if_neg isFd] at entry
        exact wired.listen l fd events entry
  · rw [if_neg last] at epoll
    refine wired.change (fun d old => if d = c then old.drop else old) (fun d => ?_)
      (fun d old member => ?_) epoll (congrArg Channel.fd_ listen)
    · rw [release_find]
      by_cases same : d = c <;> simp [same]
    · by_cases same : d = c
      · subst same
        obtain rfl := Option.some.inj (found.symm.trans member)
        simp only [if_true]
        refine ⟨rfl, rfl, rfl, fun _ => rfl, fun _ => alive, fun _ => ?_⟩
        show 0 < connection.useCount - 1
        omega
      · rw [if_neg same]
        exact ⟨rfl, rfl, rfl, fun _ => rfl, Iff.rfl⟩

/-- A new connection is not in epoll. -/
theorem Wired.enroll {server : TcpServer subLoops} (wired : Wired server)
    (subLoop : LoopId subLoops) (fd : Nat) : Wired (server.enroll subLoop fd) where
  indexed d connection found := by
    rw [enroll_find] at found
    split at found
    · obtain rfl := Option.some.inj found
      exact .inr rfl
    · exact wired.indexed d connection found
  own d connection found alive added := by
    rw [enroll_find] at found
    split at found
    · obtain rfl := Option.some.inj found
      cases added
    · exact wired.own d connection found alive added
  only l key events d entry := by
    obtain ⟨connection, found, alive, loop, same, added⟩ := wired.only l key events d entry
    refine ⟨connection, ?_, alive, loop, same, added⟩
    rw [enroll_find, if_neg, found]
    rintro rfl
    cases (List.getElem?_eq_none (Nat.le_refl _)).symm.trans found
  listen l key events entry := wired.listen l key events entry

/-- What `epoll_wait` reports keeps the agreement. -/
theorem Wired.setRevents {server : TcpServer subLoops} (wired : Wired server)
    (active : List ChannelId) (mask : ChannelId → Events) :
    Wired (server.setRevents active mask) := by
  refine wired.change _ (setRevents_find server · active mask) (fun d old _ => ?_) rfl ?_
  · split <;> exact ⟨rfl, rfl, rfl, fun _ => rfl, Iff.rfl⟩
  · unfold TcpServer.setRevents
    dsimp only
    split <;> rfl

/-! ### Every reachable state -/

theorem Wired.effect {machine : ServerMachine subLoops User} {event : ServerEvent subLoops User}
    {owners : ConnectionId → Nat} {after : TcpServer subLoops} {used left : List ServerItem}
    (wired : Wired machine.world) (owned : Owned machine.world owners)
    (effect : ServerEffect machine event after used left) : Wired after := by
  cases effect with
  | statement thread input c body rest connection outcome top found alive executes =>
    exact wired.commit owned found alive executes
  | listenCallback event => exact wired
  | listenIgnored event => exact wired
  | acceptEnds event => exact wired
  | acceptRefused event => exact wired
  | accepted event fd subLoop next fresh missing dealt =>
    have dealtWired : Wired { machine.world with next_ := next } :=
      ⟨wired.indexed, wired.own, wired.only, wired.listen⟩
    exact dealtWired.enroll subLoop fd
  | removeConnection event c connection found alive => exact wired.share found alive
  | removedAlready event c connection found missing => exact wired
  | removeConnectionInLoop event c connection found shared entry =>
    exact ⟨wired.indexed, wired.own, wired.only, wired.listen⟩
  | release event c connection found alive => exact wired.release owned found alive
  | invoke event cb called connection found alive => exact wired
  | copy event cb connection found alive => exact wired.share found alive
  | destroy event cb connection found alive => exact wired.release owned found alive
  | poll l active mask idle place distinct reported => exact wired.setRevents _ mask
  | deliver event ch => exact wired
  | begin thread input after calls begun =>
    cases begun with
    | member t call c body connection made found alive => exact wired.share found alive
    | bound t call l c body connection made found alive => exact wired.share found alive
    | quit t l => exact wired
  | silent event => exact wired

/-- When `start` has returned, the base loop listens and nothing else is registered. -/
theorem started_epoll (listenFd : Nat) (openFds : Nat → Bool) (l : LoopId subLoops) (fd : Nat) :
    (TcpServer.started subLoops listenFd openFds).epoll l fd =
      if l = baseLoop ∧ fd = listenFd then some ({ Events.none with epollin := true }, .listen)
      else none := by
  show (if l = baseLoop then Interest.update (fun _ => none) listenFd ChannelId.listen
    (some { op := .add, events := { Events.none with epollin := true } })
    else fun _ => none) fd = _
  by_cases isBase : l = baseLoop
  · rw [if_pos isBase, update_add _ _ rfl]
    by_cases isFd : fd = listenFd
    · rw [isFd, Function.update_self, if_pos ⟨isBase, rfl⟩]
    · rw [Function.update_of_ne isFd, if_neg fun both => isFd both.2]
  · rw [if_neg isBase, if_neg fun both => isBase both.1]

theorem started_wired (listenFd : Nat) (openFds : Nat → Bool) :
    Wired (TcpServer.started subLoops listenFd openFds) where
  indexed _ _ found := by cases found
  own _ _ found := by cases found
  only l fd events c entry := by
    rw [started_epoll] at entry
    split at entry <;> cases entry
  listen l fd events entry := by
    rw [started_epoll] at entry
    split at entry
    · rename_i here
      exact here
    · cases entry

/-- In every reachable state the channels and the interest lists agree. -/
theorem reachable_wired [DecidableEq User] [Fintype User] {listenFd : Nat} {openFds : Nat → Bool}
    {machine : ServerMachine subLoops User}
    (reachable : Reachable (TcpServer.system subLoops User listenFd openFds) machine) :
    Wired machine.world := by
  refine reachable.invariant (fun machine => Wired machine.world) ?_ ?_
  · rintro _ rfl
    exact started_wired listenFd openFds
  · intro _ _ _ before wired _ step
    obtain ⟨used, left, effect, -⟩ := reachable_effect before step
    exact wired.effect (reachable_owned before) effect

end MultiReactor
