/-
This file compares the server with another state of it in which some
connections have further owners. While a connection has an owner in the first,
it is the same in both but for the count; once it is destroyed there, it may
live on in the second, and then its fd is still open and registered. What the
server's code does in the first state it does in the second, and they remain
comparable.
-/

import MultiReactor.Registration
import MultiReactor.Solo

namespace MultiReactor

variable {subLoops : Nat} {User : Type}

/-! ### Further owners -/

section More

variable {Loop : Type}

/-- The connection with further owners. -/
def TcpConnection.more (connection : TcpConnection Loop) (owners : Nat) : TcpConnection Loop :=
  { connection with useCount := connection.useCount + owners }

def Outcome.more (owners : Nat) (outcome : Outcome Loop) : Outcome Loop :=
  { outcome with connection := outcome.connection.more owners }

variable (connection : TcpConnection Loop) (owners : Nat)

theorem more_share : connection.share.more owners = (connection.more owners).share := by
  simp only [TcpConnection.share, TcpConnection.more, Nat.add_right_comm]

theorem more_bindInLoop (body : Statement) :
    (connection.bindInLoop body).more owners = (connection.more owners).bindInLoop body := by
  rw [TcpConnection.bindInLoop, TcpConnection.bindInLoop, ← more_share]
  rfl

theorem more_bufferRemaining (remaining : Bytes) :
    (connection.bufferRemaining remaining).more owners =
      (connection.more owners).bufferRemaining remaining :=
  ite_alone (Outcome.more owners) id Iff.rfl rfl
    (ite_alone (Outcome.more owners) id Iff.rfl rfl rfl)

theorem more_stopWriting (next : List Next) :
    (connection.stopWriting next).more owners = (connection.more owners).stopWriting next :=
  ite_alone (Outcome.more owners) id Iff.rfl rfl rfl

/-- Executing a statement does not depend on the number of owners. -/
theorem execute_more (body : Statement) (io : IoResult) :
    (connection.execute body io).map (Outcome.more owners) =
      (connection.more owners).execute body io := by
  cases body with
  | connectEstablished | connectDestroyed | forceCloseStore =>
    exact congrArg some (more_bindInLoop ..)
  | send msg =>
    exact congrArg some (ite_alone _ id Iff.rfl (more_bindInLoop ..) rfl)
  | sendInLoop msg =>
    refine ite_alone (Option.map _) id Iff.rfl rfl ?_
    refine ite_alone (Option.map _) id Iff.rfl ?_ (congrArg some (more_bufferRemaining ..))
    rcases io with _ | received | (sent | _ | _)
    · rfl
    · rfl
    · exact ite_alone (Option.map _) id Iff.rfl (congrArg some (more_bufferRemaining ..)) rfl
    · exact congrArg some (more_bufferRemaining ..)
    · rfl
  | handleRead =>
    rcases io with _ | (bytes | _ | _ | _) | sent
    · rfl
    · exact ite_alone (Option.map _) id Iff.rfl rfl rfl
    · rfl
    · rfl
    · rfl
    · rfl
  | handleReadEcho => exact congrArg some (ite_alone _ id Iff.rfl rfl rfl)
  | handleWrite => exact congrArg some (ite_alone _ id Iff.rfl (more_stopWriting ..) rfl)
  | handleWriteLoop totalSent totalLen =>
    refine ite_alone (Option.map _) id Iff.rfl ?_ rfl
    rcases io with _ | received | (sent | _ | _)
    · rfl
    · rfl
    · refine ite_alone (Option.map _) id Iff.rfl rfl ?_
      exact ite_alone (Option.map _) id Iff.rfl rfl rfl
    · rfl
    · rfl
  | handleWriteRest totalSent =>
    exact congrArg some (ite_alone _ id Iff.rfl (more_stopWriting ..) rfl)
  | handleCloseCallback =>
    refine congrArg some (ite_alone _ id Iff.rfl ?_ rfl)
    show (((connection.record .closeCallback).share).yields _).more owners = _
    rw [TcpConnection.yields, Outcome.more, more_share]
    rfl
  | _ => rfl

/-- Dropping one owner of several. -/
theorem drop_shared {connection : TcpConnection Loop} (shared : 2 ≤ connection.useCount) :
    connection.drop = { connection with useCount := connection.useCount - 1 } := by
  have several : connection.useCount ≠ 1 := by omega
  rw [TcpConnection.drop, if_neg several]

theorem drop_more {connection : TcpConnection Loop} (shared : 2 ≤ connection.useCount)
    (owners : Nat) : (connection.more owners).drop = connection.drop.more owners := by
  have counts : connection.useCount + owners - 1 = connection.useCount - 1 + owners := by omega
  rw [drop_shared (Nat.le_add_right_of_le shared), drop_shared shared]
  exact congrArg (fun count => { connection with useCount := count }) counts

/-- An owner that is dropped and one that is gained. -/
theorem more_drop {connection : TcpConnection Loop} (shared : 2 ≤ connection.useCount)
    (owners : Nat) : connection.more owners = connection.drop.more (owners + 1) := by
  have counts : connection.useCount + owners = connection.useCount - 1 + (owners + 1) := by omega
  rw [drop_shared shared]
  exact congrArg (fun count => { connection with useCount := count }) counts

end More

/-! ### Interest lists -/

/-- What one interest list holds, another holds too. -/
def Interest.Within (small large : Interest ChannelId) : Prop :=
  ∀ fd entry, small fd = some entry → large fd = some entry

theorem within_set {small large : Interest ChannelId} (within : small.Within large) (fd : Nat)
    (entry : Option (Events × ChannelId)) :
    Interest.Within (Function.update small fd entry) (Function.update large fd entry) := by
  intro key held registered
  by_cases same : key = fd
  · rw [same, Function.update_self] at registered ⊢
    exact registered
  · rw [Function.update_of_ne same] at registered ⊢
    exact within key held registered

theorem within_close {small large : Interest ChannelId} (within : small.Within large) (fd : Nat) :
    (small.close fd).Within large := by
  intro key held registered
  by_cases same : key = fd
  · rw [same, Interest.close, Function.update_self] at registered
    cases registered
  · rw [Interest.close, Function.update_of_ne same] at registered
    exact within key held registered

/-- What is not held does not matter. -/
theorem within_other {small large : Interest ChannelId} (within : small.Within large) {fd : Nat}
    (empty : small fd = none) (entry : Option (Events × ChannelId)) :
    small.Within (Function.update large fd entry) := by
  intro key held registered
  by_cases same : key = fd
  · rw [same, empty] at registered
    cases registered
  · rw [Function.update_of_ne same]
    exact within key held registered

/-- A call about an fd that is not registered fails, unless it registers it. -/
theorem update_unregistered {interest : Interest ChannelId} {fd : Nat} (pointer : ChannelId)
    {op : CtlOp} {events : Events} (other : op ≠ .add) (empty : interest fd = none) :
    interest.update fd pointer (some { op := op, events := events }) = interest := by
  cases op with
  | add => exact absurd rfl other
  | mod | del => simp [Interest.update, Interest.ctl, empty]

/-- An `epoll_ctl` call keeps it so, unless it adds what only one of them holds. -/
theorem within_update {small large : Interest ChannelId} (within : small.Within large) (fd : Nat)
    (pointer : ChannelId) {call : Option EpollCtl}
    (free : ∀ events, call = some { op := .add, events := events } → large fd = none) :
    (small.update fd pointer call).Within (large.update fd pointer call) := by
  rcases call with _ | ⟨op, events⟩
  · exact within
  cases held : small fd with
  | some entry =>
    have heldToo := within fd entry held
    cases op with
    | add =>
      rw [free events rfl] at heldToo
      cases heldToo
    | mod =>
      rw [update_mod _ _ held, update_mod _ _ heldToo]
      exact within_set within fd _
    | del =>
      rw [update_del _ _ held, update_del _ _ heldToo]
      exact within_set within fd _
  | none =>
    cases op with
    | add =>
      rw [update_add _ _ held, update_add _ _ (free events rfl)]
      exact within_set within fd _
    | mod =>
      have other : CtlOp.mod ≠ .add := nofun
      rw [update_unregistered _ other held]
      cases heldToo : large fd with
      | none =>
        rw [update_unregistered _ other heldToo]
        exact within
      | some entry =>
        rw [update_mod _ _ heldToo]
        exact within_other within held _
    | del =>
      have other : CtlOp.del ≠ .add := nofun
      rw [update_unregistered _ other held]
      cases heldToo : large fd with
      | none =>
        rw [update_unregistered _ other heldToo]
        exact within
      | some entry =>
        rw [update_del _ _ heldToo]
        exact within_other within held _

/-! ### Two states of the server -/

/-- A connection in the other state: it has further owners, and is the same while it has any
here. -/
structure Faded (spare : Nat) (connection seen : TcpConnection (LoopId subLoops)) : Prop where
  useCount : seen.useCount = connection.useCount + spare
  loop : seen.loop_ = connection.loop_
  fd : seen.fd_ = connection.fd_
  alive : 0 < connection.useCount → seen = connection.more spare

/-- The other state has the same connections with further owners, and all that is registered. -/
structure Fades (spare : ConnectionId → Nat) (server image : TcpServer subLoops) : Prop where
  missing : ∀ c, server.find c = none → image.find c = none
  found : ∀ c connection, server.find c = some connection →
    ∃ seen, image.find c = some seen ∧ Faded (spare c) connection seen
  listen : image.listen_channel_ = server.listen_channel_
  epoll : ∀ l, (server.epoll l).Within (image.epoll l)

/-- A lookup that finds a connection changed. -/
theorem lookup_changed {find : ConnectionId → Option (TcpConnection (LoopId subLoops))}
    {c : ConnectionId} {connection : TcpConnection (LoopId subLoops)}
    (found : find c = some connection)
    (change : TcpConnection (LoopId subLoops) → TcpConnection (LoopId subLoops))
    (d : ConnectionId) :
    (if d = c then (find d).map change else find d) =
      if d = c then some (change connection) else find d := by
  by_cases same : d = c
  · rw [if_pos same, if_pos same, same, found, Option.map_some]
  · rw [if_neg same, if_neg same]

section Fades

variable {spare spareNow : ConnectionId → Nat} {server image after seenAfter : TcpServer subLoops}
  {c : ConnectionId} {connection now seen seenNow : TcpConnection (LoopId subLoops)}

/-- A connection with an owner is the same in the other state, but for its further owners. -/
theorem Fades.same (fades : Fades spare server image) (found : server.find c = some connection)
    (alive : 0 < connection.useCount) : image.find c = some (connection.more (spare c)) := by
  obtain ⟨seen, seenFound, faded⟩ := fades.found c connection found
  rw [seenFound, faded.alive alive]

/-- A change of one connection in each state. -/
theorem Fades.replace (fades : Fades spare server image)
    (find : ∀ d, after.find d = if d = c then some now else server.find d)
    (view : ∀ d, seenAfter.find d = if d = c then some seenNow else image.find d)
    (faded : Faded (spareNow c) now seenNow) (others : ∀ d, d ≠ c → spareNow d = spare d)
    (listen : seenAfter.listen_channel_ = after.listen_channel_)
    (epoll : ∀ l, (after.epoll l).Within (seenAfter.epoll l)) :
    Fades spareNow after seenAfter where
  missing d none := by
    rw [find] at none
    rw [view]
    by_cases same : d = c
    · rw [if_pos same] at none
      cases none
    · rw [if_neg same] at none ⊢
      exact fades.missing d none
  found d other found := by
    rw [find] at found
    by_cases same : d = c
    · rw [if_pos same] at found
      obtain rfl := Option.some.inj found
      exact ⟨seenNow, by rw [view, if_pos same], same ▸ faded⟩
    · rw [if_neg same] at found
      rw [view, if_neg same, others d same]
      exact fades.found d other found
  listen := listen
  epoll := epoll

theorem Fades.share (fades : Fades spare server image) (found : server.find c = some connection)
    (alive : 0 < connection.useCount) : Fades spare (server.share c) (image.share c) := by
  have seenFound := fades.same found alive
  refine fades.replace (c := c)
    (fun d => (share_find server c d).trans (lookup_changed found _ d))
    (fun d => (share_find image c d).trans (lookup_changed seenFound _ d))
    ⟨Nat.add_right_comm .., rfl, rfl, fun _ => (more_share ..).symm⟩ (fun _ _ => rfl) fades.listen
    fades.epoll

/-- One owner less in both states. -/
theorem Fades.release (fades : Fades spare server image) (found : server.find c = some connection)
    (alive : 0 < connection.useCount) : Fades spare (server.release c) (image.release c) := by
  have seenFound := fades.same found alive
  obtain ⟨-, listen, -, epoll⟩ := release_members server c found
  obtain ⟨-, seenListen, -, seenEpoll⟩ := release_members image c seenFound
  refine fades.replace (c := c)
    (fun d => (release_find server c d).trans (lookup_changed found _ d))
    (fun d => (release_find image c d).trans (lookup_changed seenFound _ d))
    ⟨?_, rfl, rfl, fun shared => ?_⟩ (fun _ _ => rfl) ?_ fun l => ?_
  · show connection.useCount + spare c - 1 = connection.useCount - 1 + spare c
    omega
  · have shared : 0 < connection.useCount - 1 := shared
    exact drop_more (by omega) _
  · rw [listen, seenListen, fades.listen]
  · rw [epoll, seenEpoll]
    by_cases last : connection.useCount = 1
    · rw [if_pos last]
      split
      · exact within_set (fades.epoll l) _ none
      · exact within_close (fades.epoll l) _
    · have severalToo : (connection.more (spare c)).useCount ≠ 1 := by
        show connection.useCount + spare c ≠ 1
        omega
      rw [if_neg last, if_neg severalToo]
      exact fades.epoll l

/-- One owner less in the first state only. -/
theorem Fades.lose (fades : Fades spare server image) (found : server.find c = some connection)
    (alive : 0 < connection.useCount) :
    Fades (Function.update spare c (spare c + 1)) (server.release c) image := by
  have seenFound := fades.same found alive
  obtain ⟨-, listen, -, epoll⟩ := release_members server c found
  have faded : Faded (Function.update spare c (spare c + 1) c) connection.drop
      (connection.more (spare c)) := by
    rw [Function.update_self]
    refine ⟨?_, rfl, rfl, fun shared => ?_⟩
    · show connection.useCount + spare c = connection.useCount - 1 + (spare c + 1)
      omega
    · have shared : 0 < connection.useCount - 1 := shared
      exact more_drop (by omega) _
  refine fades.replace (fun d => (release_find server c d).trans (lookup_changed found _ d))
    (fun d => ?_) faded (fun d other => Function.update_of_ne other ..) (listen ▸ fades.listen)
    fun l => ?_
  · by_cases same : d = c
    · rw [if_pos same, same, seenFound]
    · rw [if_neg same]
  · rw [epoll]
    split
    · exact within_close (fades.epoll l) _
    · exact fades.epoll l

/-- The first state holds less in its interest lists. -/
theorem Fades.fewer (fades : Fades spare server image) (find : ∀ d, after.find d = server.find d)
    (listen : after.listen_channel_ = server.listen_channel_)
    (epoll : ∀ l, (after.epoll l).Within (server.epoll l)) : Fades spare after image where
  missing d none := fades.missing d ((find d).symm.trans none)
  found d connection found := fades.found d connection ((find d).symm.trans found)
  listen := fades.listen.trans listen.symm
  epoll l fd entry registered := fades.epoll l fd entry (epoll l fd entry registered)

/-! ### What the server does in both -/

/-- What one state can report, the other can. -/
theorem Fades.reports (fades : Fades spare server image) {l : LoopId subLoops} {ch : ChannelId}
    (reported : server.reports l ch = true) : image.reports l ch = true := by
  have registered {fd : Nat} {ch : ChannelId}
      (here : ((server.epoll l) fd).map Prod.snd = some ch) :
      ((image.epoll l) fd).map Prod.snd = some ch := by
    obtain ⟨entry, held, isPointer⟩ := Option.map_eq_some_iff.mp here
    rw [fades.epoll l fd entry held, Option.map_some, isPointer]
  cases ch with
  | listen =>
    have here : _ = _ := of_decide_eq_true reported
    exact decide_eq_true (fades.listen ▸ registered here)
  | connection c =>
    unfold TcpServer.reports at reported ⊢
    dsimp only at reported ⊢
    cases live : server.live c with
    | none =>
      rw [live] at reported
      cases reported
    | some connection =>
      rw [live] at reported
      obtain ⟨found, alive⟩ := live_eq_some.mp live
      have liveToo : image.live c = some (connection.more (spare c)) :=
        live_eq_some.mpr ⟨fades.same found alive, Nat.add_pos_left alive _⟩
      rw [liveToo]
      exact decide_eq_true (registered (of_decide_eq_true reported))

theorem Fades.setRevents (fades : Fades spare server image) (active : List ChannelId)
    (mask : ChannelId → Events) :
    Fades spare (server.setRevents active mask) (image.setRevents active mask) where
  missing d none := by
    rw [setRevents_find, Option.map_eq_none_iff] at none ⊢
    exact fades.missing d none
  found d now found := by
    rw [setRevents_find] at found
    obtain ⟨connection, before, rfl⟩ := Option.map_eq_some_iff.mp found
    obtain ⟨seen, seenFound, faded⟩ := fades.found d connection before
    refine ⟨_, (setRevents_find image d active mask).trans (by rw [seenFound]; rfl), ?_⟩
    split
    · exact ⟨faded.useCount, faded.loop, faded.fd, fun alive => by rw [faded.alive alive]; rfl⟩
    · exact faded
  listen := by
    unfold TcpServer.setRevents
    dsimp only
    rw [fades.listen]
  epoll := fades.epoll

/-- A statement of a connection that has an owner in the first state. -/
theorem Fades.commit (fades : Fades spare server image) (wired : Wired image)
    {owners : ConnectionId → Nat} (owned : Owned image owners) {body : Statement} {io : IoResult}
    {outcome : Outcome (LoopId subLoops)} (found : server.find c = some connection)
    (alive : 0 < connection.useCount) (run : connection.execute body io = some outcome) :
    Fades spare (server.commit c outcome) (image.commit c (outcome.more (spare c))) := by
  have seenFound := fades.same found alive
  have keeps := (execute_cases run).keeps
  have runToo : (connection.more (spare c)).execute body io = some (outcome.more (spare c)) := by
    rw [← execute_more, run, Option.map_some]
  have seenAlive : 0 < (connection.more (spare c)).useCount := Nat.add_pos_left alive _
  refine fades.replace (commit_find server c · found outcome)
    (commit_find image c · seenFound (outcome.more (spare c)))
    ⟨rfl, rfl, rfl, fun _ => rfl⟩ (fun _ _ => rfl) fades.listen fun l => ?_
  show Interest.Within (Function.update server.epoll outcome.connection.loop_ _ l)
    (Function.update image.epoll outcome.connection.loop_ _ l)
  by_cases here : l = outcome.connection.loop_
  · rw [here, Function.update_self, Function.update_self]
    refine within_update (fades.epoll _) _ _ fun events isAdd => ?_
    -- only a channel that is not registered is added
    rcases channelCall_cases (wired.indexed c _ seenFound)
        (execute_cases runToo).channelCall with
      ⟨none, -⟩ | ⟨-, fresh, -⟩ | ⟨mod, -⟩ | ⟨asked, del, -⟩
    · cases isAdd.symm.trans none
    · rw [keeps.fd]
      exact wired.free owned seenFound seenAlive fresh _
    · cases isAdd.symm.trans mod
    · cases isAdd.symm.trans del
  · rw [Function.update_of_ne here, Function.update_of_ne here]
    exact fades.epoll l

end Fades

/-! ### Steps that leave the maps alone -/

/-- The statements that touch neither the map nor the listening socket. -/
def ServerCode.spares : ServerCode → Bool
  | .connection _ _ => true
  | .removeConnection _ => true
  | .release _ => true
  | _ => false

/-- Comparable states whose maps are these. -/
structure Shadows (spare : ConnectionId → Nat) (entries seenEntries : Nat → Option ConnectionId)
    (server image : TcpServer subLoops) : Prop extends Fades spare server image where
  entries : server.connections_ = entries
  seenEntries : image.connections_ = seenEntries

section Shadows

variable {spare : ConnectionId → Nat} {entries seenEntries : Nat → Option ConnectionId}
  {server image : TcpServer subLoops} {c : ConnectionId}
  {connection : TcpConnection (LoopId subLoops)}

theorem Shadows.share (shadows : Shadows spare entries seenEntries server image)
    (found : server.find c = some connection) (alive : 0 < connection.useCount) :
    Shadows spare entries seenEntries (server.share c) (image.share c) :=
  ⟨shadows.toFades.share found alive, shadows.entries, shadows.seenEntries⟩

theorem Shadows.release (shadows : Shadows spare entries seenEntries server image)
    (found : server.find c = some connection) (alive : 0 < connection.useCount) :
    Shadows spare entries seenEntries (server.release c) (image.release c) :=
  ⟨shadows.toFades.release found alive,
    (release_members server c found).1.trans shadows.entries,
    (release_members image c (shadows.toFades.same found alive)).1.trans shadows.seenEntries⟩

/-- A statement executed in the first state is executed in the other, and leaves the same. -/
theorem Shadows.execute (shadows : Shadows spare entries seenEntries server image)
    (wired : Wired image) {owners : ConnectionId → Nat} (owned : Owned image owners)
    {body : ServerCode} {input : Input subLoops} {world : TcpServer subLoops}
    {calls : List (Call (LoopId subLoops) Functor ServerCode)} (spares : body.spares = true)
    (held : ∀ c, body = .release c → ∃ connection, server.find c = some connection ∧
      0 < connection.useCount)
    (executed : TcpServer.execute body input server = some (world, calls)) :
    ∃ seen, TcpServer.execute body input image = some (seen, calls) ∧
      Shadows spare entries seenEntries world seen := by
  have liveToo {c : ConnectionId} {connection : TcpConnection (LoopId subLoops)}
      (found : server.find c = some connection) (alive : 0 < connection.useCount) :
      image.live c = some (connection.more (spare c)) :=
    live_eq_some.mpr ⟨shadows.toFades.same found alive, Nat.add_pos_left alive _⟩
  cases body with
  | connection c body =>
    obtain ⟨connection, live, mapped⟩ := Option.bind_eq_some_iff.mp executed
    obtain ⟨outcome, run, same⟩ := Option.map_eq_some_iff.mp mapped
    obtain ⟨found, alive⟩ := live_eq_some.mp live
    cases same
    refine ⟨image.commit c (outcome.more (spare c)), ?_,
      shadows.toFades.commit wired owned found alive run, shadows.entries, shadows.seenEntries⟩
    rw [TcpServer.execute, liveToo found alive, Option.bind_some, ← execute_more, run]
    rfl
  | removeConnection c =>
    obtain ⟨connection, live, same⟩ := Option.map_eq_some_iff.mp executed
    obtain ⟨found, alive⟩ := live_eq_some.mp live
    cases same
    refine ⟨image.share c, ?_, shadows.share found alive⟩
    rw [TcpServer.execute, liveToo found alive]
    rfl
  | release c =>
    obtain ⟨connection, found, alive⟩ := held c rfl
    cases executed
    exact ⟨image.release c, rfl, shadows.release found alive⟩
  | _ => cases spares

/-- A call a user thread begins in the first state, another can begin in the other. -/
theorem Shadows.begin {Other : Type} (shadows : Shadows spare entries seenEntries server image)
    {thread : Thread (LoopId subLoops) User} (other : Other) {input : Input subLoops}
    {world : TcpServer subLoops} {calls : List (Call (LoopId subLoops) Functor ServerCode)}
    (begun : TcpServer.begin thread input server = some (world, calls)) :
    ∃ seen, TcpServer.begin (.user other) input image = some (seen, calls) ∧
      Shadows spare entries seenEntries world seen := by
  have viewed {c : ConnectionId} {result : TcpServer subLoops ×
      List (Call (LoopId subLoops) Functor ServerCode)}
      {calls : List (Call (LoopId subLoops) Functor ServerCode)}
      (begun : (server.live c).map (fun _ => (server.share c, calls)) = some result) :
      ∃ seen, (image.live c).map (fun _ => (image.share c, calls)) = some (seen, result.2) ∧
        Shadows spare entries seenEntries result.1 seen := by
    obtain ⟨connection, live, rfl⟩ := Option.map_eq_some_iff.mp begun
    obtain ⟨found, alive⟩ := live_eq_some.mp live
    have liveToo : image.live c = some (connection.more (spare c)) :=
      live_eq_some.mpr ⟨shadows.toFades.same found alive, Nat.add_pos_left alive _⟩
    exact ⟨image.share c, by rw [liveToo]; rfl, shadows.share found alive⟩
  unfold TcpServer.begin at begun
  split at begun
  · exact viewed begun
  · exact viewed begun
  · exact viewed begun
  · exact viewed begun
  · cases begun
    exact ⟨image, rfl, shadows⟩
  · cases begun

theorem Shadows.poll (shadows : Shadows spare entries seenEntries server image)
    {l : LoopId subLoops} {active : List ChannelId} {input : Input subLoops}
    {world : TcpServer subLoops} (polled : TcpServer.poll l active input server = some world) :
    ∃ seen, TcpServer.poll l active input image = some seen ∧
      Shadows spare entries seenEntries world seen := by
  obtain ⟨mask, rfl, reported, rfl⟩ := serverPoll_cases polled
  refine ⟨image.setRevents active mask, ?_, shadows.toFades.setRevents active mask,
    shadows.entries, shadows.seenEntries⟩
  exact if_pos (List.all_eq_true.mpr fun ch member => shadows.toFades.reports (reported ch member))

end Shadows

end MultiReactor
