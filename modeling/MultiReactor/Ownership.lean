/-
This file proves that the strong counts are right: in every reachable state the
count of a connection is the number of functors, temporaries and locals that
hold a shared_ptr to it, plus one if `connections_` does. From this follows that
the open fds and the live connections agree, so no two live connections share
an fd, and the map, although it is keyed by the bare fd number and erased
asynchronously, never mistakes one connection for another.
-/

import MultiReactor.ServerSteps

namespace MultiReactor

open Transition

variable {subLoops : Nat} {User : Type}

/-! ### The ledger -/

/-- The items of the server's process. -/
abbrev ServerItem := Item Functor ChannelId ServerCode

/-- Whether an item holds a shared_ptr to a connection. -/
def owner (c : ConnectionId) : ServerItem → Bool
  | .queued cb => c = cb.connection
  | .spent cb => c = cb.connection
  | .code (.release d) => c = d
  | _ => false

@[simp] theorem owner_queued (c : ConnectionId) (cb : Functor) :
    owner c (.queued cb) = true ↔ c = cb.connection :=
  decide_eq_true_iff

@[simp] theorem owner_spent (c : ConnectionId) (cb : Functor) :
    owner c (.spent cb) = true ↔ c = cb.connection :=
  decide_eq_true_iff

@[simp] theorem owner_release (c d : ConnectionId) :
    owner c (.code (.release d)) = true ↔ c = d :=
  decide_eq_true_iff

@[simp] theorem owner_statement (c d : ConnectionId) (body : Statement) :
    owner c (.code (.connection d body)) = false := rfl

@[simp] theorem owner_handleAccept (c : ConnectionId) :
    owner c (.code .handleAccept) = false := rfl

@[simp] theorem owner_listenCallback (c : ConnectionId) :
    owner c (.code .listenCallback) = false := rfl

@[simp] theorem owner_removeConnection (c d : ConnectionId) :
    owner c (.code (.removeConnection d)) = false := rfl

@[simp] theorem owner_removeConnectionInLoop (c d : ConnectionId) :
    owner c (.code (.removeConnectionInLoop d)) = false := rfl

@[simp] theorem owner_ready (c : ConnectionId) (ch : ChannelId) :
    owner c (.ready ch) = false := rfl

/-- The shared_ptr an entry of the map holds. -/
def TcpServer.stored (server : TcpServer subLoops) (c : ConnectionId)
    (connection : TcpConnection (LoopId subLoops)) : Nat :=
  if server.connections_ connection.fd_ = some c then 1 else 0

theorem stored_eq {server : TcpServer subLoops} {c : ConnectionId}
    {connection : TcpConnection (LoopId subLoops)} {entry : Option ConnectionId}
    (found : server.connections_ connection.fd_ = entry) :
    server.stored c connection = if entry = some c then 1 else 0 := by
  rw [TcpServer.stored, found]

theorem stored_of_missing {server : TcpServer subLoops} {c : ConnectionId}
    {connection : TcpConnection (LoopId subLoops)}
    (missing : server.connections_ connection.fd_ = none) : server.stored c connection = 0 :=
  stored_eq missing

/-- The counts, the map, and the open fds agree. `owners` counts the shared_ptrs outside the
map. -/
structure Owned (server : TcpServer subLoops) (owners : ConnectionId → Nat) : Prop where
  counted : ∀ c connection, server.find c = some connection →
    connection.useCount = owners c + server.stored c connection
  unborn : ∀ c, server.find c = none → owners c = 0
  entry : ∀ fd c, server.connections_ fd = some c →
    ∃ connection, server.find c = some connection ∧ connection.fd_ = fd
  opened : ∀ c connection, server.find c = some connection → 0 < connection.useCount →
    server.openFds connection.fd_ = true
  distinct : ∀ c d first second, server.find c = some first →
    server.find d = some second → 0 < first.useCount → 0 < second.useCount →
    first.fd_ = second.fd_ → c = d
  listening : server.openFds server.listen_channel_.fd_ = true
  separate : ∀ c connection, server.find c = some connection → 0 < connection.useCount →
    connection.fd_ ≠ server.listen_channel_.fd_
  destroyed : ∀ c connection, server.find c = some connection →
    connection.history.count .fdClosed = if 0 < connection.useCount then 0 else 1

/-- The connection of an entry of the map is alive. -/
theorem Owned.entry_alive {server : TcpServer subLoops} {owners : ConnectionId → Nat}
    (owned : Owned server owners) {fd : Nat} {c : ConnectionId}
    (entry : server.connections_ fd = some c) :
    ∃ connection, server.find c = some connection ∧ connection.fd_ = fd ∧
      0 < connection.useCount := by
  obtain ⟨connection, found, same⟩ := owned.entry fd c entry
  refine ⟨connection, found, same, ?_⟩
  rw [owned.counted c connection found, TcpServer.stored, same, if_pos entry]
  omega

/-- A connection that has an owner is alive. -/
theorem Owned.owner_alive {server : TcpServer subLoops} {owners : ConnectionId → Nat}
    (owned : Owned server owners) {c : ConnectionId} (held : 0 < owners c) :
    ∃ connection, server.find c = some connection ∧ 0 < connection.useCount := by
  cases found : server.find c with
  | none => exact absurd (owned.unborn c found) held.ne'
  | some connection =>
    refine ⟨connection, rfl, ?_⟩
    rw [owned.counted c connection found]
    omega

/-- A new fd has no entry in the map. -/
theorem Owned.missing_of_fresh {server : TcpServer subLoops} {owners : ConnectionId → Nat}
    (owned : Owned server owners) {fd : Nat} (fresh : server.openFds fd = false) :
    server.connections_ fd = none := by
  cases entry : server.connections_ fd with
  | none => rfl
  | some old =>
    obtain ⟨connection, found, rfl, live⟩ := owned.entry_alive entry
    have opened := owned.opened old connection found live
    rw [fresh] at opened
    cases opened

/-- The entry under the fd of a live connection is its own. -/
theorem Owned.entry_self {server : TcpServer subLoops} {owners : ConnectionId → Nat}
    (owned : Owned server owners) {c d : ConnectionId}
    {connection : TcpConnection (LoopId subLoops)} (found : server.find c = some connection)
    (alive : 0 < connection.useCount) (entry : server.connections_ connection.fd_ = some d) :
    d = c := by
  obtain ⟨other, otherFound, sameFd, otherLive⟩ := owned.entry_alive entry
  exact owned.distinct d c other connection otherFound found otherLive alive sameFd

/-! ### What keeps the ledger -/

/-- The ledger depends on the owners only through their counts. -/
theorem Owned.same {server : TcpServer subLoops} {owners left : ConnectionId → Nat}
    (owned : Owned server owners) (count : ∀ d, left d = owners d) : Owned server left := by
  rwa [funext count]

/-- The members of a connection the ledger speaks about, up to the owners gained. -/
structure Gains (before after : TcpConnection (LoopId subLoops)) (gain : Nat) : Prop where
  fd : after.fd_ = before.fd_
  useCount : after.useCount = before.useCount + gain
  fdClosed : after.history.count .fdClosed = before.history.count .fdClosed

/-- A change of connections that leaves the map and the fds alone, where only live ones gain
owners. -/
theorem Owned.change {server after : TcpServer subLoops} {owners left gain : ConnectionId → Nat}
    (change : ConnectionId → TcpConnection (LoopId subLoops) → TcpConnection (LoopId subLoops))
    (owned : Owned server owners) (find : ∀ d, after.find d = (server.find d).map (change d))
    (gains : ∀ d old, server.find d = some old → Gains old (change d old) (gain d) ∧
      (0 < gain d → 0 < old.useCount))
    (unborn : ∀ d, server.find d = none → gain d = 0)
    (map : after.connections_ = server.connections_) (fds : after.openFds = server.openFds)
    (listen : after.listen_channel_.fd_ = server.listen_channel_.fd_)
    (count : ∀ d, left d = owners d + gain d) : Owned after left := by
  -- every connection afterwards is one from before, with its owners gained
  have origin (d : ConnectionId) (now : TcpConnection (LoopId subLoops))
      (member : after.find d = some now) :
      ∃ old, server.find d = some old ∧ Gains old now (gain d) ∧
        (0 < now.useCount ↔ 0 < old.useCount) := by
    rw [find] at member
    obtain ⟨old, found, rfl⟩ := Option.map_eq_some_iff.mp member
    obtain ⟨gained, lives⟩ := gains d old found
    refine ⟨old, found, gained, ?_⟩
    rw [gained.useCount]
    omega
  refine ⟨?_, ?_, ?_, ?_, ?_, ?_, ?_, ?_⟩
  · intro d connection member
    obtain ⟨old, wasThere, gained, -⟩ := origin d connection member
    rw [gained.useCount, owned.counted d old wasThere, count, TcpServer.stored, TcpServer.stored,
      map, gained.fd]
    omega
  · intro d missing
    rw [find, Option.map_eq_none_iff] at missing
    rw [count, owned.unborn d missing, unborn d missing]
  · intro fd d entry
    rw [map] at entry
    obtain ⟨old, found, same⟩ := owned.entry fd d entry
    exact ⟨change d old, by rw [find, found]; rfl, (gains d old found).1.fd.trans same⟩
  · intro d connection member live
    obtain ⟨old, wasThere, gained, lives⟩ := origin d connection member
    rw [fds, gained.fd]
    exact owned.opened d old wasThere (lives.mp live)
  · intro d e first second firstFound secondFound firstLive secondLive same
    obtain ⟨oldFirst, firstThere, firstGained, firstLives⟩ := origin d first firstFound
    obtain ⟨oldSecond, secondThere, secondGained, secondLives⟩ := origin e second secondFound
    refine owned.distinct d e oldFirst oldSecond firstThere secondThere (firstLives.mp firstLive)
      (secondLives.mp secondLive) ?_
    rw [← firstGained.fd, ← secondGained.fd, same]
  · rw [fds, listen]
    exact owned.listening
  · intro d connection member live
    obtain ⟨old, wasThere, gained, lives⟩ := origin d connection member
    rw [listen, gained.fd]
    exact owned.separate d old wasThere (lives.mp live)
  · intro d connection member
    obtain ⟨old, wasThere, gained, lives⟩ := origin d connection member
    rw [gained.fdClosed, owned.destroyed d old wasThere]
    simp only [lives]

/-- A change of one live connection that leaves the map and the fds alone. -/
theorem Owned.gain {server after : TcpServer subLoops} {owners left : ConnectionId → Nat}
    {c : ConnectionId} {gain : Nat} {before now : TcpConnection (LoopId subLoops)}
    (owned : Owned server owners) (found : server.find c = some before)
    (alive : 0 < before.useCount) (gains : Gains before now gain)
    (find : ∀ d, after.find d = if d = c then some now else server.find d)
    (map : after.connections_ = server.connections_) (fds : after.openFds = server.openFds)
    (listen : after.listen_channel_.fd_ = server.listen_channel_.fd_)
    (count : ∀ d, left d = owners d + if d = c then gain else 0) : Owned after left := by
  refine owned.change (fun d old => if d = c then now else old) (fun d => ?_)
    (fun d old member => ?_) (fun d missing => ?_) map fds listen count
  · rw [find]
    by_cases same : d = c
    · simp [same, found]
    · simp [same]
  · by_cases same : d = c
    · obtain rfl := Option.some.inj ((same ▸ found : server.find d = some before).symm.trans member)
      simp only [if_pos same]
      exact ⟨gains, fun _ => alive⟩
    · simp only [if_neg same]
      exact ⟨⟨rfl, rfl, rfl⟩, nofun⟩
  · by_cases same : d = c
    · rw [same, found] at missing
      cases missing
    · exact if_neg same

theorem gains_share (connection : TcpConnection (LoopId subLoops)) :
    Gains connection connection.share 1 := ⟨rfl, rfl, rfl⟩

/-- Sharing a live connection keeps the ledger, if the new owner is counted. -/
theorem Owned.share {server : TcpServer subLoops} {owners left : ConnectionId → Nat}
    {c : ConnectionId} {connection : TcpConnection (LoopId subLoops)} (owned : Owned server owners)
    (found : server.find c = some connection) (alive : 0 < connection.useCount)
    (count : ∀ d, left d = owners d + if d = c then 1 else 0) : Owned (server.share c) left := by
  refine owned.gain found alive (gains_share connection) (fun d => ?_) rfl rfl rfl count
  rw [share_find]
  by_cases same : d = c
  · rw [if_pos same, if_pos same, same, found]
    rfl
  · rw [if_neg same, if_neg same]

/-- What `epoll_wait` reports does not touch the ledger. -/
theorem Owned.setRevents {server : TcpServer subLoops} {owners left : ConnectionId → Nat}
    (owned : Owned server owners) (active : List ChannelId) (mask : ChannelId → Events)
    (count : ∀ d, left d = owners d) : Owned (server.setRevents active mask) left := by
  refine owned.change _ (setRevents_find server · active mask)
    (fun d old _ => ⟨?_, fun gained => absurd gained (Nat.lt_irrefl 0)⟩) (fun _ _ => rfl) rfl rfl
    ?_ count
  · split <;> exact ⟨rfl, rfl, rfl⟩
  · unfold TcpServer.setRevents
    dsimp only
    split <;> rfl

/-- An owner that is destroyed leaves the ledger; the last one takes the fd with it. -/
theorem Owned.release {server : TcpServer subLoops} {owners left : ConnectionId → Nat}
    {c : ConnectionId} (owned : Owned server owners)
    (count : ∀ d, owners d = left d + if d = c then 1 else 0) : Owned (server.release c) left := by
  have held : owners c = left c + 1 := by rw [count, if_pos rfl]
  obtain ⟨connection, found, alive⟩ := owned.owner_alive (c := c) (by omega)
  obtain ⟨map, listen, fds, -⟩ := release_members server c found
  have counted := owned.counted c connection found
  have lookup (d : ConnectionId) :
      (server.release c).find d = if d = c then some connection.drop else server.find d := by
    rw [release_find]
    by_cases same : d = c
    · rw [if_pos same, if_pos same, same, found]
      rfl
    · rw [if_neg same, if_neg same]
  -- a connection that lives afterwards lived before, and its fd is not the one closed
  have origin (d : ConnectionId) (after : TcpConnection (LoopId subLoops))
      (member : (server.release c).find d = some after) (live : 0 < after.useCount) :
      ∃ old, server.find d = some old ∧ 0 < old.useCount ∧ old.fd_ = after.fd_ ∧
        (connection.useCount = 1 → after.fd_ ≠ connection.fd_) := by
    rw [lookup] at member
    by_cases same : d = c
    · rw [if_pos same] at member
      obtain rfl := Option.some.inj member
      have remains : 0 < connection.useCount - 1 := live
      exact ⟨connection, same ▸ found, alive, rfl, fun last => by omega⟩
    · rw [if_neg same] at member
      exact ⟨after, member, live, rfl, fun _ shared =>
        same (owned.distinct d c after connection member found live alive shared)⟩
  refine ⟨?_, ?_, ?_, ?_, ?_, ?_, ?_, ?_⟩
  · intro d after member
    rw [TcpServer.stored, map]
    rw [lookup] at member
    by_cases same : d = c
    · rw [if_pos same] at member
      obtain rfl := Option.some.inj member
      subst same
      show connection.useCount - 1 =
        left d + if server.connections_ connection.fd_ = some d then 1 else 0
      rw [counted, held, TcpServer.stored]
      omega
    · rw [if_neg same] at member
      rw [owned.counted d after member, count, if_neg same, TcpServer.stored]
      omega
  · intro d missing
    rw [lookup] at missing
    by_cases same : d = c
    · rw [if_pos same] at missing
      cases missing
    · rw [if_neg same] at missing
      have none := owned.unborn d missing
      rw [count, if_neg same] at none
      omega
  · intro fd d entry
    rw [map] at entry
    obtain ⟨stored, member, same⟩ := owned.entry fd d entry
    by_cases isReleased : d = c
    · subst isReleased
      obtain rfl := Option.some.inj (found.symm.trans member)
      exact ⟨connection.drop, by rw [lookup, if_pos rfl], same⟩
    · exact ⟨stored, by rw [lookup, if_neg isReleased, member], same⟩
  · intro d after member live
    obtain ⟨old, wasThere, lived, fd, other⟩ := origin d after member live
    have opened := owned.opened d old wasThere lived
    rw [fds]
    split
    · rename_i last
      rw [Function.update_of_ne (other last), ← fd]
      exact opened
    · rw [← fd]
      exact opened
  · intro d e first second firstFound secondFound firstLive secondLive same
    obtain ⟨oldFirst, firstThere, firstLived, firstFd, -⟩ := origin d first firstFound firstLive
    obtain ⟨oldSecond, secondThere, secondLived, secondFd, -⟩ :=
      origin e second secondFound secondLive
    exact owned.distinct d e oldFirst oldSecond firstThere secondThere firstLived secondLived
      (by rw [firstFd, secondFd, same])
  · rw [listen, fds]
    split
    · rw [Function.update_of_ne (owned.separate c connection found alive).symm]
      exact owned.listening
    · exact owned.listening
  · intro d after member live
    obtain ⟨old, wasThere, lived, fd, -⟩ := origin d after member live
    rw [listen, ← fd]
    exact owned.separate d old wasThere lived
  · intro d after member
    rw [lookup] at member
    by_cases same : d = c
    · rw [if_pos same] at member
      obtain rfl := Option.some.inj member
      have before := owned.destroyed c connection found
      rw [if_pos alive] at before
      unfold TcpConnection.drop
      dsimp only
      by_cases last : connection.useCount = 1
      · simp [last, before]
      · rw [if_neg last, if_pos (by omega), before]
    · rw [if_neg same] at member
      exact owned.destroyed d after member

/-- An entry of the map is erased while another owner holds its connection, and a functor becomes
an owner. -/
theorem Owned.erase {server : TcpServer subLoops} {owners left : ConnectionId → Nat}
    {c : ConnectionId} {fd : Nat} (owned : Owned server owners)
    (entry : server.connections_ fd = some c)
    (count : ∀ d, left d = owners d + if d = c then 1 else 0) :
    Owned (server.erase fd) left where
  counted d connection found := by
    have counted := owned.counted d connection found
    rw [count]
    by_cases isFd : connection.fd_ = fd
    · have before : server.stored d connection = _ := stored_eq (isFd ▸ entry)
      have now : (server.erase fd).stored d connection = if none = some d then 1 else 0 :=
        stored_eq (by rw [isFd]; exact Function.update_self ..)
      by_cases same : d = c
      · simp_all
      · simp_all [Ne.symm same]
    · have now : (server.erase fd).stored d connection = server.stored d connection :=
        stored_eq (Function.update_of_ne isFd ..)
      by_cases same : d = c
      · subst same
        obtain ⟨stored, member, storedFd⟩ := owned.entry fd d entry
        obtain rfl := Option.some.inj (found.symm.trans member)
        exact absurd storedFd isFd
      · rw [now, if_neg same, counted, Nat.add_zero]
  unborn d missing := by
    have alive := owned.entry fd c entry
    rw [count, owned.unborn d missing, if_neg]
    rintro rfl
    obtain ⟨stored, member, -⟩ := alive
    cases member.symm.trans missing
  entry other d member := by
    rw [TcpServer.erase] at member
    dsimp only at member
    by_cases isFd : other = fd
    · subst isFd
      rw [Function.update_self] at member
      cases member
    · rw [Function.update_of_ne isFd] at member
      exact owned.entry other d member
  opened := owned.opened
  distinct := owned.distinct
  listening := owned.listening
  separate := owned.separate
  destroyed := owned.destroyed

/-- A new connection enters the ledger with the local `conn` and the map as its owners. -/
theorem Owned.enroll {server : TcpServer subLoops} {owners left : ConnectionId → Nat}
    {subLoop : LoopId subLoops} {fd : Nat} (owned : Owned server owners)
    (fresh : server.openFds fd = false)
    (count : ∀ d, left d = owners d + if d = server.connections.length then 1 else 0) :
    Owned (server.enroll subLoop fd) left := by
  have unborn : server.find server.connections.length = none :=
    List.getElem?_eq_none (Nat.le_refl _)
  have old (d : ConnectionId) (connection : TcpConnection (LoopId subLoops))
      (found : server.find d = some connection) : d ≠ server.connections.length := by
    rintro rfl
    cases unborn.symm.trans found
  have notFresh {d : ConnectionId} {connection : TcpConnection (LoopId subLoops)}
      (found : server.find d = some connection) (live : 0 < connection.useCount) :
      connection.fd_ ≠ fd := by
    rintro rfl
    have opened := owned.opened d connection found live
    rw [fresh] at opened
    cases opened
  have origin (d : ConnectionId) (connection : TcpConnection (LoopId subLoops))
      (member : (server.enroll subLoop fd).find d = some connection) :
      (d = server.connections.length ∧ connection = (TcpConnection.accepted subLoop fd).share) ∨
        (d ≠ server.connections.length ∧ server.find d = some connection) := by
    rw [enroll_find] at member
    by_cases same : d = server.connections.length
    · rw [if_pos same] at member
      exact .inl ⟨same, (Option.some.inj member).symm⟩
    · rw [if_neg same] at member
      exact .inr ⟨same, member⟩
  refine ⟨?_, ?_, ?_, ?_, ?_, ?_, ?_, ?_⟩
  · intro d connection member
    rcases origin d connection member with ⟨rfl, rfl⟩ | ⟨isOld, found⟩
    · rw [count, owned.unborn _ unborn, if_pos rfl]
      simp [TcpServer.stored, TcpServer.enroll, TcpConnection.accepted, TcpConnection.new,
        TcpConnection.share]
    · rw [owned.counted d connection found, count, if_neg isOld, Nat.add_zero]
      by_cases isFd : connection.fd_ = fd
      · have dead : ¬ 0 < connection.useCount := fun live => notFresh found live isFd
        have counted := owned.counted d connection found
        have now : (server.enroll subLoop fd).stored d connection =
            if some server.connections.length = some d then 1 else 0 :=
          stored_eq (by rw [isFd]; exact Function.update_self ..)
        rw [now, if_neg (by simpa using isOld.symm)]
        omega
      · have now : (server.enroll subLoop fd).stored d connection = server.stored d connection :=
          stored_eq (Function.update_of_ne isFd ..)
        rw [now]
  · intro d missing
    rw [enroll_find] at missing
    by_cases same : d = server.connections.length
    · rw [if_pos same] at missing
      cases missing
    · rw [if_neg same] at missing
      rw [count, if_neg same, owned.unborn d missing]
  · intro key d entry
    rw [TcpServer.enroll] at entry
    dsimp only at entry
    by_cases isFd : key = fd
    · subst isFd
      rw [Function.update_self] at entry
      obtain rfl := Option.some.inj entry
      exact ⟨_, by rw [enroll_find, if_pos rfl], rfl⟩
    · rw [Function.update_of_ne isFd] at entry
      obtain ⟨connection, found, same⟩ := owned.entry key d entry
      exact ⟨connection, by rw [enroll_find, if_neg (old d connection found), found], same⟩
  · intro d connection member live
    rw [TcpServer.enroll]
    dsimp only
    rcases origin d connection member with ⟨rfl, rfl⟩ | ⟨isOld, found⟩
    · exact Function.update_self ..
    · rw [Function.update_of_ne (notFresh found live)]
      exact owned.opened d connection found live
  · intro d e first second firstFound secondFound firstLive secondLive same
    rcases origin d first firstFound with ⟨rfl, rfl⟩ | ⟨firstOld, firstThere⟩
    · rcases origin e second secondFound with ⟨rfl, rfl⟩ | ⟨secondOld, secondThere⟩
      · rfl
      · exact absurd same.symm (notFresh secondThere secondLive)
    · rcases origin e second secondFound with ⟨rfl, rfl⟩ | ⟨secondOld, secondThere⟩
      · exact absurd same (notFresh firstThere firstLive)
      · exact owned.distinct d e first second firstThere secondThere firstLive secondLive same
  · rw [TcpServer.enroll]
    dsimp only
    by_cases isFd : server.listen_channel_.fd_ = fd
    · rw [isFd, Function.update_self]
    · rw [Function.update_of_ne isFd]
      exact owned.listening
  · intro d connection member live
    show connection.fd_ ≠ server.listen_channel_.fd_
    rcases origin d connection member with ⟨rfl, rfl⟩ | ⟨isOld, found⟩
    · intro same
      have opened := owned.listening
      rw [← same] at opened
      cases fresh.symm.trans opened
    · exact owned.separate d connection found live
  · intro d connection member
    rcases origin d connection member with ⟨rfl, rfl⟩ | ⟨isOld, found⟩
    · rfl
    · exact owned.destroyed d connection found

/-! ### What a step of the server does -/

/-- The shared_ptrs outside the map. -/
def owners [Fintype User] (machine : ServerMachine subLoops User) (c : ConnectionId) : Nat :=
  tally (owner c) machine

/-- The world after a step of the server, the items it uses up and the items it leaves, when the
ledger is right: what holds a shared_ptr finds its connection alive, a new connection finds no
entry under its fd, and only a connection's own entry is erased. -/
inductive ServerEffect (machine : ServerMachine subLoops User) :
    ServerEvent subLoops User → TcpServer subLoops → List ServerItem → List ServerItem → Prop where
  | statement (thread : Thread (LoopId subLoops) User) (input : Input subLoops)
      (c : ConnectionId) (body : Statement)
      (rest : List (Instruction (LoopId subLoops) Functor ServerCode))
      (connection : TcpConnection (LoopId subLoops)) (outcome : Outcome (LoopId subLoops))
      (top : machine.stack thread = .call (.code (.connection c body)) :: rest)
      (found : machine.world.find c = some connection) (alive : 0 < connection.useCount)
      (executes : Executes connection body input.ioResult outcome) :
      ServerEffect machine (.run thread input) (machine.world.commit c outcome)
        [.code (.connection c body)]
        (itemsOf (outcome.next.map (Next.toCall c connection.loop_)))
  | listenCallback (event : ServerEvent subLoops User) :
      ServerEffect machine event machine.world [.code .listenCallback] [.code .handleAccept]
  | listenIgnored (event : ServerEvent subLoops User) :
      ServerEffect machine event machine.world [.code .listenCallback] []
  | acceptEnds (event : ServerEvent subLoops User) :
      ServerEffect machine event machine.world [.code .handleAccept] []
  | acceptRefused (event : ServerEvent subLoops User) :
      ServerEffect machine event machine.world [.code .handleAccept] [.code .handleAccept]
  | accepted (event : ServerEvent subLoops User) (fd : Nat) (subLoop : LoopId subLoops)
      (next : Nat) (fresh : machine.world.openFds fd = false)
      (missing : machine.world.connections_ fd = none)
      (dealt : 0 < subLoops → subLoop ≠ baseLoop) :
      ServerEffect machine event
        (TcpServer.enroll { machine.world with next_ := next } subLoop fd) [.code .handleAccept]
        [.code (.connection machine.world.connections.length .connectEstablished),
          .code (.release machine.world.connections.length), .code .handleAccept]
  | removeConnection (event : ServerEvent subLoops User) (c : ConnectionId)
      (connection : TcpConnection (LoopId subLoops))
      (found : machine.world.find c = some connection) (alive : 0 < connection.useCount) :
      ServerEffect machine event (machine.world.share c) [.code (.removeConnection c)]
        [.queued (.removeConnectionInLoop c)]
  | removedAlready (event : ServerEvent subLoops User) (c : ConnectionId)
      (connection : TcpConnection (LoopId subLoops))
      (found : machine.world.find c = some connection)
      (missing : machine.world.connections_ connection.fd_ = none) :
      ServerEffect machine event machine.world [.code (.removeConnectionInLoop c)] []
  | removeConnectionInLoop (event : ServerEvent subLoops User) (c : ConnectionId)
      (connection : TcpConnection (LoopId subLoops))
      (found : machine.world.find c = some connection) (shared : 2 ≤ connection.useCount)
      (entry : machine.world.connections_ connection.fd_ = some c) :
      ServerEffect machine event (machine.world.erase connection.fd_)
        [.code (.removeConnectionInLoop c)] [.queued (.bind c .connectDestroyed)]
  | release (event : ServerEvent subLoops User) (c : ConnectionId)
      (connection : TcpConnection (LoopId subLoops))
      (found : machine.world.find c = some connection) (alive : 0 < connection.useCount) :
      ServerEffect machine event (machine.world.release c) [.code (.release c)] []
  | invoke (event : ServerEvent subLoops User) (cb : Functor) (called : machine.calls cb)
      (connection : TcpConnection (LoopId subLoops))
      (found : machine.world.find cb.connection = some connection)
      (alive : 0 < connection.useCount) :
      ServerEffect machine event machine.world [.queued cb]
        (.spent cb :: itemsOf (cb.invoke : List (Call (LoopId subLoops) Functor ServerCode)))
  | copy (event : ServerEvent subLoops User) (cb : Functor)
      (connection : TcpConnection (LoopId subLoops))
      (found : machine.world.find cb.connection = some connection)
      (alive : 0 < connection.useCount) :
      ServerEffect machine event (machine.world.share cb.connection) [.queued cb]
        [.queued cb, .spent cb]
  | destroy (event : ServerEvent subLoops User) (cb : Functor)
      (connection : TcpConnection (LoopId subLoops))
      (found : machine.world.find cb.connection = some connection)
      (alive : 0 < connection.useCount) :
      ServerEffect machine event (machine.world.release cb.connection) [.spent cb] []
  | poll (l : LoopId subLoops) (active : List (Ready ChannelId)) (mask : ChannelId → Events)
      (idle : machine.stack (.loop l) = []) (place : (machine.loop l).position = .poll)
      (distinct : (channelsOf active).Nodup)
      (reported : ∀ ch ∈ channelsOf active, machine.world.reports l ch = true) :
      ServerEffect machine (.advance l active (.revents mask))
        (machine.world.setRevents (channelsOf active) mask) [] ((channelsOf active).map .ready)
  | deliver (event : ServerEvent subLoops User) (ch : ChannelId) :
      ServerEffect machine event machine.world [.ready ch]
        (itemsOf (ch.handleEvent : List (Call (LoopId subLoops) Functor ServerCode)))
  | begin (thread : Thread (LoopId subLoops) User) (input : Input subLoops)
      (after : TcpServer subLoops) (calls : List (Call (LoopId subLoops) Functor ServerCode))
      (begun : ServerBegins machine.world thread input after calls) :
      ServerEffect machine (.begin thread input) after [] (itemsOf calls)
  | silent (event : ServerEvent subLoops User) :
      ServerEffect machine event machine.world [] []

section Step

variable [DecidableEq User] [Fintype User]

/-- What a reachable machine can do in a step, given that it is orderly and its ledger right. -/
theorem server_effect {machine after : ServerMachine subLoops User}
    {event : ServerEvent subLoops User} (owned : Owned machine.world (owners machine))
    (orderly : Orderly serverDiscipline machine)
    (step : Step (TcpServer.client subLoops User) machine event after) :
    ∃ used left, ServerEffect machine event after.world used left ∧
      ∀ kind, used.countP kind ≤ tally kind machine ∧
        tally kind after + used.countP kind = tally kind machine + left.countP kind := by
  obtain ⟨used, left, effect, tallies⟩ := step_effect step
  refine ⟨used, left, ?_, tallies⟩
  -- whatever is used up and owns a connection finds it alive
  have alive (c : ConnectionId) (counted : 0 < used.countP (owner c)) :
      ∃ connection, machine.world.find c = some connection ∧ 0 < connection.useCount :=
    owned.owner_alive (counted.trans_le (tallies (owner c)).1)
  generalize world : after.world = result at effect
  cases effect with
  | execute thread input body rest _ calls top executed =>
    cases serverExecute_cases executed with
    | connection c body input connection outcome found live executes =>
      exact .statement thread input c body rest connection outcome top found live executes
    | listenCallback input masked => exact .listenCallback _
    | listenIgnored input => exact .listenIgnored _
    | acceptEnds result ends => exact .acceptEnds _
    | acceptRefused fd fresh => exact .acceptRefused _
    | accepted fd fresh subLoop dealt deal =>
      obtain ⟨next, rfl⟩ := getNextLoop_eq _ deal
      have missing := owned.missing_of_fresh fresh
      rw [store_eq_enroll { machine.world with next_ := next } subLoop fd missing]
      exact .accepted _ fd subLoop next fresh missing (getNextLoop_ne_base _ deal)
    | removeConnection c input connection found live =>
      exact .removeConnection _ c connection found live
    | removedAlready c input connection found live missing =>
      exact .removedAlready _ c connection found missing
    | removeConnectionInLoop c input connection erased found live entry =>
      obtain rfl := owned.entry_self found live entry
      have held : 0 < owners machine erased :=
        orderly.entry_outstanding top rfl ((owner_spent erased _).mpr rfl)
      have counted := owned.counted erased connection found
      rw [stored_eq entry, if_pos rfl] at counted
      have shared : 2 ≤ connection.useCount := by omega
      rw [release_share_self (machine.world.erase connection.fd_) erased found shared]
      exact .removeConnectionInLoop _ erased connection found shared entry
    | release c input =>
      obtain ⟨connection, found, live⟩ := alive c (by simp [owner])
      exact .release _ c connection found live
  | invoke event cb called =>
    obtain ⟨connection, found, live⟩ := alive cb.connection (by simp [owner])
    exact .invoke _ cb called connection found live
  | copy event cb =>
    obtain ⟨connection, found, live⟩ := alive cb.connection (by simp [owner])
    exact .copy _ cb connection found live
  | destroy event cb =>
    obtain ⟨connection, found, live⟩ := alive cb.connection (by simp [owner])
    exact .destroy _ cb connection found live
  | poll l active input _ idle place distinct polled =>
    obtain ⟨mask, rfl, reported, rfl⟩ := serverPoll_cases polled
    exact .poll l active mask idle place distinct reported
  | deliver event ch => exact .deliver _ ch
  | begin thread input _ calls idle begun =>
    exact .begin thread input _ calls (serverBegin_cases begun)
  | silent event => exact .silent _

/-! ### The ledger of a reachable machine -/

/-- The owners a statement of a connection leaves. -/
theorem statement_owners (c d : ConnectionId) (l : LoopId subLoops) (next : List Next) :
    (itemsOf (next.map (Next.toCall c l)) : List ServerItem).countP (owner d) =
      if d = c then next.countP Next.owns else 0 := by
  induction next with
  | nil => simp
  | cons first rest inductionHypothesis =>
    rw [List.map_cons, itemsOf_cons, List.countP_append, inductionHypothesis, List.countP_cons]
    by_cases same : d = c
    · subst same
      cases first <;> simp [Next.toCall, Call.items, Next.owns, Functor.connection, Nat.add_comm]
    · cases first <;> simp [Next.toCall, Call.items, Functor.connection, same]

theorem Owned.step {machine after : ServerMachine subLoops User}
    {event : ServerEvent subLoops User} (owned : Owned machine.world (owners machine))
    (orderly : Orderly serverDiscipline machine)
    (step : Step (TcpServer.client subLoops User) machine event after) :
    Owned after.world (owners after) := by
  obtain ⟨used, left, effect, tallies⟩ := server_effect owned orderly step
  have count (d : ConnectionId) : owners after d + used.countP (owner d) =
      owners machine d + left.countP (owner d) := (tallies (owner d)).2
  generalize owners after = now at count ⊢
  generalize after.world = world at effect ⊢
  cases effect with
  | statement thread input c body rest connection outcome top found alive executes =>
    have keeps := executes.keeps
    refine owned.gain found alive ⟨keeps.fd, keeps.useCount, keeps.fdClosed⟩
      (fun d => commit_find _ c d found outcome) rfl rfl rfl fun d => ?_
    have change := count d
    rw [statement_owners] at change
    simpa [List.countP_cons] using change
  | listenCallback event => exact owned.same (by simpa [Call.items] using count)
  | listenIgnored event => exact owned.same (by simpa [List.countP_cons] using count)
  | acceptEnds event => exact owned.same (by simpa [List.countP_cons] using count)
  | acceptRefused event => exact owned.same (by simpa [Call.items] using count)
  | accepted event fd subLoop next fresh missing dealt =>
    have dealtOwned : Owned { machine.world with next_ := next } (owners machine) :=
      ⟨owned.counted, owned.unborn, owned.entry, owned.opened, owned.distinct, owned.listening,
        owned.separate, owned.destroyed⟩
    exact dealtOwned.enroll fresh fun d => by
      simpa [Call.items, List.countP_cons] using count d
  | removeConnection event c connection found alive =>
    refine owned.share found alive fun d => ?_
    have change := count d
    simpa [List.countP_cons, Functor.connection] using change
  | removedAlready event c connection found missing =>
    exact owned.same (by simpa [List.countP_cons] using count)
  | removeConnectionInLoop event c connection found shared entry =>
    refine owned.erase entry fun d => ?_
    have change := count d
    simpa [List.countP_cons, Functor.connection] using change
  | release event c connection found alive =>
    exact owned.release fun d => by simpa [List.countP_cons] using (count d).symm
  | invoke event cb called connection found alive =>
    refine owned.same fun d => ?_
    have change := count d
    cases cb <;> simpa [owner, Functor.invoke, Call.items, List.countP_cons] using change
  | copy event cb connection found alive =>
    refine owned.share found alive fun d => ?_
    have change := count d
    simp only [List.countP_cons, List.countP_nil, owner, decide_eq_true_eq] at change
    omega
  | destroy event cb connection found alive =>
    exact owned.release fun d => by simpa [List.countP_cons] using (count d).symm
  | poll l active mask idle place distinct reported =>
    refine owned.setRevents _ mask fun d => ?_
    simpa [owner, List.countP_map, Function.comp_def] using count d
  | deliver event ch =>
    refine owned.same fun d => ?_
    have change := count d
    cases ch <;> simpa [owner, ChannelId.handleEvent, Call.items] using change
  | begin thread input world calls begun =>
    cases begun with
    | member t call c body connection made found alive =>
      refine owned.share found alive fun d => ?_
      simpa [Call.items, List.countP_cons] using count d
    | bound t call l c body connection made found alive =>
      refine owned.share found alive fun d => ?_
      have change := count d
      simpa [List.countP_cons, Call.items, Functor.connection] using change
    | quit t l => exact owned.same (by simpa [Call.items] using count)
  | silent event => exact owned.same (by simpa using count)

theorem started_owned (listenFd : Nat) (openFds : Nat → Bool) :
    Owned (TcpServer.started subLoops listenFd openFds) fun _ => 0 where
  counted _ _ found := by cases found
  unborn _ _ := rfl
  entry _ _ found := by cases found
  opened _ _ found := by cases found
  distinct _ _ _ _ found := by cases found
  listening := Function.update_self ..
  separate _ _ found := by cases found
  destroyed _ _ found := by cases found

omit [DecidableEq User] in
theorem start_tally (kind : ServerItem → Bool) (world : TcpServer subLoops) :
    tally kind (Machine.start world : ServerMachine subLoops User) = 0 :=
  tally_eq_zero kind (fun _ => rfl) fun _ => rfl

variable {listenFd : Nat} {openFds : Nat → Bool}

omit [Fintype User] in
theorem reachable_server_orderly {machine : ServerMachine subLoops User}
    (reachable : Reachable (TcpServer.system subLoops User listenFd openFds) machine) :
    Orderly serverDiscipline machine :=
  reachable_orderly (server_obeys subLoops User) reachable

/-- In every reachable state the counts, the map and the open fds agree. -/
theorem reachable_owned {machine : ServerMachine subLoops User}
    (reachable : Reachable (TcpServer.system subLoops User listenFd openFds) machine) :
    Owned machine.world (owners machine) := by
  refine reachable.invariant (fun machine => Owned machine.world (owners machine)) ?_ ?_
  · rintro _ rfl
    exact (started_owned listenFd openFds).same fun _ => start_tally _ _
  · intro _ _ _ before owned _ step
    exact owned.step (reachable_server_orderly before) (step_cases step)

/-- Every step from a reachable state is one of the server's effects. -/
theorem reachable_effect {machine after : ServerMachine subLoops User}
    {event : ServerEvent subLoops User}
    (reachable : Reachable (TcpServer.system subLoops User listenFd openFds) machine)
    (step : (TcpServer.system subLoops User listenFd openFds).step machine event = some after) :
    ∃ used left, ServerEffect machine event after.world used left ∧
      ∀ kind, used.countP kind ≤ tally kind machine ∧
        tally kind after + used.countP kind = tally kind machine + left.countP kind :=
  server_effect (reachable_owned reachable) (reachable_server_orderly reachable) (step_cases step)

/-- The map never takes one connection for another, although it is keyed by the bare fd number:
every entry is a live connection under its own fd, a new connection finds its key free, and
`removeConnectionInLoop` erases the entry of its own connection or none. -/
theorem no_fd_confusion {machine : ServerMachine subLoops User}
    (reachable : Reachable (TcpServer.system subLoops User listenFd openFds) machine) :
    (∀ fd c, machine.world.connections_ fd = some c →
      ∃ connection, machine.world.find c = some connection ∧ connection.alive = true ∧
        connection.fd_ = fd) ∧
    (∀ thread rest fd after, machine.stack thread = .call (.code .handleAccept) :: rest →
      (TcpServer.system subLoops User listenFd openFds).step machine
        (.run thread (.accept (.client fd true))) = some after →
      machine.world.connections_ fd = none) ∧
    (∀ thread rest c input after,
      machine.stack thread = .call (.code (.removeConnectionInLoop c)) :: rest →
      (TcpServer.system subLoops User listenFd openFds).step machine (.run thread input) =
        some after →
      ∀ fd, after.world.connections_ fd = machine.world.connections_ fd ∨
        machine.world.connections_ fd = some c ∧ after.world.connections_ fd = none) := by
  have owned := reachable_owned reachable
  refine ⟨fun fd c entry => ?_, fun thread rest fd after top step => ?_,
    fun thread rest c input after top step fd => ?_⟩
  · obtain ⟨connection, found, same, alive⟩ := owned.entry_alive entry
    exact ⟨connection, found, by simpa [TcpConnection.alive] using alive, same⟩
  · obtain ⟨world, calls, executed, -⟩ := step_code top step
    have executed : TcpServer.execute .handleAccept (.accept (.client fd true)) machine.world =
      some (world, calls) := executed
    cases serverExecute_cases executed with
    | acceptEnds result ends => simp at ends
    | accepted fd fresh subLoop dealt deal => exact owned.missing_of_fresh fresh
  · obtain ⟨world, calls, executed, rfl⟩ := step_code top step
    have executed : TcpServer.execute (.removeConnectionInLoop c) input machine.world =
      some (world, calls) := executed
    cases serverExecute_cases executed with
    | removedAlready c input connection found alive missing => exact .inl rfl
    | removeConnectionInLoop c input connection erased found alive entry =>
      obtain rfl := owned.entry_self found alive entry
      have map : (((machine.world.erase connection.fd_).release erased).share erased).connections_ =
          (machine.world.erase connection.fd_).connections_ :=
        (release_members (machine.world.erase connection.fd_) erased found).1
      rw [setStack_world, setWorld_world, map]
      by_cases isFd : fd = connection.fd_
      · subst isFd
        exact .inr ⟨entry, Function.update_self ..⟩
      · exact .inl (Function.update_of_ne isFd ..)

end Step

/-- With one sub loop, the base loop accepts fd 7 and queues the registration. -/
def acceptRun : List (ServerEvent 1 Unit) :=
  [moves baseLoop, moves baseLoop, readable baseLoop [.channel .listen], moves baseLoop,
    steps (.loop baseLoop), .run (.loop baseLoop) (.accept (.client 7 true))] ++
  List.replicate 6 (steps (.loop baseLoop)) ++ [.run (.loop baseLoop) (.accept .again)] ++
  List.replicate 3 (moves baseLoop)

/-- The sub loop runs the functor that registers the connection. -/
def registration : List (ServerEvent 1 Unit) :=
  [moves firstLoop, moves firstLoop, readable firstLoop [.eventfd]] ++
  List.replicate 4 (moves firstLoop) ++ [steps (.loop firstLoop)] ++
  List.replicate 4 (moves firstLoop)

/-- The connection is readable, and the sub loop's calls of `recv` return these results. -/
def receives (results : List RecvResult) : List (ServerEvent 1 Unit) :=
  [moves firstLoop, readable firstLoop [.channel (.connection 0)], moves firstLoop] ++
  List.replicate 2 (steps (.loop firstLoop)) ++
  results.map fun result => .run (.loop firstLoop) (.io (.recv result))

/-- The sub loop receives the end of the stream and takes further steps. -/
def endOfStream (further : Nat) : List (ServerEvent 1 Unit) :=
  receives [.eof] ++ List.replicate further (steps (.loop firstLoop))

/-- The base loop erases the entry of the closed connection, and the sub loop runs
`connectDestroyed`. -/
def removal (between : Nat) : List (ServerEvent 1 Unit) :=
  [readable baseLoop [.eventfd]] ++ List.replicate 4 (moves baseLoop) ++
  List.replicate 5 (steps (.loop baseLoop)) ++ List.replicate 5 (moves baseLoop) ++
  List.replicate between (moves firstLoop) ++ [readable firstLoop [.eventfd]] ++
  List.replicate 4 (moves firstLoop) ++ List.replicate 4 (steps (.loop firstLoop)) ++
  List.replicate 4 (moves firstLoop)

/-- The entry under fd 7 is that of the connection accepted on it. It is the one that
`removeConnectionInLoop` erases, and `accept` may then return fd 7 again. -/
theorem no_fd_confusion_accepted :
    (∃ machine : ServerMachine 1 Unit, machine.world.connections_ 7 = some 0 ∧
      ∃ connection, machine.world.find 0 = some connection ∧ connection.alive = true ∧
        connection.fd_ = 7) ∧
      (∃ machine after : ServerMachine 1 Unit,
        (machine.world.find 0).map TcpConnection.fd_ = some 7 ∧
          machine.world.connections_ 7 = none ∧ after.world.connections_ 7 = some 1) ∧
      ∃ machine after : ServerMachine 1 Unit,
        (TcpServer.system 1 Unit 3 fun _ => false).step machine (steps (.loop baseLoop)) =
            some after ∧
          machine.world.connections_ 7 = some 0 ∧ after.world.connections_ 7 = none := by
  refine ⟨?_, ?_, ?_⟩
  · have accepted : ∃ machine, Reachable (TcpServer.system 1 Unit 3 fun _ => false) machine ∧
        machine.world.connections_ 7 = some 0 := exists_of_replay rfl acceptRun (by decide)
    obtain ⟨machine, reachable, entry⟩ := accepted
    exact ⟨machine, entry, (no_fd_confusion reachable).1 7 0 entry⟩
  · have accepts : ∃ machine, Reachable (TcpServer.system 1 Unit 3 fun _ => false) machine ∧
        (machine.stack (.loop baseLoop)).head? = some (.call (.code .handleAccept)) ∧
          (machine.world.find 0).map TcpConnection.fd_ = some 7 ∧
            ∃ after ∈ (TcpServer.system 1 Unit 3 fun _ => false).step machine
              (.run (.loop baseLoop) (.accept (.client 7 true))),
              after.world.connections_ 7 = some 1 :=
      exists_of_replay rfl (acceptRun ++ registration ++ endOfStream 10 ++ removal 3 ++
        [readable baseLoop [.channel .listen], moves baseLoop, steps (.loop baseLoop)])
        (by decide)
    obtain ⟨machine, reachable, top, isFd, after, step, entry⟩ := accepts
    obtain ⟨rest, stack⟩ := List.head?_eq_some_iff.mp top
    exact ⟨machine, after, isFd, (no_fd_confusion reachable).2.1 _ rest 7 after stack step, entry⟩
  · have erases : ∃ machine, Reachable (TcpServer.system 1 Unit 3 fun _ => false) machine ∧
        (machine.stack (.loop baseLoop)).head? =
            some (.call (.code (.removeConnectionInLoop 0))) ∧
          ∃ after ∈ (TcpServer.system 1 Unit 3 fun _ => false).step machine
            (steps (.loop baseLoop)),
            after.world.connections_ 7 ≠ machine.world.connections_ 7 :=
      exists_of_replay rfl
        (acceptRun ++ registration ++ endOfStream 9 ++ (removal 0).take 5) (by decide)
    obtain ⟨machine, reachable, top, after, step, changed⟩ := erases
    obtain ⟨rest, stack⟩ := List.head?_eq_some_iff.mp top
    exact ⟨machine, after, step,
      ((no_fd_confusion reachable).2.2 _ rest 0 _ after stack step 7).resolve_left changed⟩

end MultiReactor
