/-
This file proves what the output buffers of `epoll_server_buffer`
(epoll_server_buffer.cpp) are for. EPOLLOUT is asked for exactly while something
is cached, and `epoll_wait` never waits while something is cached for a client whose
send buffer the poller takes for writable: when it has nothing to report of such a
client, all that came from it has been sent back.
-/

import MultiReactor.BufferKernel
import MultiReactor.BufferOrder

namespace MultiReactor

open Transition Readiness

/-! ### What will be reported -/

/-- The fds `main` still calls `recv` on before it goes back to `epoll_wait`, unless it is to
stop. -/
def MainPlace.reading {Byte : Type} : MainPlace Byte → List Nat
  | .recv event ahead | .echo event _ ahead => event.fd :: ahead.map EpollEvent.fd
  | place => place.ahead.map EpollEvent.fd

/-- The events whose EPOLLOUT branch `main` still has before it. -/
def MainPlace.offered {Byte : Type} : MainPlace Byte → List EpollEvent
  | .recv event ahead | .echo event _ ahead | .epollout event ahead | .drain event ahead =>
    event :: ahead
  | place => place.ahead

section Told

variable {Byte : Type}

/-- `main` reads what comes in on this fd without being told, or is to stop. -/
def BufferServer.Reads (server : BufferServer Byte) (fd : Nat) : Prop :=
  fd ∈ server.place.reading ∨ (server.running = false ∧ server.place ≠ .epoll_wait)

/-- `main` has been told that it can send on this fd. -/
def BufferServer.Writes (server : BufferServer Byte) (fd : Nat) : Prop :=
  ⟨fd, true⟩ ∈ server.place.offered

/-- EPOLLOUT is asked for exactly while something is cached. What has come in will be reported,
unless `main` reads it anyway. While something is cached the poller will look at the send buffer,
or `main` has been told that it is writable, or the socket will tell the poller when it is. -/
structure ClientSocket.Told (poller : Writability) (socket : ClientSocket Byte)
    (account : Account Byte) (reads writes : Prop) : Prop where
  asked : account.cached ≠ [] ↔ account.isRegistered = true ∧ socket.asks = true
  input : account.isRegistered = true → ¬ reads → socket.source.Announced
  output : account.cached ≠ [] →
    socket.source.ready = true ∨ writes ∨ socket.sink.Awaits poller
  offered : writes → account.isOpen = true → account.cached ≠ []

/-- Every client's socket is told of. The clients of the events that `main` has before it are
registered until they are closed. -/
structure PolledServer.Tells (poller : Writability) (listen_fd : Nat) (state : PolledServer Byte) :
    Prop where
  told : ∀ fd ≠ listen_fd, (state.sockets fd).Told poller (state.server.account fd)
    (state.server.Reads fd) (state.server.Writes fd)
  registered : ∀ event ∈ state.server.place.offered,
    (state.server.account event.fd).isOpen = true →
      (state.server.account event.fd).isRegistered = true

/-! ### One socket -/

section Socket

variable {poller : Writability} {socket after : ClientSocket Byte} {account : Account Byte}
  {reads writes reads' writes' : Prop}

theorem ClientSocket.Told.mono (told : socket.Told poller account reads writes)
    (more : reads → reads') (same : writes ↔ writes') :
    socket.Told poller account reads' writes' where
  asked := told.asked
  input registered unread := told.input registered fun reads => unread (more reads)
  output cached := (told.output cached).imp_right (Or.imp_left same.mp)
  offered writes := told.offered (same.mpr writes)

theorem ClientSocket.Told.onPeer (told : socket.Told poller account reads writes)
    (happens : Peer Byte → Peer Byte) : socket.Told poller (account.onPeer happens) reads writes :=
  ⟨told.asked, told.input, told.output, told.offered⟩

theorem ClientSocket.Told.holding (told : socket.Told poller account reads writes)
    (inflight : List Byte) : socket.Told poller (account.holding inflight) reads writes :=
  ⟨told.asked, told.input, told.output, told.offered⟩

/-- Of an fd that is not registered, and under which nothing is cached, nothing is to be told. -/
theorem told_of_unregistered (unregistered : account.isRegistered = false)
    (nothing : account.cached = []) (offered : writes → account.isOpen = false) :
    socket.Told poller account reads writes where
  asked := ⟨fun cached => absurd nothing cached,
    fun registered => by cases unregistered.symm.trans registered.1⟩
  input registered := by cases unregistered.symm.trans registered
  output cached := absurd nothing cached
  offered writes isOpen := by cases (offered writes).symm.trans isOpen

/-- While `main` keeps on reading, it does not matter what has come in. -/
theorem ClientSocket.Told.keeps (told : socket.Told poller account reads writes) (will : reads')
    (asks : after.asks = socket.asks) (ready : after.source.ready = socket.source.ready)
    (sink : socket.sink.Awaits poller → after.sink.Awaits poller) :
    after.Told poller account reads' writes where
  asked := by rw [asks]; exact told.asked
  input _ unread := absurd will unread
  output cached := by rw [ready]; exact (told.output cached).imp_right (Or.imp_right sink)
  offered := told.offered

/-- When nothing is left, `main` need not read on. -/
theorem ClientSocket.Told.silent (told : socket.Told poller account reads writes)
    (nothing : socket.source.hasInput = false) : socket.Told poller account reads' writes where
  asked := told.asked
  input _ _ := announced_of_nothing nothing
  output := told.output
  offered := told.offered

/-- The socket gets on the ready list, or stays there. -/
theorem ClientSocket.Told.happens (told : socket.Told poller account reads writes)
    (asks : after.asks = socket.asks) (announced : socket.source.Announced → after.source.Announced)
    (ready : socket.source.ready = true → after.source.ready = true)
    (sink : socket.asks = true → socket.sink.Awaits poller →
      after.source.ready = true ∨ after.sink.Awaits poller) :
    after.Told poller account reads writes where
  asked := by rw [asks]; exact told.asked
  input registered unread := announced (told.input registered unread)
  output cached := by
    rcases told.output cached with before | writes | awaits
    · exact .inl (ready before)
    · exact .inr (.inl writes)
    · exact (sink (told.asked.mp cached).2 awaits).imp_right .inr
  offered := told.offered

/-- A send buffer that has become writable is announced while something is cached. -/
theorem ClientSocket.Told.frees (told : socket.Told poller account reads writes) (count : Nat) :
    (socket.frees poller count).Told poller account reads writes := by
  refine told.happens rfl (fun announced input => ?_) (fun ready => ?_) fun asks awaits => ?_
  · exact Bool.or_eq_true_iff.mpr (.inl (announced input))
  · exact Bool.or_eq_true_iff.mpr (.inl ready)
  · refine (awaits.free count).imp_left fun tells => Bool.or_eq_true_iff.mpr (.inr ?_)
    rw [asks, tells]
    rfl

/-- `main` may leave a send buffer that will tell the poller. -/
theorem ClientSocket.Told.leaves (told : socket.Told poller account reads writes)
    (more : reads → reads') (awaits : account.cached ≠ [] → socket.sink.Awaits poller)
    (unwritten : ¬ writes') : socket.Told poller account reads' writes' where
  asked := told.asked
  input registered unread := told.input registered fun reads => unread (more reads)
  output cached := .inr (.inr (awaits cached))
  offered writes := absurd writes unwritten

/-- `send` leaves a send buffer that will tell the poller as it is. -/
theorem ClientSocket.Told.put (told : socket.Told poller account reads writes) (count : Nat) :
    (socket.onSink (.put count)).Told poller account reads writes where
  asked := told.asked
  input := told.input
  output cached := (told.output cached).imp_right (Or.imp_right fun awaits => awaits.put count)
  offered := told.offered

/-- The poller takes a socket off the ready list of which there is nothing to report. -/
theorem ClientSocket.Told.drops (told : socket.Told poller account reads writes)
    (nothing : socket.reportable poller = false) :
    (socket.report poller).Told poller account reads writes := by
  obtain ⟨silent, unwritable⟩ := Bool.or_eq_false_iff.mp nothing
  refine ⟨told.asked, fun _ _ => announced_of_nothing silent, fun cached => .inr ?_, told.offered⟩
  rcases told.output cached with ready | writes | awaits
  · have asks := (told.asked.mp cached).2
    rw [ClientSocket.writable, asks, Bool.true_and] at unwritable
    exact .inr (awaits_poll unwritable)
  · exact .inl writes
  · exact .inr awaits.poll

/-- What did not fit into the send buffer stays cached. -/
theorem ClientSocket.Told.caches (told : socket.Told poller account reads writes)
    (cached : account.cached ≠ []) {left : List Byte} (more : left ≠ []) :
    socket.Told poller (account.setBuffer (some left)) reads writes where
  asked := ⟨fun _ => told.asked.mp cached, fun _ => more⟩
  input := told.input
  output _ := told.output cached
  offered _ _ := more

/-- The poller has looked at the socket. -/
theorem announced_control (asks : Bool) :
    (socket.control poller asks).source.Announced := fun input =>
  Bool.or_eq_true_iff.mpr (.inr (Bool.or_eq_true_iff.mpr (.inl input)))

/-- EPOLLOUT is not asked for while nothing is cached. -/
theorem told_control_false (nothing : account.cached = [])
    (offered : writes → account.isOpen = false) :
    (socket.control poller false).Told poller account reads writes where
  asked := ⟨fun cached => absurd nothing cached, fun asks => by cases asks.2⟩
  input _ _ := announced_control false
  output cached := absurd nothing cached
  offered writes isOpen := by cases (offered writes).symm.trans isOpen

/-- EPOLLOUT is asked for when something is cached. -/
theorem told_control_true (cached : account.cached ≠ [])
    (registered : account.isRegistered = true) :
    (socket.control poller true).Told poller account reads writes where
  asked := ⟨fun _ => ⟨registered, rfl⟩, fun _ => cached⟩
  input _ _ := announced_control true
  output _ := by
    cases writable : poller.writable socket.sink.room with
    | true =>
      refine .inl (Bool.or_eq_true_iff.mpr (.inr (Bool.or_eq_true_iff.mpr (.inr ?_))))
      exact Bool.and_eq_true_iff.mpr ⟨rfl, writable⟩
    | false => exact .inr (.inr (awaits_poll writable))
  offered _ _ := cached

end Socket

/-! ### All sockets -/

section Step

variable {poller : Writability} {listen_fd fd : Nat} {state : PolledServer Byte}
  {server after : BufferServer Byte} {input : MainInput Byte} {place old : MainPlace Byte}
  {ahead : List EpollEvent}
  {socket : ClientSocket Byte}

theorem reading_other (other : place.client ≠ some fd) :
    fd ∈ place.reading ↔ fd ∈ place.ahead.map EpollEvent.fd := by
  cases place with
  | recv event ahead | echo event rest ahead =>
    refine ⟨fun known => ?_, List.mem_cons_of_mem _⟩
    exact (List.mem_cons.mp known).resolve_left fun same => other (congrArg some same.symm)
  | _ => rfl

theorem offered_other {epollout : Bool} (other : place.client ≠ some fd) :
    ⟨fd, epollout⟩ ∈ place.offered ↔ ⟨fd, epollout⟩ ∈ place.ahead := by
  cases place with
  | recv event ahead | echo event rest ahead | epollout event ahead | drain event ahead =>
    refine ⟨fun known => ?_, List.mem_cons_of_mem _⟩
    refine (List.mem_cons.mp known).resolve_left fun same => other ?_
    exact congrArg (some ∘ EpollEvent.fd) same.symm
  | _ => rfl

/-- `main` does not start to wait when it is to stop. -/
theorem step_stops (moved : MainStep listen_fd server input after)
    (stopped : server.running = false) : after.running = false ∧ after.place ≠ .epoll_wait := by
  cases moved with
  | move _ place moved =>
    refine ⟨stopped, fun waits => ?_⟩
    replace waits : place = .epoll_wait := waits
    generalize server.place = old at moved
    cases moved with
    | enter running => cases stopped.symm.trans running
    | _ => cases waits
  | _ => exact ⟨stopped, fun waits => by cases waits⟩

/-- What `main` has before it of a client that is handled neither before a step nor after it. -/
theorem reads_other (moved : MainStep listen_fd server input after)
    (before : server.place.client ≠ some fd) (later : after.place.client ≠ some fd)
    (ahead : server.place.ahead = after.place.ahead) (reads : server.Reads fd) :
    after.Reads fd := by
  refine reads.imp (fun known => ?_) fun stopped => step_stops moved stopped.1
  rw [reading_other later, ← ahead]
  exact (reading_other before).mp known

theorem writes_other (before : old.client ≠ some fd) (later : place.client ≠ some fd)
    (ahead : old.ahead = place.ahead) : ⟨fd, true⟩ ∈ old.offered ↔ ⟨fd, true⟩ ∈ place.offered := by
  rw [offered_other before, offered_other later, ahead]

/-- A test does not take a client away from what `main` has before it, but for the one that ends the
recv loop. -/
theorem move_reading (client : fd ≠ listen_fd) (moved : MainMove listen_fd server old place)
    (known : fd ∈ old.reading) : fd ∈ place.reading ∨ server.running = false := by
  cases moved with
  | listening event rest listens =>
    refine .inl ((List.mem_cons.mp known).resolve_left fun same => client ?_)
    exact same.trans listens
  | recvStops event rest stopped => exact .inr stopped
  | client | acceptEnds | nonblocking | echoed | unmasked | drain => exact .inl known
  | _ => cases known

theorem move_offered (client : fd ≠ listen_fd) (moved : MainMove listen_fd server old place)
    (idle : old = .epoll_wait → place.ahead = []) :
    ⟨fd, true⟩ ∈ old.offered ↔ ⟨fd, true⟩ ∈ place.offered := by
  cases moved with
  | reported events => rw [show (MainPlace.events events).offered = [] from idle rfl]; rfl
  | listening event rest listens =>
    refine ⟨fun known => ?_, List.mem_cons_of_mem _⟩
    refine (List.mem_cons.mp known).resolve_left fun same => client ?_
    exact (congrArg EpollEvent.fd same).trans listens
  | unmasked event rest unmasked =>
    refine ⟨fun known => ?_, List.mem_cons_of_mem _⟩
    refine (List.mem_cons.mp known).resolve_left fun same => ?_
    cases (congrArg EpollEvent.epollout same).trans unmasked
  | _ => rfl

/-- A test has no more events before it than there were. -/
theorem move_subset {event : EpollEvent} (moved : MainMove listen_fd server old place)
    (idle : old = .epoll_wait → place.ahead = []) (known : event ∈ place.offered) :
    event ∈ old.offered := by
  cases moved with
  | reported events =>
    rw [show (MainPlace.events events).offered = [] from idle rfl] at known
    cases known
  | listening | unmasked => exact List.mem_cons_of_mem _ known
  | _ => exact known

/-- A test touches no socket. -/
theorem PolledServer.Tells.move (tells : state.Tells poller listen_fd)
    (here : state.server.place = old) (moved : MainMove listen_fd state.server old place)
    (idle : old = .epoll_wait → place.ahead = []) :
    ({ state with server := state.server.goTo place } : PolledServer Byte).Tells poller
      listen_fd := by
  have accounts := move_account (here ▸ moved)
  have stops := step_stops (.move .none place (here ▸ moved))
  refine ⟨fun fd client => ?_, fun event offered => ?_⟩
  · show (state.sockets fd).Told poller ((state.server.goTo place).account fd) _ _
    rw [accounts]
    refine (tells.told fd client).mono (fun reads => ?_) ?_
    · rcases reads with known | ⟨stopped, _⟩
      · exact (move_reading client moved (here ▸ known)).imp_right fun stopped => stops stopped
      · exact .inr (stops stopped)
    · rw [BufferServer.Writes, here]
      exact move_offered client moved idle
  · rw [accounts]
    exact tells.registered event (here ▸ move_subset moved idle offered)

/-- The client that is handled is the only one whose socket is touched. -/
theorem PolledServer.Tells.handled (tells : state.Tells poller listen_fd)
    (known : state.server.Known listen_fd)
    (moved : MainStep listen_fd state.server input after) (here : state.server.place = old)
    (client : old.client = some fd)
    (next : after.place.client = none ∨ after.place.client = some fd ∧ after.place.fresh = false)
    (ahead : old.ahead = after.place.ahead)
    (registered : (after.account fd).isOpen = true → (after.account fd).isRegistered = true)
    (told : fd ≠ listen_fd → fd ∉ after.place.ahead.map EpollEvent.fd →
      socket.Told poller (after.account fd) (after.Reads fd) (after.Writes fd)) :
    ({ server := after, sockets := Function.update state.sockets fd socket } :
      PolledServer Byte).Tells poller listen_fd := by
  have beyond : fd ∉ after.place.ahead.map EpollEvent.fd := by
    have distinct := known.distinct
    rw [here, MainPlace.fds, client] at distinct
    exact ahead ▸ (List.nodup_cons.mp distinct).1
  have others {other : Nat} (different : other ≠ fd) :
      state.server.place.client ≠ some other ∧ after.place.client ≠ some other := by
    refine ⟨fun same => different ?_, fun same => ?_⟩
    · exact Option.some.inj (same.symm.trans (here ▸ client))
    · rcases next with done | ⟨again, -⟩
      · cases done.symm.trans same
      · exact different (Option.some.inj (same.symm.trans again))
  refine ⟨fun other apart => ?_, fun event offered => ?_⟩
  · show (Function.update state.sockets fd socket other).Told poller (after.account other) _ _
    by_cases same : other = fd
    · rw [same, Function.update_self]
      exact told (same ▸ apart) beyond
    · obtain ⟨before, later⟩ := others same
      rw [Function.update_of_ne same, handled_account_other moved here client next same]
      exact (tells.told other apart).mono (reads_other moved before later (here ▸ ahead))
        (writes_other before later (here ▸ ahead))
  · show (after.account event.fd).isOpen = true → _
    by_cases same : event.fd = fd
    · rw [same]
      exact registered
    · obtain ⟨before, later⟩ := others same
      rw [handled_account_other moved here client next same]
      refine tells.registered event ((offered_other before).mpr ?_)
      rw [here, ahead]
      exact (offered_other later).mp offered

/-- Nothing is known of a new connection. -/
theorem PolledServer.Tells.accepted (tells : state.Tells poller listen_fd)
    (known : state.server.Known listen_fd)
    (balanced : state.server.Balanced List.Perm List.Subperm)
    (here : state.server.place = .accept ahead) (fresh : state.server.openFds fd = false)
    (room : Nat) :
    ({ server := (state.server.newClient fd).goTo (.set_nonblocking fd ahead)
       sockets := Function.update state.sockets fd (.new room) } :
      PolledServer Byte).Tells poller listen_fd := by
  have moved : MainStep listen_fd state.server (.accept fd) _ := .accepted fd ahead here fresh
  have beyond {event : EpollEvent} (reached : event ∈ ahead) : event.fd ≠ fd := fun same => by
    have watched := known.ahead event (by rw [here]; exact reached)
    rw [same] at watched
    cases fresh.symm.trans watched.1
  have apart {other : Nat} (different : other ≠ fd) :
      state.server.place.client ≠ some other ∧
        (MainPlace.set_nonblocking fd ahead : MainPlace Byte).client ≠ some other := by
    rw [here]
    exact ⟨nofun, fun same => different (Option.some.inj same).symm⟩
  have same : state.server.place.ahead =
      (MainPlace.set_nonblocking fd ahead : MainPlace Byte).ahead := by rw [here]; rfl
  refine ⟨fun other client => ?_, fun event offered => ?_⟩
  · show (Function.update state.sockets fd (.new room) other).Told poller (((state.server.newClient
      fd).goTo (.set_nonblocking fd ahead)).account other) _ _
    by_cases this : other = fd
    · subst this
      rw [Function.update_self, account_goTo, account_newClient_self]
      refine told_of_unregistered ?_ ?_ fun writes => absurd rfl (beyond writes)
      · exact Bool.eq_false_iff.mpr fun registered => by
          cases fresh.symm.trans (known.registered other registered).1
      · exact congrArg (Option.getD · []) ((balanced.fds other).idle fresh).1
    · obtain ⟨before, later⟩ := apart this
      rw [Function.update_of_ne this, accepted_account_other here this]
      exact (tells.told other client).mono (reads_other moved before later same)
        (writes_other before later same)
  · show (((state.server.newClient fd).goTo (.set_nonblocking fd ahead)).account
      event.fd).isOpen = true → _
    rw [accepted_account_other here (beyond offered)]
    exact tells.registered event (by rw [here]; exact offered)

theorem PolledServer.Tells.reported {events : List EpollEvent}
    (tells : state.Tells poller listen_fd) (here : state.server.place = .epoll_wait)
    (reports : state.reports poller listen_fd events = true) :
    ({ server := state.server.goTo (.events events), sockets := state.reported poller events } :
      PolledServer Byte).Tells poller listen_fd := by
  obtain ⟨known, kernel⟩ := Bool.and_eq_true_iff.mp reports
  replace known := List.all_eq_true.mp (of_decide_eq_true known).2.2
  have accounts (fd : Nat) :
      (state.server.goTo (.events events)).account fd = state.server.account fd :=
    account_goTo_same state.server (by rw [here]; rfl)
  have writable {event : EpollEvent} (reported : event ∈ events) (client : event.fd ≠ listen_fd) :
      event.epollout = (state.sockets event.fd).writable poller := by
    have allowed := List.all_eq_true.mp kernel event reported
    rw [decide_eq_false client, Bool.false_or, Bool.and_eq_true] at allowed
    exact of_decide_eq_true allowed.2
  refine ⟨fun fd client => ?_, fun event offered => ?_⟩
  · have told := tells.told fd client
    show (state.reported poller events fd).Told poller
      ((state.server.goTo (.events events)).account fd) _ _
    rw [accounts]
    unfold PolledServer.reported
    split
    · rename_i reached
      obtain ⟨event, reported, rfl⟩ := List.mem_map.mp reached
      refine ⟨told.asked, fun _ unread => absurd (.inl reached) unread, fun cached => .inr ?_,
        fun writes _ => told.asked.mpr ⟨known event reported, ?_⟩⟩
      · have asks := (told.asked.mp cached).2
        cases room : poller.writable (state.sockets event.fd).sink.room with
        | true =>
          have masked : event.epollout = true := by
            rw [writable reported client]
            exact Bool.and_eq_true_iff.mpr ⟨asks, room⟩
          refine .inl ?_
          show ⟨event.fd, true⟩ ∈ events
          rw [← masked]
          exact reported
        | false => exact .inr (awaits_poll room)
      · exact (Bool.and_eq_true_iff.mp (writable writes client).symm).1
    · rename_i unreached
      refine told.mono (fun reads => ?_) ?_
      · rw [BufferServer.Reads, here] at reads
        rcases reads with none | ⟨_, waits⟩
        · cases none
        · exact absurd rfl waits
      · rw [BufferServer.Writes, here]
        exact ⟨nofun, fun reached => absurd (List.mem_map.mpr ⟨_, reached, rfl⟩) unreached⟩
  · rw [accounts]
    exact fun _ => known event offered

/-- One socket changes behind the back of `main`. -/
theorem PolledServer.Tells.happens {next : PolledServer Byte} (tells : state.Tells poller listen_fd)
    {happens : ClientSocket Byte → ClientSocket Byte}
    (told : ∀ reads writes, (state.sockets fd).Told poller (state.server.account fd) reads writes →
      (happens (state.sockets fd)).Told poller (state.server.account fd) reads writes)
    (step : state.happens fd happens = some next) : next.Tells poller listen_fd := by
  unfold PolledServer.happens at step
  split at step
  · cases step
    refine ⟨fun other client => ?_, tells.registered⟩
    show (Function.update state.sockets fd _ other).Told poller _ _ _
    by_cases same : other = fd
    · subst same
      rw [Function.update_self]
      exact told _ _ (tells.told other client)
    · rw [Function.update_of_ne same]
      exact tells.told other client
  · cases step

/-! ### The listening socket -/

/-- What has been sent and what is held under an open fd. -/
theorem Account.Balanced.whole {whole part : List Byte → List Byte → Prop}
    {account : Account Byte} {peer : Peer Byte} (balanced : account.Balanced whole part)
    (isOpen : account.isOpen = true) (known : account.peer = some peer) :
    whole (peer.accepted ++ (account.cached ++ account.inflight)) peer.received := by
  cases balanced with
  | unused => cases known
  | closed => cases isOpen
  | opened _ _ _ _ balance =>
    obtain rfl := Option.some.inj known
    exact balance

/-- What is on the ready list can be reported, if there is something to report. -/
theorem reports_ready (registered : state.server.registered fd = true)
    (ready : (state.sockets fd).source.ready = true)
    (reportable : (state.sockets fd).reportable poller = true) :
    state.reports poller listen_fd [⟨fd, (state.sockets fd).writable poller⟩] = true := by
  refine Bool.and_eq_true_iff.mpr ⟨decide_eq_true ⟨?_, List.pairwise_singleton .., ?_⟩, ?_⟩
  · exact (by decide : 1 ≤ maxEpollEvents)
  · simp [registered]
  · simp [ready, reportable]

/-- Nothing is cached under an fd that is no client's. -/
theorem Account.Balanced.unknown {whole part : List Byte → List Byte → Prop}
    {account : Account Byte} (balanced : account.Balanced whole part)
    (unknown : account.peer = none) : account.buffer = none := by
  cases balanced with
  | unused => rfl
  | closed | opened => cases unknown

/-- The listening socket is no client. -/
def BufferServer.Listens (listen_fd : Nat) (server : BufferServer Byte) : Prop :=
  server.openFds listen_fd = true ∧ server.latest listen_fd = none ∧
    server.place.client ≠ some listen_fd

theorem listens_step (listens : server.Listens listen_fd)
    (moved : MainStep listen_fd server input after) : after.Listens listen_fd := by
  obtain ⟨isOpen, unknown, other⟩ := listens
  have later : after.place.client ≠ some listen_fd := by
    cases moved with
    | move _ place moved =>
      show place.client ≠ some listen_fd
      generalize server.place = old at moved other
      cases moved with
      | client event ahead client => exact fun same => client (Option.some.inj same)
      | nonblocking | recvStops | echoed | drain => exact other
      | _ => exact nofun
    | accepted fd ahead place fresh =>
      intro same
      obtain rfl := Option.some.inj same
      cases fresh.symm.trans isOpen
    | receives _ _ _ place | recvBlocked _ _ _ place | recvCloses _ _ _ place | sends _ _ _ _ place
    | caches _ _ _ _ place | sendCloses _ _ _ _ place =>
      rw [place] at other
      exact other
    | _ => exact nofun
  have same := step_account_other moved other later
  exact ⟨(congrArg Account.isOpen same).trans isOpen, (congrArg Account.peer same).trans unknown,
    later⟩

theorem reachable_listens {openFds : Nat → Bool}
    (reachable : Reachable (BufferServer.system Byte listen_fd openFds) server) :
    server.Listens listen_fd := by
  refine reachable.invariant (BufferServer.Listens listen_fd) ?_ ?_
  · rintro _ rfl
    exact ⟨Function.update_self .., rfl, nofun⟩
  · intro server label after _ listens _ step
    cases label with
    | main input => exact listens_step listens (main_cases step)
    | handle_sigint =>
      cases step
      exact listens

/-! ### The calls on a client's fd -/

/-- Of a connection that is closed nothing is to be told. -/
theorem PolledServer.Tells.closed {middle : BufferServer Byte}
    (tells : state.Tells poller listen_fd) (known : state.server.Known listen_fd)
    (moved : MainStep listen_fd state.server input ((middle.closeClient fd).goTo place))
    (here : state.server.place = old) (client : old.client = some fd)
    (next : place.client = none ∨ place.client = some fd ∧ place.fresh = false)
    (ahead : old.ahead = place.ahead) :
    ({ server := (middle.closeClient fd).goTo place
       sockets := Function.update state.sockets fd socket } :
      PolledServer Byte).Tells poller listen_fd := by
  refine tells.handled known moved here client next ahead ?_ fun _ _ => ?_
  · rw [account_goTo, account_closeClient_self]
    exact nofun
  · rw [account_goTo, account_closeClient_self]
    exact told_of_unregistered rfl rfl fun _ => rfl

/-- What `send` can do. -/
theorem send_cases {before : ClientSocket Byte} {bytes : List Byte}
    (call : before.send bytes input = some socket) :
    (∃ sent, input = .send sent ∧ sent = min before.sink.room bytes.length ∧
      socket = before.onSink (.put bytes.length)) ∨
    ∃ errno, input = .fails errno ∧ (errno = EAGAIN →
      before.sink.room = 0 ∧ socket = before.onSink (.put bytes.length)) := by
  unfold ClientSocket.send at call
  split at call
  · rename_i sent
    split at call
    · rename_i allowed
      exact .inl ⟨sent, rfl, allowed.2, (Option.some.inj call).symm⟩
    · cases call
  · rename_i errno
    split at call
    · split at call
      · rename_i full
        exact .inr ⟨errno, rfl, fun _ => ⟨full, (Option.some.inj call).symm⟩⟩
      · cases call
    · rename_i hard
      exact .inr ⟨errno, rfl, fun again => absurd again hard⟩
  · cases call

variable {event : EpollEvent}

/-- The EPOLLOUT branch with nothing cached: EPOLLOUT is no longer asked for. -/
theorem PolledServer.Tells.silences (tells : state.Tells poller listen_fd)
    (known : state.server.Known listen_fd) (here : state.server.place = .epollout event ahead)
    (nothing : state.server.cached event.fd = [])
    (moved : MainStep listen_fd state.server input
      ((state.server.onPeer event.fd (Peer.issue [.epoll_ctl])).goTo (.events ahead)))
    (call : socket = (state.sockets event.fd).control poller false ∨
      state.server.registered event.fd = false) :
    ({ server := (state.server.onPeer event.fd (Peer.issue [.epoll_ctl])).goTo (.events ahead)
       sockets := Function.update state.sockets event.fd socket } :
      PolledServer Byte).Tells poller listen_fd := by
  have registered := tells.registered event (by rw [here]; exact List.mem_cons_self)
  refine tells.handled known moved here rfl (.inl rfl) rfl ?_ fun _ beyond => ?_
  · rw [account_goTo, account_onPeer_self]
    exact registered
  · rw [account_goTo, account_onPeer_self]
    refine (ClientSocket.Told.onPeer ?_ _).holding _
    have unwritten (writes : ⟨event.fd, true⟩ ∈ ahead) :
        (state.server.account event.fd).isOpen = false :=
      absurd (List.mem_map.mpr ⟨_, writes, rfl⟩) beyond
    rcases call with rfl | unregistered
    · exact told_control_false nothing unwritten
    · exact told_of_unregistered unregistered nothing unwritten

/-- A client that has only been accepted is closed. Nothing has been cached for it. -/
theorem PolledServer.Tells.refused {middle : BufferServer Byte}
    (tells : state.Tells poller listen_fd) (known : state.server.Known listen_fd)
    (moved : MainStep listen_fd state.server input ((middle.close fd).goTo (.accept ahead)))
    (here : state.server.place = old) (client : old.client = some fd) (same : old.ahead = ahead)
    (nothing : (middle.account fd).buffer = none) :
    ({ server := (middle.close fd).goTo (.accept ahead), sockets := state.sockets } :
      PolledServer Byte).Tells poller listen_fd := by
  rw [← Function.update_eq_self fd state.sockets]
  refine tells.handled known moved here client (.inl rfl) same ?_ fun _ _ => ?_
  · rw [account_goTo, account_close_self]
    exact nofun
  · rw [account_goTo, account_close_self]
    exact told_of_unregistered rfl (congrArg (Option.getD · []) nothing) fun _ => rfl

theorem PolledServer.Tells.registers (tells : state.Tells poller listen_fd)
    (known : state.server.Known listen_fd) (here : state.server.place = .register fd ahead)
    (nothing : (state.server.account fd).buffer = none)
    (moved : MainStep listen_fd state.server input
      ((state.server.register fd).goTo (.accept ahead))) :
    ({ server := (state.server.register fd).goTo (.accept ahead)
       sockets := Function.update state.sockets fd ((state.sockets fd).control poller false) } :
      PolledServer Byte).Tells poller listen_fd := by
  refine tells.handled known moved here rfl (.inl rfl) rfl ?_ fun _ beyond => ?_
  · rw [account_goTo, account_register_self]
    exact fun _ => rfl
  · rw [account_goTo, account_register_self]
    refine told_control_false (congrArg (Option.getD · []) nothing) fun writes => ?_
    exact absurd (List.mem_map.mpr ⟨_, writes, rfl⟩) beyond

variable [DecidableEq Byte]

theorem PolledServer.Tells.recv (tells : state.Tells poller listen_fd)
    (known : state.server.Known listen_fd) (here : state.server.place = .recv event ahead)
    (call : (state.sockets event.fd).recv input = some socket)
    (step : state.server.recvOne event ahead input = some after)
    (moved : MainStep listen_fd state.server input after) :
    ({ server := after, sockets := Function.update state.sockets event.fd socket } :
      PolledServer Byte).Tells poller listen_fd := by
  have registered := tells.registered event (by rw [here]; exact List.mem_cons_self)
  have told := tells.told event.fd
  rw [BufferServer.Writes, here] at told
  unfold BufferServer.recvOne at step
  dsimp only at step
  split at step
  · rename_i bytes
    split at step
    · unfold ClientSocket.recv at call
      dsimp only at call
      split at call
      · cases call
        split at step
        · cases step
          exact tells.closed known moved here rfl (.inr ⟨rfl, rfl⟩) rfl
        · cases step
          refine tells.handled known moved here rfl (.inr ⟨rfl, rfl⟩) rfl ?_ fun client _ => ?_
          · rw [account_goTo, account_onPeer_self, account_onPeer_self]
            exact registered
          · rw [account_goTo, account_onPeer_self, account_onPeer_self]
            refine ((ClientSocket.Told.onPeer ?_ _).onPeer _).holding _
            exact (told client).keeps (.inl List.mem_cons_self) rfl rfl id
      · cases call
    · cases step
  · rename_i errno
    split at step
    · unfold ClientSocket.recv at call
      dsimp only at call
      split at call
      · rename_i blocks
        cases call
        split at step
        · rename_i again
          cases step
          refine tells.handled known moved here rfl (.inr ⟨rfl, rfl⟩) rfl ?_ fun client _ => ?_
          · rw [account_goTo, account_onPeer_self]
            exact registered
          · rw [account_goTo, account_onPeer_self]
            refine (ClientSocket.Told.onPeer ?_ _).holding _
            exact (told client).silent (blocks (again.elim id id))
        · cases step
          exact tells.closed known moved here rfl (.inr ⟨rfl, rfl⟩) rfl
      · cases call
    · cases step
  · cases step

theorem PolledServer.Tells.echo {rest : List Byte} (tells : state.Tells poller listen_fd)
    (known : state.server.Known listen_fd) (here : state.server.place = .echo event rest ahead)
    (pending : rest ≠ []) (call : (state.sockets event.fd).echo poller rest input = some socket)
    (step : state.server.echoOne event rest ahead input = some after)
    (moved : MainStep listen_fd state.server input after) :
    ({ server := after, sockets := Function.update state.sockets event.fd socket } :
      PolledServer Byte).Tells poller listen_fd := by
  have registered := tells.registered event (by rw [here]; exact List.mem_cons_self)
  have told := tells.told event.fd
  rw [BufferServer.Writes, here] at told
  obtain ⟨called, sends, rfl⟩ := Option.map_eq_some_iff.mp call
  rcases send_cases sends with ⟨sent, rfl, -, rfl⟩ | ⟨errno, rfl, blocked⟩
  · rw [if_neg nofun]
    replace step : (if _ then _ else none) = some after := step
    split at step
    · cases step
      refine tells.handled known moved here rfl (.inr ⟨rfl, rfl⟩) rfl ?_ fun client _ => ?_
      · rw [account_goTo, account_onPeer_self, account_onPeer_self]
        exact registered
      · rw [account_goTo, account_onPeer_self, account_onPeer_self]
        refine ((ClientSocket.Told.onPeer ?_ _).onPeer _).holding _
        exact (told client).keeps (.inl List.mem_cons_self) rfl rfl fun awaits => awaits.put _
    · cases step
  · replace step : (if _ then (if _ then some _ else some _) else none) = some after := step
    split at step
    · rename_i may
      split at step
      · rename_i again
        obtain rfl := again.1
        cases step
        rw [if_pos rfl]
        have isOpen := open_of_again may (.inl rfl)
        refine tells.handled known moved here rfl (.inr ⟨rfl, rfl⟩) rfl ?_ fun client _ => ?_
        · rw [account_goTo, account_onPeer_self, account_setBuffer_self, account_onPeer_self]
          exact registered
        · rw [account_goTo, account_onPeer_self, account_setBuffer_self, account_onPeer_self]
          refine told_control_true (fun none => pending ?_) (registered isOpen)
          exact (List.append_eq_nil_iff.mp none).2
      · cases step
        exact tells.closed known moved here rfl (.inr ⟨rfl, rfl⟩) rfl
    · cases step

/-- The `send` of the EPOLLOUT branch. When something is left, the send buffer is full. -/
theorem PolledServer.Tells.drain (tells : state.Tells poller listen_fd)
    (known : state.server.Known listen_fd) (here : state.server.place = .drain event ahead)
    (call : (state.sockets event.fd).drain poller (state.server.cached event.fd) input =
      some socket)
    (step : state.server.drainOne event ahead input = some after)
    (moved : MainStep listen_fd state.server input after) :
    ({ server := after, sockets := Function.update state.sockets event.fd socket } :
      PolledServer Byte).Tells poller listen_fd := by
  have registered := tells.registered event (by rw [here]; exact List.mem_cons_self)
  have told := tells.told event.fd
  rw [BufferServer.Writes, BufferServer.Reads, here] at told
  obtain ⟨called, sends, rfl⟩ := Option.map_eq_some_iff.mp call
  rcases send_cases sends with ⟨sent, rfl, most, rfl⟩ | ⟨errno, rfl, blocked⟩
  · replace step : (if _ then (if _ then some _ else some _) else none) = some after := step
    split at step
    · split at step
      · rename_i all
        cases step
        refine tells.handled known moved here rfl (.inl rfl) rfl ?_ fun _ beyond => ?_
        · rw [account_goTo, account_onPeer_self, account_setBuffer_self, account_onPeer_self,
            account_onPeer_self]
          exact registered
        · rw [account_goTo, account_onPeer_self, account_setBuffer_self, account_onPeer_self,
            account_onPeer_self, if_pos (congrArg MainInput.send all)]
          exact told_control_false rfl fun writes =>
            absurd (List.mem_map.mpr ⟨_, writes, rfl⟩) beyond
      · rename_i part
        cases step
        refine tells.handled known moved here rfl (.inl rfl) rfl ?_ fun client beyond => ?_
        · rw [account_goTo, account_setBuffer_self, account_onPeer_self, account_onPeer_self]
          exact registered
        · rw [account_goTo, account_setBuffer_self, account_onPeer_self, account_onPeer_self,
            if_neg fun same => part (MainInput.send.inj same)]
          obtain ⟨short, less⟩ : (state.sockets event.fd).sink.room <
              (state.server.cached event.fd).length ∧
                sent < (state.server.cached event.fd).length := by omega
          have cached : state.server.cached event.fd ≠ [] :=
            List.ne_nil_of_length_pos (Nat.zero_lt_of_lt less)
          have left := fun none => Nat.not_le_of_lt less (List.drop_eq_nil_iff.mp none)
          refine ClientSocket.Told.holding ?_ _
          refine (((((told client).put _).onPeer _).onPeer _).caches cached left).leaves ?_
            (fun _ => awaits_put short) ?_
          · exact Or.imp_right fun stopped => ⟨stopped.1, nofun⟩
          · exact fun writes => beyond (List.mem_map.mpr ⟨_, writes, rfl⟩)
    · cases step
  · replace step : (if _ then (if _ then some _ else some _) else none) = some after := step
    rw [if_neg nofun]
    split at step
    · split at step
      · rename_i again
        cases step
        refine tells.handled known moved here rfl (.inl rfl) rfl ?_ fun client beyond => ?_
        · rw [account_goTo, account_onPeer_self]
          exact registered
        · rw [account_goTo, account_onPeer_self]
          obtain ⟨full, rfl⟩ := blocked (again.elim id id)
          refine (ClientSocket.Told.onPeer ?_ _).holding _
          refine ((told client).put _).leaves (Or.imp_right fun stopped => ⟨stopped.1, nofun⟩)
            (fun cached => awaits_put ?_) fun writes => beyond (List.mem_map.mpr ⟨_, writes, rfl⟩)
          rw [full]
          exact List.length_pos_iff.mpr cached
      · cases step
        exact tells.closed known moved here rfl (.inl rfl) rfl
    · cases step

/-! ### Every step -/

section Main

variable {room : Nat} {sockets : Nat → ClientSocket Byte}

theorem PolledServer.Tells.epollWait (tells : state.Tells poller listen_fd)
    (here : state.server.place = .epoll_wait)
    (kernel : state.kernel poller room listen_fd input = some sockets)
    (step : state.server.epollWait input = some after) :
    ({ server := after, sockets := sockets } : PolledServer Byte).Tells poller listen_fd := by
  simp only [PolledServer.kernel, here] at kernel
  unfold BufferServer.epollWait at step
  split at step
  · dsimp only at kernel
    split at kernel
    · rename_i reports
      rw [if_pos (Bool.and_eq_true_iff.mp reports).1] at step
      cases kernel
      cases step
      exact tells.reported here reports
    · cases kernel
  · cases kernel
    cases step
    split
    · exact tells.move here .interrupted fun _ => rfl
    · exact tells.move here .failed fun _ => rfl
  · cases step

theorem PolledServer.Tells.acceptOne (tells : state.Tells poller listen_fd)
    (known : state.server.Known listen_fd)
    (balanced : state.server.Balanced List.Perm List.Subperm)
    (here : state.server.place = .accept ahead) (running : state.server.running = true)
    (kernel : state.kernel poller room listen_fd input = some sockets)
    (step : state.server.acceptOne ahead input = some after) :
    ({ server := after, sockets := sockets } : PolledServer Byte).Tells poller listen_fd := by
  simp only [PolledServer.kernel, here, running] at kernel
  unfold BufferServer.acceptOne at step
  split at step
  · split at step
    · cases step
    · rename_i fresh
      cases kernel
      cases step
      exact tells.accepted known balanced here (Bool.eq_false_iff.mpr fresh) room
  · cases kernel
    cases step
    exact tells.move here (.acceptEnds ahead) nofun
  · cases step

/-- The EPOLLOUT branch up to its `send`. -/
theorem PolledServer.Tells.writable (tells : state.Tells poller listen_fd)
    (known : state.server.Known listen_fd) (here : state.server.place = .epollout event ahead)
    (kernel : state.kernel poller room listen_fd input = some sockets)
    (moved : MainStep listen_fd state.server input (state.server.writable event ahead)) :
    ({ server := state.server.writable event ahead, sockets := sockets } :
      PolledServer Byte).Tells poller listen_fd := by
  simp only [PolledServer.kernel, here] at kernel
  unfold BufferServer.writable at moved ⊢
  by_cases masked : event.epollout = true
  · by_cases nothing : state.server.cached event.fd = []
    · rw [if_pos masked, if_pos nothing] at moved ⊢
      split at kernel
      · cases kernel
        exact tells.silences known here nothing moved (.inl rfl)
      · rename_i untouched
        cases kernel
        rw [← Function.update_eq_self event.fd state.sockets]
        refine tells.silences known here nothing moved (.inr (Bool.eq_false_iff.mpr ?_))
        exact fun registered => untouched ⟨masked, nothing, registered⟩
    · rw [if_pos masked, if_neg nothing]
      rw [if_neg fun all => nothing all.2.1] at kernel
      cases kernel
      exact tells.move here (.drain event ahead masked nothing) nofun
  · rw [if_neg masked]
    rw [if_neg fun all => masked all.1] at kernel
    cases kernel
    exact tells.move here (.unmasked event ahead (Bool.eq_false_iff.mpr masked)) nofun

/-- `main` leaves no client that is not told of. -/
theorem tells_main {next : PolledServer Byte} (tells : state.Tells poller listen_fd)
    (known : state.server.Known listen_fd)
    (balanced : state.server.Balanced List.Perm List.Subperm)
    (step : state.main poller room listen_fd input = some next) : next.Tells poller listen_fd := by
  obtain ⟨sockets, kernel, rest⟩ := Option.bind_eq_some_iff.mp step
  obtain ⟨server, moves, rfl⟩ := Option.map_eq_some_iff.mp rest
  have moved := main_cases moves
  have fresh := balanced.fresh
  cases here : state.server.place with
  | loop =>
    simp only [PolledServer.kernel, BufferServer.main, here] at kernel moves
    cases kernel
    cases moves
    split
    · exact tells.move here (.enter ‹_›) nofun
    · exact tells.move here (.stop (Bool.eq_false_iff.mpr ‹_›)) nofun
  | epoll_wait =>
    simp only [BufferServer.main, here] at moves
    exact tells.epollWait here kernel moves
  | events ahead =>
    simp only [PolledServer.kernel, BufferServer.main, here] at kernel moves
    cases kernel
    cases moves
    unfold BufferServer.nextEvent
    split
    · exact tells.move here .handled nofun
    · split
      · exact tells.move here (.listening _ _ ‹_›) nofun
      · exact tells.move here (.client _ _ ‹_›) nofun
  | accept ahead =>
    simp only [BufferServer.main, here] at moves
    split at moves
    · exact tells.acceptOne known balanced here ‹_› kernel moves
    · rename_i stopped
      simp only [PolledServer.kernel, here, Bool.eq_false_iff.mpr stopped] at kernel
      cases kernel
      cases moves
      exact tells.move here (.acceptEnds ahead) nofun
  | set_nonblocking fd ahead =>
    simp only [PolledServer.kernel, BufferServer.main, here] at kernel moves
    cases kernel
    rw [here] at fresh
    unfold BufferServer.setNonblocking at moves
    split at moves <;> cases moves
    · exact tells.move here (.nonblocking fd ahead) nofun
    · exact tells.refused known moved here rfl rfl (fresh fd rfl rfl)
  | register fd ahead =>
    simp only [PolledServer.kernel, BufferServer.main, here] at kernel moves
    rw [here] at fresh
    unfold BufferServer.registerClient at moves
    split at moves <;> cases moves <;> cases kernel
    · exact tells.registers known here (fresh fd rfl rfl) moved
    · refine tells.refused known moved here rfl rfl ?_
      rw [account_onPeer_self]
      exact fresh fd rfl rfl
  | recv event ahead =>
    simp only [PolledServer.kernel, BufferServer.main, here] at kernel moves
    split at kernel
    · rename_i running
      rw [if_pos running] at moves
      obtain ⟨socket, call, rfl⟩ := Option.map_eq_some_iff.mp kernel
      exact tells.recv known here call moves moved
    · rename_i stopped
      rw [if_neg stopped] at moves
      cases kernel
      cases moves
      exact tells.move here (.recvStops event ahead (Bool.eq_false_iff.mpr stopped)) nofun
  | echo event rest ahead =>
    simp only [PolledServer.kernel, BufferServer.main, here] at kernel moves
    split at kernel
    · rename_i sent
      rw [if_pos sent] at moves
      cases kernel
      cases moves
      exact tells.move here (sent ▸ .echoed event ahead) nofun
    · rename_i pending
      rw [if_neg pending] at moves
      obtain ⟨socket, call, rfl⟩ := Option.map_eq_some_iff.mp kernel
      exact tells.echo known here pending call moves moved
  | epollout event ahead =>
    simp only [BufferServer.main, here] at moves
    cases moves
    exact tells.writable known here kernel moved
  | drain event ahead =>
    simp only [PolledServer.kernel, BufferServer.main, here] at kernel moves
    obtain ⟨socket, call, rfl⟩ := Option.map_eq_some_iff.mp kernel
    exact tells.drain known here call moves moved
  | stopped =>
    simp only [BufferServer.main, here] at moves
    cases moves

theorem tells_step {next : PolledServer Byte} {label : PolledEvent Byte}
    (tells : state.Tells poller listen_fd) (known : state.server.Known listen_fd)
    (balanced : state.server.Balanced List.Perm List.Subperm)
    (step : state.step poller room listen_fd label = some next) : next.Tells poller listen_fd := by
  cases label with
  | main input => exact tells_main tells known balanced step
  | handle_sigint =>
    cases step
    refine ⟨fun fd client => ?_, tells.registered⟩
    exact (tells.told fd client).mono (Or.imp_right fun stopped => ⟨rfl, stopped.2⟩) .rfl
  | arrives fd bytes =>
    simp only [PolledServer.step] at step
    split at step
    · cases step
    · refine tells.happens (fun _ _ told => ?_) step
      exact told.happens rfl (fun _ => announced_arrives bytes) (fun _ => rfl) fun _ => .inr
  | ends fd =>
    simp only [PolledServer.step] at step
    refine tells.happens (fun _ _ told => ?_) step
    exact told.happens rfl (fun _ => announced_ends) (fun _ => rfl) fun _ => .inr
  | frees fd count => exact tells.happens (fun _ _ told => told.frees count) step
  | drops fd =>
    simp only [PolledServer.step, PolledServer.drops] at step
    split at step
    · rename_i dropped
      exact tells.happens (fun _ _ told => told.drops dropped.2.2) step
    · cases step

end Main

end Step

/-! ### Over a run -/

section Run

variable [DecidableEq Byte] {poller : Writability} {room listen_fd fd : Nat}
  {openFds : Nat → Bool} {state : PolledServer Byte}

theorem reachable_tells
    (reachable : Reachable (PolledServer.system Byte poller room listen_fd openFds) state) :
    state.Tells poller listen_fd := by
  refine reachable.invariant (PolledServer.Tells poller listen_fd) ?_ ?_
  · rintro _ rfl
    refine ⟨fun fd client => ?_, nofun⟩
    exact told_of_unregistered (decide_eq_false client) rfl nofun
  · intro state label next before tells _ step
    obtain ⟨known, balanced⟩ := reachable_isolated (reachable_polled before)
    exact tells_step tells known balanced step

/-- EPOLLOUT is asked for exactly while something is cached for a client. So the EPOLLOUT branch
finds the buffer empty only if the recv loop has just closed the connection. -/
theorem asked_iff_cached
    (reachable : Reachable (PolledServer.system Byte poller room listen_fd openFds) state) :
    (∀ fd ≠ listen_fd, state.server.cached fd ≠ [] ↔
      state.server.registered fd = true ∧ (state.sockets fd).asks = true) ∧
    ∀ event ahead, state.server.place = .epollout event ahead → event.epollout = true →
      state.server.cached event.fd = [] → state.server.openFds event.fd = false := by
  have tells := reachable_tells reachable
  refine ⟨fun fd client => (tells.told fd client).asked, fun event ahead here masked nothing => ?_⟩
  have listens := (reachable_listens (reachable_polled reachable)).2.2
  rw [here] at listens
  have told := tells.told event.fd fun same => listens (congrArg some same)
  refine Bool.eq_false_iff.mpr fun isOpen => told.offered ?_ isOpen nothing
  rw [BufferServer.Writes, here, ← masked]
  exact List.mem_cons_self

/-- A send buffer with room for two bytes is writable. -/
def twoFree : Writability where
  writable room := 2 ≤ room
  full := rfl
  mono more two := decide_eq_true (Nat.le_trans (of_decide_eq_true two) more)

/-- A send buffer with room for one byte fills up, and the second byte is cached. Then there is room
for a byte, of which `epoll_wait` says nothing, and for one more. -/
def fullRun : List (PolledEvent Nat) :=
  [.main .none, .main (.epoll_wait [⟨3, false⟩]), .main .none, .main (.accept 4),
    .main .succeeds, .main .succeeds, .main (.fails EAGAIN), .main .none, .main .none,
    .arrives 4 [1, 2], .main (.epoll_wait [⟨4, false⟩]), .main .none, .main (.recv [1, 2]),
    .main (.send 1), .main (.fails EAGAIN), .main (.fails EAGAIN), .main .none, .main .none,
    .main .none, .frees 4 1, .frees 4 1]

/-- The client is done when EPOLLOUT is reported. -/
theorem asked_iff_cached_closed : ∃ state : PolledServer Nat,
    state.server.place = .epollout ⟨4, true⟩ [] ∧ state.server.openFds 4 = false := by
  have run : ∃ state, Reachable (PolledServer.system Nat twoFree 1 3 fun _ => false) state ∧
      state.server.place = .epollout ⟨4, true⟩ [] ∧ state.server.cached 4 = [] :=
    exists_of_replay rfl (fullRun ++
      [.ends 4, .main (.epoll_wait [⟨4, true⟩]), .main .none, .main (.recv [])]) (by decide)
  obtain ⟨state, reachable, here, nothing⟩ := run
  exact ⟨state, here, (asked_iff_cached reachable).2 _ _ here rfl nothing⟩

/-- Where `main` waits, a client whose send buffer is writable is on the ready list if something is
cached for it. -/
theorem ready_of_cached
    (reachable : Reachable (PolledServer.system Byte poller room listen_fd openFds) state)
    (waits : state.server.place = .epoll_wait) (cached : state.server.cached fd ≠ [])
    (writable : poller.writable (state.sockets fd).sink.room = true) :
    state.server.registered fd = true ∧ (state.sockets fd).source.ready = true ∧
      (state.sockets fd).writable poller = true := by
  have balanced := (reachable_isolated (reachable_polled reachable)).2
  have client : fd ≠ listen_fd := fun same => cached <| by
    have unknown : (state.server.account fd).peer = none :=
      same ▸ (reachable_listens (reachable_polled reachable)).2.1
    exact congrArg (Option.getD · []) ((balanced.fds fd).unknown unknown)
  have told := (reachable_tells reachable).told fd client
  obtain ⟨registered, asks⟩ := told.asked.mp cached
  refine ⟨registered, ?_, Bool.and_eq_true_iff.mpr ⟨asks, writable⟩⟩
  rcases told.output cached with ready | writes | awaits
  · exact ready
  · rw [BufferServer.Writes, waits] at writes
    cases writes
  · cases writable.symm.trans awaits.1

/-- `epoll_wait` never waits while something is cached for a client whose send buffer the poller
takes for writable, with however much room that is. -/
theorem no_output_stranded
    (reachable : Reachable (PolledServer.system Byte poller room listen_fd openFds) state)
    (waits : state.server.place = .epoll_wait) (cached : state.server.cached fd ≠ [])
    (writable : poller.writable (state.sockets fd).sink.room = true) :
    state.reports poller listen_fd [⟨fd, true⟩] = true := by
  obtain ⟨registered, ready, offered⟩ := ready_of_cached reachable waits cached writable
  have reports : state.reports poller listen_fd [⟨fd, (state.sockets fd).writable poller⟩] = true :=
    reports_ready registered ready (Bool.or_eq_true_iff.mpr (.inr offered))
  rwa [offered] at reports

theorem no_output_stranded_full : ∃ state : PolledServer Nat,
    state.server.cached 4 = [2] ∧ state.reports twoFree 3 [⟨4, true⟩] = true := by
  have run : ∃ state, Reachable (PolledServer.system Nat twoFree 1 3 fun _ => false) state ∧
      state.server.place = .epoll_wait ∧ state.server.cached 4 = [2] ∧
      twoFree.writable (state.sockets 4).sink.room = true :=
    exists_of_replay rfl fullRun (by decide)
  obtain ⟨state, reachable, waits, cached, writable⟩ := run
  exact ⟨state, cached, no_output_stranded reachable waits (by simp [cached]) writable⟩

/-- When `epoll_wait` has nothing to report of a client, all that has come from the client has been
received; and if its send buffer is writable, all that has been received has been sent back. -/
theorem echoed_at_rest
    (reachable : Reachable (PolledServer.system Byte poller room listen_fd openFds) state)
    (waits : state.server.place = .epoll_wait) (client : fd ≠ listen_fd)
    (registered : state.server.registered fd = true)
    (quiet : ∀ epollout, state.reports poller listen_fd [⟨fd, epollout⟩] = false) :
    (state.sockets fd).source.pending = [] ∧ (state.sockets fd).source.ended = false ∧
      (poller.writable (state.sockets fd).sink.room = true →
        ∃ peer, state.server.latest fd = some peer ∧ peer.accepted.Perm peer.received) := by
  obtain ⟨known, balanced⟩ := reachable_isolated (reachable_polled reachable)
  have told := (reachable_tells reachable).told fd client
  have unready (reportable : (state.sockets fd).reportable poller = true) :
      (state.sockets fd).source.ready ≠ true := fun ready => by
    cases (quiet _).symm.trans (reports_ready registered ready reportable)
  have nothing : (state.sockets fd).source.hasInput = false := by
    refine Bool.eq_false_iff.mpr fun input => unready (Bool.or_eq_true_iff.mpr (.inl input)) ?_
    refine told.input registered ?_ input
    rintro (reading | stopped)
    · rw [waits] at reading
      cases reading
    · exact stopped.2 waits
  rw [Source.hasInput, Bool.or_eq_false_iff, Bool.not_eq_false', List.isEmpty_iff] at nothing
  refine ⟨nothing.1, nothing.2, fun writable => ?_⟩
  have sent : state.server.cached fd = [] := by
    by_contra cached
    obtain ⟨-, ready, offered⟩ := ready_of_cached reachable waits cached writable
    exact unready (Bool.or_eq_true_iff.mpr (.inr offered)) ready
  obtain ⟨isOpen, connected⟩ := known.registered fd registered
  obtain ⟨peer, latest⟩ := Option.isSome_iff_exists.mp (connected.resolve_left client)
  have balance := (balanced.fds fd).whole isOpen latest
  have idle : (state.server.account fd).inflight = [] := by
    show state.server.place.inflight fd = []
    rw [waits]
    rfl
  rw [idle, show (state.server.account fd).cached = [] from sent] at balance
  exact ⟨peer, latest, List.append_nil peer.accepted ▸ balance⟩

/-- EPOLLOUT is reported, what was cached is sent, and the send buffer becomes writable again. -/
theorem echoed_at_rest_full : ∃ state : PolledServer Nat, ∃ peer,
    state.server.latest 4 = some peer ∧ peer.received = [1, 2] ∧
      peer.accepted.Perm peer.received := by
  have run : ∃ state, Reachable (PolledServer.system Nat twoFree 1 3 fun _ => false) state ∧
      state.server.place = .epoll_wait ∧ state.server.registered 4 = true ∧
      twoFree.writable (state.sockets 4).sink.room = true ∧
      (∀ epollout, state.reports twoFree 3 [⟨4, epollout⟩] = false) ∧
      (state.server.latest 4).map Peer.received = some [1, 2] :=
    exists_of_replay rfl (fullRun ++
      [.main (.epoll_wait [⟨4, true⟩]), .main .none, .main (.fails EAGAIN), .main .none,
        .main (.send 1), .main .none, .main .none, .frees 4 1]) (by decide)
  obtain ⟨state, reachable, waits, registered, writable, quiet, received⟩ := run
  obtain ⟨-, -, echoed⟩ := echoed_at_rest reachable waits (by decide) registered quiet
  obtain ⟨peer, latest, accepted⟩ := echoed writable
  rw [latest] at received
  exact ⟨state, peer, latest, Option.some.inj received, accepted⟩

end Run

end Told

end MultiReactor
