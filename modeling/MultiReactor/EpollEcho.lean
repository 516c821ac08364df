/-
This file proves what the clients of the three epoll servers get: whatever comes
in and whatever fails, what is sent on a connection comes out of what was
received on it. The level-triggered servers close a connection at most once and
do not use it after. In the edge-triggered one a `send` that fails for good
closes the connection but does not end its recv loop, so `recv` fails on the
closed fd and the fd is closed once more; nothing can have opened it between.
-/

import MultiReactor.EpollClients

namespace MultiReactor

open Transition

section Server

variable {Byte : Type}

/-! ### What every client gets -/

/-- What has been sent on a connection, and what is left of `buffer`, comes out of what was received
in the same order, and is all of it as long as no `send` has failed. -/
structure Echoed (calls : List (Relay.Call Byte Nat)) (rest : List Byte) : Prop where
  ordered : (Relay.accepted calls ++ rest).Sublist (Relay.received calls)
  faithful : (∀ errno, .writeFails errno ∉ calls) →
    Relay.accepted calls ++ rest = Relay.received calls

/-- The connection has been closed with the last call on it, and not before. -/
def ClosedLast (calls : List (Relay.Call Byte Nat)) : Prop :=
  .close ∈ calls ∧ .close ∉ calls.dropLast

/-- The connection has been closed after a `send` that failed for good, and its fd once more after a
`recv` that failed with EBADF. -/
def ClosedTwice (calls : List (Relay.Call Byte Nat)) : Prop :=
  ∃ start errno, wouldBlock errno = false ∧ .close ∉ start ∧
    calls = start ++ [.writeFails errno, .control, .close] ++ closedAgain Byte

section Records

variable {mode : EpollMode} {running began : Bool} {socket : Socket Byte}
  {stage : ClientStage Byte} {calls : List (Relay.Call Byte Nat)}

theorem echoed_of_run {place : Relay.Place Byte}
    (run : Relay.Run nonblocking .fresh calls place) : Echoed calls place.rest where
  ordered := run.ordered rfl
  faithful := run.faithful rfl

theorem closedLast_of_run (run : Relay.Run nonblocking .fresh calls .closed) : ClosedLast calls :=
  ⟨(run.close_mem_iff fun same => by cases same).mpr rfl, run.close_last fun same => by cases same⟩

theorem ClientStage.relay_rest (stage : ClientStage Byte) : stage.relay.rest = stage.rest := by
  cases stage with
  | held place => cases place with
    | echo rest => exact Relay.rest_holding rest
    | _ => rfl
  | _ => rfl

theorem Finished.echoed (finished : Finished mode running calls) : Echoed calls [] := by
  cases finished with
  | once run => exact echoed_of_run run
  | twice before _ broken again =>
    obtain ⟨ordered, faithful⟩ := echoed_of_run broken.1
    have accepted : Relay.accepted calls = Relay.accepted before := by
      rw [again, Relay.accepted_append]
      exact List.append_nil _
    have received : Relay.received calls = Relay.received before := by
      rw [again, Relay.received_append]
      exact List.append_nil _
    refine ⟨?_, fun succeeds => ?_⟩
    · rw [accepted, received]
      exact ordered
    · rw [accepted, received]
      exact faithful fun errno failed => succeeds errno (again ▸ List.mem_append_left _ failed)

theorem Socket.Fits.echoed (fits : socket.Fits mode running began stage)
    (known : socket.calls = some calls) : Echoed calls stage.rest := by
  cases fits with
  | unknown _ _ none => cases none.symm.trans known
  | served _ _ served =>
    obtain rfl := Option.some.inj (served.known.symm.trans known)
    exact stage.relay_rest ▸ echoed_of_run served.run
  | finished _ gone finished =>
    obtain rfl := Option.some.inj (gone.known.symm.trans known)
    exact finished.echoed
  | broken _ gone _ broken =>
    obtain rfl := Option.some.inj (gone.known.symm.trans known)
    exact echoed_of_run broken.1

/-- What a connection the server is done with has come to. -/
theorem Finished.closed (finished : Finished mode running calls) :
    (ClosedLast calls ∧ (mode.edge = true → running = true →
      ∀ errno, .writeFails errno ∈ calls → wouldBlock errno = true)) ∨
    (mode.edge = true ∧ ClosedTwice calls) := by
  cases finished with
  | once run sound => exact .inl ⟨closedLast_of_run run, sound⟩
  | twice before edge broken again =>
    obtain ⟨run, start, errno, hard, same⟩ := broken
    have last := (closedLast_of_run run).2
    refine .inr ⟨edge, start, errno, hard, fun closed => last ?_, same ▸ again⟩
    rw [same, List.dropLast_append_of_ne_nil (by simp)]
    exact List.mem_append_left _ closed

/-- A client the server is not done with has not been closed. -/
theorem Socket.Served.not_closed (served : socket.Served began calls stage) : .close ∉ calls := by
  rw [served.run.close_mem_iff fun same => by cases same]
  cases stage with
  | held place => cases place with
    | echo rest => cases rest <;> exact fun same => by cases same
    | _ => exact fun same => by cases same
  | _ => exact fun same => by cases same

end Records

section Results

variable {mode : EpollMode} {listen_fd : Nat} {openFds : Nat → Bool} {waiting : Nat}
  {server : EpollServer Byte}

theorem EpollServer.Polls.fits_of_known (polls : server.Polls mode listen_fd openFds) {fd : Nat}
    {calls : List (Relay.Call Byte Nat)} (known : (server.sockets fd).calls = some calls) :
    (server.sockets fd).Fits mode server.running (openFds fd) (server.place.stage fd) :=
  polls.fits fd fun same => by cases polls.unserved.symm.trans (same ▸ known)

/-- Whatever comes in and whatever fails, the level-triggered servers echo every client in order,
and all of what they received as long as no `send` has failed. An fd that is open is that of a
connection that has not been closed, and a connection is closed at most once and not used after. -/
theorem echo_lt (level : mode.edge = false)
    (reachable : Reachable (EpollServer.system Byte mode listen_fd openFds waiting) server) :
    (∀ fd calls, (server.sockets fd).calls = some calls →
      Echoed calls (server.place.stage fd).rest ∧
        if (server.sockets fd).isOpen then .close ∉ calls else ClosedLast calls) ∧
    ∀ calls ∈ server.past, Echoed calls [] ∧ ClosedLast calls := by
  have polls := reachable_polls reachable
  have last {calls : List (Relay.Call Byte Nat)}
      (finished : Finished mode server.running calls) : ClosedLast calls := by
    rcases finished.closed with once | twice
    · exact once.1
    · cases level.symm.trans twice.1
  refine ⟨fun fd calls known => ⟨(polls.fits_of_known known).echoed known, ?_⟩,
    fun calls known => ⟨(polls.past calls known).echoed, last (polls.past calls known)⟩⟩
  have fits := polls.fits_of_known known
  generalize server.place.stage fd = stage at fits
  cases fits with
  | unknown _ _ none => cases none.symm.trans known
  | served _ _ served =>
    obtain rfl := Option.some.inj (served.known.symm.trans known)
    rw [if_pos served.isOpen]
    exact served.not_closed
  | finished _ gone finished =>
    obtain rfl := Option.some.inj (gone.known.symm.trans known)
    rw [if_neg (by rw [gone.isOpen]; exact Bool.false_ne_true)]
    exact last finished
  | broken _ _ edge => cases level.symm.trans edge

/-- A client sends two bytes, which are echoed, and leaves. -/
def levelRun : List (PollEvent Nat) :=
  [.connects, .main .none, .main (.epoll_wait [3]), .main .none, .main (.accept 5 [1, 2] false),
    .main .succeeds, .main .succeeds, .main .none, .main .none, .main (.epoll_wait [5]),
    .main .none, .main (.recv 2), .main (.send 2), .main .none, .ends 5, .main .none, .main .none,
    .main (.epoll_wait [5]), .main .none, .main (.recv 0)]

theorem echo_lt_served : ∃ server : EpollServer Nat, ∃ calls,
    (server.sockets 5).calls = some calls ∧
      Relay.accepted calls ++ (server.place.stage 5).rest = Relay.received calls ∧
      ClosedLast calls := by
  have run : ∃ server, Reachable (EpollServer.system Nat epoll_server_lt 3 (fun _ => false) 0)
      server ∧ (server.sockets 5).isOpen = false ∧ (server.sockets 5).calls =
        some [.control, .read [1, 2], .write [1, 2], .read [], .control, .close] :=
    exists_of_replay rfl levelRun (by decide)
  obtain ⟨server, reachable, closed, known⟩ := run
  have echo := (echo_lt rfl reachable).1 5 _ known
  rw [closed] at echo
  exact ⟨server, _, known, echo.1.faithful fun errno failed => by simp at failed, echo.2⟩

/-- The edge-triggered server echoes as the others do. A connection that is neither open nor in hand
has been closed with the last call on it, or it has been closed twice; as long as the server runs it
is the second if and only if a `send` on it has failed for good. -/
theorem echo_et (reachable : Reachable
      (EpollServer.system Byte epoll_server_et listen_fd openFds waiting) server) :
    (∀ fd calls, (server.sockets fd).calls = some calls →
      Echoed calls (server.place.stage fd).rest) ∧
    ∀ calls, (calls ∈ server.past ∨ ∃ fd, (server.sockets fd).calls = some calls ∧
        (server.sockets fd).isOpen = false ∧ server.place.held ≠ some fd) →
      Echoed calls [] ∧ (ClosedLast calls ∨ ClosedTwice calls) ∧
        (server.running = true → (ClosedTwice calls ↔
          ∃ errno, wouldBlock errno = false ∧ .writeFails errno ∈ calls)) := by
  have polls := reachable_polls reachable
  refine ⟨fun fd calls known => (polls.fits_of_known known).echoed known, fun calls done => ?_⟩
  have finished : Finished epoll_server_et server.running calls := by
    rcases done with past | ⟨fd, known, closed, apart⟩
    · exact polls.past calls past
    · have fits := polls.fits_of_known known
      rcases stage_of_apart apart with idle | ahead
      · rw [idle] at fits
        exact fits.past closed known
      · rw [ahead] at fits
        cases closed.symm.trans fits.ahead_open
  refine ⟨finished.echoed, finished.closed.imp And.left And.right, fun running => ?_⟩
  rcases finished.closed with ⟨⟨_, last⟩, sound⟩ | ⟨_, twice⟩
  · refine ⟨fun ⟨start, errno, hard, _, same⟩ => ⟨errno, hard, ?_⟩, fun ⟨errno, hard, failed⟩ => ?_⟩
    · rw [same]
      simp
    · cases hard.symm.trans (sound rfl running errno failed)
  · obtain ⟨start, errno, hard, fresh, same⟩ := twice
    refine ⟨fun _ => ⟨errno, hard, ?_⟩, fun _ => ⟨start, errno, hard, fresh, same⟩⟩
    rw [same]
    simp

/-- The `send` to a client fails with ECONNRESET, the `recv` after it with EBADF. -/
def edgeRun : List (PollEvent Nat) :=
  [.connects, .main .none, .main (.epoll_wait [3]), .main .none, .main (.accept 5 [1, 2] false),
    .main .succeeds, .main .succeeds, .main (.fails EAGAIN), .main .none, .main .none,
    .main (.epoll_wait [5]), .main .none, .main (.recv 2), .main (.fails ECONNRESET),
    .main (.fails EBADF)]

theorem echo_et_twice : ∃ server : EpollServer Nat, ∃ calls,
    (server.sockets 5).calls = some calls ∧ server.running = true ∧ ClosedTwice calls := by
  have run : ∃ server, Reachable (EpollServer.system Nat epoll_server_et 3 (fun _ => false) 0)
      server ∧ server.running = true ∧ (server.sockets 5).isOpen = false ∧
      server.place.held = none ∧ (server.sockets 5).calls =
        some [.control, .read [1, 2], .writeFails ECONNRESET, .control, .close, .readFails EBADF,
          .control, .close] :=
    exists_of_replay rfl edgeRun (by decide)
  obtain ⟨server, reachable, running, closed, idle, known⟩ := run
  have echo := (echo_et reachable).2 _ (.inr ⟨5, known, closed, by rw [idle]; simp⟩)
  exact ⟨server, _, known, running, (echo.2.2 running).mpr ⟨ECONNRESET, rfl, by simp⟩⟩

/-! ### No client is forgotten -/

/-- What `epoll_server_skel` has of its clients: none is registered, and the one in hand is about to
be closed. -/
structure EpollServer.TurnsAway (listen_fd : Nat) (server : EpollServer Byte) : Prop where
  registered : ∀ fd ≠ listen_fd, (server.sockets fd).registered = false
  client : ∀ fd place ahead, server.place = .client fd place ahead → place = .refuse

theorem setSocket_registered {fd other : Nat} {socket : Socket Byte}
    (before : (server.sockets other).registered = false)
    (now : socket.registered = false) :
    ((server.setSocket fd socket).sockets other).registered = false := by
  show (Function.update server.sockets fd socket other).registered = false
  by_cases same : other = fd
  · rw [same, Function.update_self]
    exact now
  · rw [Function.update_of_ne same]
    exact before

theorem turnsAway_step {after : EpollServer Byte} (skel : mode.serves = false)
    (away : server.TurnsAway listen_fd) {event : PollEvent Byte}
    (step : server.step mode listen_fd event = some after) : after.TurnsAway listen_fd := by
  have comesIn {fd : Nat} {happens : Readiness.Source Byte → Readiness.Source Byte}
      (step : server.comesIn fd happens = some after) : after.TurnsAway listen_fd := by
    unfold EpollServer.comesIn at step
    split at step
    · rename_i connected
      cases step
      refine ⟨fun other different => ?_, away.client⟩
      show (Function.update server.sockets fd _ other).registered = false
      by_cases same : other = fd
      · rw [same, Function.update_self]
        exact same ▸ away.registered other different
      · rw [Function.update_of_ne same]
        exact away.registered other different
    · cases step
  cases event with
  | main input =>
    replace step : server.main mode listen_fd input = some after := step
    unfold EpollServer.main at step
    split at step
    · cases step
      split
      · exact ⟨away.registered, fun _ _ _ same => by cases same⟩
      · exact ⟨fun fd other => setSocket_registered (away.registered fd other) rfl,
          fun _ _ _ same => by cases same⟩
    · unfold EpollServer.epollWait at step
      split at step
      · rename_i fds
        split at step
        · cases step
          refine ⟨fun fd other => ?_, fun _ _ _ same => by cases same⟩
          have reported : ∃ happens, (server.reported mode listen_fd fds).sockets fd =
              (server.sockets fd).onSource happens := reported_socket server fds fd
          obtain ⟨happens, same⟩ := reported
          exact (congrArg Socket.registered same).trans (away.registered fd other)
        · cases step
      · cases step
        split
        · exact ⟨away.registered, fun _ _ _ same => by cases same⟩
        · exact ⟨fun fd other => setSocket_registered (away.registered fd other) rfl,
            fun _ _ _ same => by cases same⟩
      · cases step
    · rename_i ahead _
      cases step
      refine ⟨?_, ?_⟩
      · cases ahead <;> exact away.registered
      · intro held place rest same
        cases ahead with
        | nil => cases same
        | cons fd rest =>
          unfold EpollServer.handleNext at same
          rw [skel] at same
          simp only [EpollServer.goTo] at same
          split at same <;> cases same
    · rename_i ahead _
      split at step
      · cases step
        exact ⟨away.registered, fun _ _ _ same => by cases same⟩
      · unfold EpollServer.acceptOne at step
        split at step
        · split at step
          · cases step
            refine ⟨fun fd other => setSocket_registered (away.registered fd other) rfl,
              fun _ _ _ same => ?_⟩
            simp only [EpollServer.goTo, skel] at same
            cases same
            rfl
          · cases step
        · split at step
          · cases step
            exact ⟨away.registered, fun _ _ _ same => by cases same⟩
          · cases step
        · cases step
    · rename_i fd place ahead here
      obtain rfl := away.client fd place ahead here
      obtain ⟨result, moved, rfl⟩ := Option.map_eq_some_iff.mp step
      cases moved
      refine ⟨fun other different => setSocket_registered (away.registered other different) rfl,
        fun _ _ _ same => ?_⟩
      simp only [EpollServer.handled, EpollServer.goTo, EpollMode.around] at same
      split at same <;> cases same
    · cases step
  | handle_sigint =>
    cases step
    exact ⟨away.registered, away.client⟩
  | connects =>
    cases step
    exact ⟨away.registered, away.client⟩
  | arrives fd bytes => exact comesIn step
  | ends fd => exact comesIn step

/-- Whatever fails, no client is forgotten: as long as `main` has none in hand, the fds that are
open besides the listening socket are those the process began with and those the poller watches,
and `epoll_server_skel` has left no client open. -/
theorem no_client_forgotten
    (reachable : Reachable (EpollServer.system Byte mode listen_fd openFds waiting) server)
    (idle : server.place.held = none) (fd : Nat) (other : fd ≠ listen_fd) :
    (server.sockets fd).isOpen = (openFds fd || (server.sockets fd).registered) ∧
      (mode.serves = false → (server.sockets fd).isOpen = openFds fd) := by
  have fits := (reachable_polls reachable).fits fd other
  have watched : (server.place.stage fd).isWatched = true := by
    rcases stage_of_apart (fun held => by cases idle.symm.trans held) with same | same <;> rw [same]
    · rfl
    · rfl
  have same : (server.sockets fd).isOpen = (openFds fd || (server.sockets fd).registered) := by
    generalize server.place.stage fd = stage at fits watched
    cases fits with
    | unknown isOpen registered => rw [isOpen, registered, Bool.or_false]
    | served _ _ served => rw [served.isOpen, served.registered, watched, Bool.or_true]
    | finished _ gone => rw [gone.isOpen, gone.fresh, gone.registered, Bool.or_false]
    | broken _ gone => rw [gone.isOpen, gone.fresh, gone.registered, Bool.or_false]
  refine ⟨same, fun skel => ?_⟩
  have away : server.TurnsAway listen_fd := by
    refine reachable.invariant (EpollServer.TurnsAway listen_fd) ?_ ?_
    · rintro _ rfl
      exact ⟨fun fd other => decide_eq_false other, fun _ _ _ same => by cases same⟩
    · intro server event after _ away _ step
      exact turnsAway_step skel away step
  rw [same, away.registered fd other, Bool.or_false]

/-- `epoll_server_skel` accepts a client. -/
def skelRun : List (PollEvent Nat) :=
  [.connects, .main .none, .main (.epoll_wait [3]), .main .none, .main (.accept 5 [] false),
    .main .none]

theorem no_client_forgotten_skel : ∃ server : EpollServer Nat,
    (server.sockets 5).calls = some [.close] ∧ (server.sockets 5).isOpen = false := by
  have run : ∃ server, Reachable (EpollServer.system Nat epoll_server_skel 3 (fun _ => false) 0)
      server ∧ server.place.held = none ∧ (server.sockets 5).calls = some [.close] :=
    exists_of_replay rfl skelRun (by decide)
  obtain ⟨server, reachable, idle, known⟩ := run
  exact ⟨server, known, (no_client_forgotten reachable idle 5 (by decide)).2 rfl⟩

end Results

end Server

end MultiReactor
