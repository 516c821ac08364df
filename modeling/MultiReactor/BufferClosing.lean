/-
This file proves when the buffered echo server is done with a connection once it
has closed it. A `break` of the echo loop leads back to the recv loop, and a
`break` of the recv loop to the EPOLLOUT branch, whatever has been closed
before. So a connection is closed once, and no call is made on its fd after
that, in every run in which the recv loop closes connections only for events
without EPOLLOUT, and finds `running` cleared after the echo loop has closed one.
-/

import MultiReactor.BufferOrder

namespace MultiReactor

open Transition

section Closing

variable {Byte : Type}

/-! ### The calls on one fd -/

/-- No call has been made after `close`. -/
def Peer.ClosedOnce (peer : Peer Byte) : Prop :=
  Syscall.close ∉ peer.calls.dropLast

instance (peer : Peer Byte) : Decidable peer.ClosedOnce :=
  inferInstanceAs (Decidable (_ ∉ _))

/-- The fd is open and no connection of it has been closed. -/
structure Account.Live (account : Account Byte) : Prop where
  isOpen : account.isOpen = true
  peer : ∀ peer, account.peer = some peer → Syscall.close ∉ peer.calls

/-- While the fd is open its connection has not been closed, and it has not been used after. -/
structure Account.Once (account : Account Byte) : Prop where
  live : account.isOpen = true → account.Live
  once : ∀ peer, account.peer = some peer → peer.ClosedOnce

section Account

variable {account : Account Byte} (live : account.Live)
include live

theorem Account.Live.once : account.Once :=
  ⟨fun _ => live, fun peer known closed => live.peer peer known (List.dropLast_subset _ closed)⟩

/-- Something happens on the connection, and it is not closed by it. -/
theorem Account.Live.onPeer {happens : Peer Byte → Peer Byte}
    (stays : ∀ peer, Syscall.close ∉ peer.calls → Syscall.close ∉ (happens peer).calls) :
    (account.onPeer happens).Live where
  isOpen := live.isOpen
  peer changed known := by
    obtain ⟨peer, before, rfl⟩ := Option.map_eq_some_iff.mp known
    exact stays peer (live.peer peer before)

theorem Account.Live.issue (calls : List Syscall) (others : Syscall.close ∉ calls) :
    (account.onPeer (Peer.issue calls)).Live :=
  live.onPeer fun _ quiet closed => (List.mem_append.mp closed).elim quiet others

theorem Account.Live.receive (bytes : List Byte) : (account.onPeer (Peer.receive bytes)).Live :=
  live.onPeer fun _ quiet => quiet

theorem Account.Live.accept (bytes : List Byte) : (account.onPeer (Peer.accept bytes)).Live :=
  live.onPeer fun _ quiet => quiet

theorem Account.Live.setBuffer (buffer : Option (List Byte)) : (account.setBuffer buffer).Live :=
  ⟨live.isOpen, live.peer⟩

theorem Account.Live.holding (inflight : List Byte) : (account.holding inflight).Live :=
  ⟨live.isOpen, live.peer⟩

theorem Account.Live.register : account.register.Live :=
  ⟨live.isOpen, (live.issue [.epoll_ctl] (by decide)).peer⟩

/-- An open connection is closed. -/
theorem Account.Live.close (inflight : List Byte) : (account.close.holding inflight).Once where
  live isOpen := by cases isOpen
  once changed known := by
    obtain ⟨peer, before, rfl⟩ := Option.map_eq_some_iff.mp known
    show Syscall.close ∉ (peer.calls ++ [Syscall.close]).dropLast
    rw [List.dropLast_concat]
    exact live.peer peer before

/-- `closeClient`. -/
theorem Account.Live.closeClient (inflight : List Byte) :
    (((account.onPeer (Peer.issue [.epoll_ctl])).setBuffer none).close.holding inflight).Once :=
  ((live.issue _ (by decide)).setBuffer none).close inflight

end Account

/-! ### The events -/

section Step

variable {listen_fd fd : Nat} {server after : BufferServer Byte} {input : MainInput Byte}

/-- The client that is handled is open, but at the head of the recv loop and at the EPOLLOUT branch,
where it may be closed if the event lacks EPOLLOUT. -/
def BufferServer.Handles (server : BufferServer Byte) : MainPlace Byte → Prop
  | .set_nonblocking fd _ | .register fd _ => server.openFds fd = true
  | .echo event _ _ | .drain event _ => server.openFds event.fd = true
  | .recv event _ | .epollout event _ => server.openFds event.fd = true ∨ event.epollout = false
  | _ => True

/-- Every connection is closed once, and so were those whose numbers have been accepted again. -/
structure BufferServer.Closes (server : BufferServer Byte) : Prop where
  fds : ∀ fd, (server.account fd).Once
  past : ∀ peer ∈ server.past, peer.ClosedOnce
  place : server.Handles server.place

/-- Where the recv loop closes a connection, the event has no EPOLLOUT, and where it goes on with
`running` set, the connection has not been closed. -/
def BufferServer.finishes (server : BufferServer Byte) (input : MainInput Byte) :
    MainPlace Byte → Bool
  | .recv event _ => server.running = true →
    server.openFds event.fd = true ∧ (input.closes = true → event.epollout = false)
  | .echo event rest _ => rest ≠ [] → input.closes = true → event.epollout = false
  | _ => true

theorem closes_listening (openFds : Nat → Bool) :
    (BufferServer.listening listen_fd openFds : BufferServer Byte).Closes where
  fds _ := ⟨fun isOpen => ⟨isOpen, fun _ known => by cases known⟩, fun _ known => by cases known⟩
  past _ known := by cases known
  place := trivial

/-- A test makes no call. -/
theorem BufferServer.Closes.move {old place : MainPlace Byte} (known : server.Known listen_fd)
    (balanced : server.Balanced List.Perm List.Subperm) (closes : server.Closes)
    (stands : server.place = old) (moved : MainMove listen_fd server old place) :
    (server.goTo place).Closes := by
  have accounts := move_account (stands ▸ moved)
  refine ⟨fun fd => ?_, closes.past, ?_⟩
  · rw [accounts]
    exact closes.fds fd
  · have before := closes.place
    rw [stands] at before
    cases moved with
    | client event rest other =>
      have ahead := known.ahead
      rw [stands] at ahead
      exact .inl (ahead event (.head _)).1
    | nonblocking | recvStops => exact before
    | echoed event rest => exact .inl before
    | drain event rest masked pending =>
      refine Bool.of_not_eq_false fun closed => pending ?_
      have none := ((balanced.fds event.fd).idle closed).1
      exact congrArg (Option.getD · []) none
    | _ => trivial

theorem BufferServer.Closes.accepted {ahead : List EpollEvent} (closes : server.Closes)
    (place : server.place = .accept ahead) :
    ((server.newClient fd).goTo (.set_nonblocking fd ahead)).Closes := by
  refine ⟨fun other => ?_, fun peer known => ?_, Function.update_self ..⟩
  · by_cases same : other = fd
    · rw [same, account_goTo, account_newClient_self]
      have new : (server.account fd).newClient.Live :=
        ⟨rfl, fun peer known => by cases Option.some.inj known; exact List.not_mem_nil⟩
      exact (new.holding _).once
    · rw [accepted_account_other place same]
      exact closes.fds other
  · rcases List.mem_append.mp known with before | latest
    · exact closes.past peer before
    · exact (closes.fds fd).once peer (Option.mem_toList.mp latest)

/-- What is called for the client that is handled is all that is called. -/
theorem BufferServer.Closes.handled {old : MainPlace Byte} (closes : server.Closes)
    (moved : MainStep listen_fd server input after) (place : server.place = old)
    (client : old.client = some fd)
    (next : after.place.client = none ∨ after.place.client = some fd ∧ after.place.fresh = false)
    (past : after.past = server.past) (here : (after.account fd).Once)
    (stands : after.Handles after.place) : after.Closes := by
  refine ⟨fun other => ?_, fun peer known => closes.past peer (past ▸ known), stands⟩
  by_cases same : other = fd
  · rw [same]
    exact here
  · rw [handled_account_other moved place client next same]
    exact closes.fds other

/-- The connections keep being closed once, as long as the recv loop finishes what it closes. -/
theorem closes_step (known : server.Known listen_fd)
    (balanced : server.Balanced List.Perm List.Subperm) (closes : server.Closes)
    (finishes : server.finishes input server.place = true)
    (moved : MainStep listen_fd server input after) : after.Closes := by
  have handled {fd : Nat} {old : MainPlace Byte} :=
    @BufferServer.Closes.handled _ _ fd _ _ _ old closes moved
  have live {fd : Nat} (isOpen : server.openFds fd = true) : (server.account fd).Live :=
    (closes.fds fd).live isOpen
  have stands {old : MainPlace Byte} (place : server.place = old) : server.Handles old :=
    place ▸ closes.place
  have recv {event : EpollEvent} {rest : List EpollEvent} (place : server.place = .recv event rest)
      (running : server.running = true) : server.openFds event.fd = true ∧
        (input.closes = true → event.epollout = false) := by
    rw [place] at finishes
    exact of_decide_eq_true finishes running
  cases moved with
  | move _ place moved => exact closes.move known balanced rfl moved
  | accepted fd ahead place fresh => exact closes.accepted place
  | refused errno fd rest place =>
    refine handled place rfl (.inl rfl) rfl ?_ trivial
    rw [account_goTo, account_close_self]
    exact (live (stands place)).close _
  | registered fd rest place =>
    refine handled place rfl (.inl rfl) rfl ?_ trivial
    rw [account_goTo, account_register_self]
    exact ((live (stands place)).register.holding _).once
  | unregistered errno fd rest place =>
    refine handled place rfl (.inl rfl) rfl ?_ trivial
    rw [account_goTo, account_close_self, account_onPeer_self]
    exact ((live (stands place)).issue _ (by decide)).close _
  | receives event bytes rest place running isOpen nonempty =>
    refine handled place rfl (.inr ⟨rfl, rfl⟩) rfl ?_ isOpen
    rw [account_goTo, account_onPeer_self, account_onPeer_self]
    exact ((((live isOpen).issue _ (by decide)).receive bytes).holding _).once
  | recvBlocked errno event rest place running =>
    have isOpen := (recv place running).1
    refine handled place rfl (.inr ⟨rfl, rfl⟩) rfl ?_ (.inl isOpen)
    rw [account_goTo, account_onPeer_self]
    exact (((live isOpen).issue _ (by decide)).holding _).once
  | recvCloses _ event rest place running closing =>
    obtain ⟨isOpen, masks⟩ := recv place running
    refine handled place rfl (.inr ⟨rfl, rfl⟩) rfl ?_ (.inr (masks closing))
    rw [account_goTo, account_closeClient_self, account_onPeer_self]
    exact ((live isOpen).issue _ (by decide)).closeClient _
  | sends sent event bytes rest place isOpen =>
    refine handled place rfl (.inr ⟨rfl, rfl⟩) rfl ?_ isOpen
    rw [account_goTo, account_onPeer_self, account_onPeer_self]
    exact ((((live isOpen).issue _ (by decide)).accept _).holding _).once
  | caches errno event bytes rest place isOpen =>
    refine handled place rfl (.inr ⟨rfl, rfl⟩) rfl ?_ (.inl isOpen)
    rw [account_goTo, account_onPeer_self, account_setBuffer_self, account_onPeer_self]
    exact (((((live isOpen).issue _ (by decide)).setBuffer _).issue _ (by decide)).holding _).once
  | sendCloses errno event bytes rest place pending closing =>
    have unmasked : event.epollout = false := by
      rw [place] at finishes
      exact of_decide_eq_true finishes pending (decide_eq_true closing)
    refine handled place rfl (.inr ⟨rfl, rfl⟩) rfl ?_ (.inr unmasked)
    rw [account_goTo, account_closeClient_self, account_onPeer_self]
    exact ((live (stands place)).issue _ (by decide)).closeClient _
  | silences _ event rest place masked =>
    have isOpen : server.openFds event.fd = true :=
      (stands place).resolve_right fun unmasked => by cases unmasked.symm.trans masked
    refine handled place rfl (.inl rfl) rfl ?_ trivial
    rw [account_goTo, account_onPeer_self]
    exact (((live isOpen).issue _ (by decide)).holding _).once
  | drainBlocked errno event rest place =>
    refine handled place rfl (.inl rfl) rfl ?_ trivial
    rw [account_goTo, account_onPeer_self]
    exact (((live (stands place)).issue _ (by decide)).holding _).once
  | drainCloses errno event rest place =>
    refine handled place rfl (.inl rfl) rfl ?_ trivial
    rw [account_goTo, account_closeClient_self, account_onPeer_self]
    exact ((live (stands place)).issue _ (by decide)).closeClient _
  | drained event rest place isOpen =>
    refine handled place rfl (.inl rfl) rfl ?_ trivial
    rw [account_goTo, account_onPeer_self, account_setBuffer_self, account_onPeer_self,
      account_onPeer_self]
    have sent := ((live isOpen).issue [.send] (by decide)).accept (server.cached event.fd)
    exact (((sent.setBuffer _).issue _ (by decide)).holding _).once
  | drains sent event rest place isOpen =>
    refine handled place rfl (.inl rfl) rfl ?_ trivial
    rw [account_goTo, account_setBuffer_self, account_onPeer_self, account_onPeer_self]
    exact (((((live isOpen).issue _ (by decide)).accept _).setBuffer _).holding _).once

end Step

/-! ### Over a run -/

section Run

variable {listen_fd : Nat} {openFds : Nat → Bool} {server : BufferServer Byte}

/-- The recv loop closes connections only for events without EPOLLOUT, and is done with a connection
it has closed. -/
def BufferServer.finishing : Guard (BufferServer Byte) (MainEvent Byte)
  | server, .main input => server.finishes input server.place = true
  | _, .handle_sigint => True

instance (server : BufferServer Byte) (label : MainEvent Byte) :
    Decidable (server.finishing label) :=
  match label with
  | .main _ => inferInstanceAs (Decidable (_ = true))
  | .handle_sigint => inferInstanceAs (Decidable True)

theorem reachable_closes
    (reachable : ReachableBy (BufferServer.system Byte listen_fd openFds) BufferServer.finishing
      server) : server.Closes := by
  refine reachable.invariant BufferServer.Closes (fun server initial => ?_)
    fun server label after before closes finishing step => ?_
  · obtain rfl := initial
    exact closes_listening openFds
  · obtain ⟨known, balanced⟩ := reachable_isolated before.reachable
    cases label with
    | main input => exact closes_step known balanced closes finishing (main_cases step)
    | handle_sigint =>
      obtain rfl := Option.some.inj step
      exact ⟨closes.1, closes.2, closes.3⟩

/-- In every run in which the recv loop finishes what it closes, a connection is closed at most
once, and no call is made on its fd after that. -/
theorem closed_once
    (reachable : ReachableBy (BufferServer.system Byte listen_fd openFds) BufferServer.finishing
      server) {peer : Peer Byte} (served : server.Served peer) :
    Syscall.close ∉ peer.calls.dropLast := by
  have closes := reachable_closes reachable
  rcases served with before | ⟨fd, latest⟩
  · exact closes.past peer before
  · exact (closes.fds fd).once peer latest

/-- A client resets its connection before the echo loop sends. -/
def resetRun : List (MainEvent Nat) :=
  [.main .none, .main (.epoll_wait [⟨3, false⟩]), .main .none, .main (.accept 4),
    .main .succeeds, .main .succeeds, .main (.fails EAGAIN), .main .none, .main .none,
    .main (.epoll_wait [⟨4, false⟩]), .main .none, .main (.recv [1, 2, 3, 4, 5]),
    .main (.fails ECONNRESET)]

/-- SIGINT arrives before the recv loop looks at `running` again. -/
theorem closed_once_stopped : ∃ server : BufferServer Nat, ∃ peer, server.Served peer ∧
    Syscall.close ∈ peer.calls ∧ Syscall.close ∉ peer.calls.dropLast := by
  have run : ∃ server, ReachableBy (BufferServer.system Nat 3 fun _ => false)
      BufferServer.finishing server ∧ (server.latest 4).map Peer.calls =
        some [.epoll_ctl, .recv, .send, .epoll_ctl, .close] :=
    exists_of_replay rfl
      (resetRun ++ [.handle_sigint, .main .none, .main .none, .main .none, .main .none])
      (by decide)
  obtain ⟨server, reachable, closed⟩ := run
  obtain ⟨peer, latest, calls⟩ := Option.map_eq_some_iff.mp closed
  have served : server.Served peer := .inr ⟨4, latest⟩
  exact ⟨server, peer, served, calls ▸ by decide, closed_once reachable served⟩

/-- Otherwise `recv` is called on the fd that has been closed, and it is closed again. -/
theorem closed_twice : ∃ server, Reachable (BufferServer.system Nat 3 fun _ => false) server ∧
    ∃ peer, server.Served peer ∧
      peer.calls = [.epoll_ctl, .recv, .send, .epoll_ctl, .close, .recv, .epoll_ctl, .close] := by
  have run : ∃ server, Reachable (BufferServer.system Nat 3 fun _ => false) server ∧
      (server.latest 4).map Peer.calls =
        some [.epoll_ctl, .recv, .send, .epoll_ctl, .close, .recv, .epoll_ctl, .close] :=
    exists_of_replay rfl (resetRun ++ [.main (.fails EBADF)]) (by decide)
  obtain ⟨server, reachable, closed⟩ := run
  obtain ⟨peer, latest, calls⟩ := Option.map_eq_some_iff.mp closed
  exact ⟨server, reachable, peer, .inr ⟨4, latest⟩, calls⟩

end Run

end Closing

end MultiReactor
