/-
This file proves what the loops around `accept` and `recv` are for. Where edges
are asked for, a report takes a socket off the poller's ready list, and what is
left at it is not announced again. Since the recv loop ends only where `recv`
would block or the connection is closed, `epoll_wait` never waits while a client
has something to receive. The accept loop ends at every error: it leaves no
connection behind if the only error is EAGAIN, and after any other one the
connections that wait are not accepted until another client connects.
-/

import MultiReactor.EpollClients

namespace MultiReactor

open Transition Readiness

/-! ### The client in hand -/

section Client

variable {Byte : Type} {mode : EpollMode} {running : Bool} {socket : Socket Byte}
  {place next : ClientPlace Byte} {input : EpollInput Byte}
  {result : Socket Byte × Option (ClientPlace Byte)}

/-- What has come in at a socket the poller watches will be reported. -/
def Socket.Told (socket : Socket Byte) : Prop :=
  socket.registered = true → socket.source.Announced

/-- `main` owes a client that it is reported if the poller does not by itself, unless it stays with
it or is to stop. -/
def EpollMode.Owes (mode : EpollMode) (running : Bool) (next : Option (ClientPlace Byte)) : Prop :=
  mode.edge = false ∨ (running = true ∧ next = none)

theorem told_closeClient : socket.closeClient.Told :=
  fun registered => by cases registered

/-- The recv loop goes back to `recv`, or edges are not asked for. -/
theorem again_eq_some (same : mode.again = some next) : next = .recv := by
  unfold EpollMode.again at same
  split at same <;> cases same
  rfl

theorem flat_of_again (left : (mode.again : Option (ClientPlace Byte)) = none) :
    mode.edge = false := by
  unfold EpollMode.again at left
  split at left
  · cases left
  · rename_i flat
    exact eq_false_of_ne_true flat

theorem recv_told (level : mode.edge = false → socket.Told)
    (step : socket.recv input = some result) (owed : mode.Owes running result.2) :
    result.1.Told := by
  unfold Socket.recv at step
  split at step
  · rename_i count
    split at step
    · cases step
      by_cases ended : count = 0
      · rw [if_pos ended]
        exact told_closeClient
      · rw [if_neg ended] at owed ⊢
        rcases owed with flat | ⟨_, left⟩
        · exact fun registered => (level flat registered).take count
        · cases left
    · cases step
  · rename_i errno
    split at step
    · rename_i may
      cases step
      split
      · rename_i blocked
        have same : errno = EAGAIN := by simpa [wouldBlock, EWOULDBLOCK] using blocked
        exact fun _ => announced_of_nothing ((of_decide_eq_true may).2 same)
      · exact told_closeClient
    · cases step
  · cases step

theorem send_told (level : mode.edge = false → socket.Told) {rest : List Byte}
    (step : socket.send mode rest input = some result) (owed : mode.Owes running result.2) :
    result.1.Told := by
  unfold Socket.send at step
  split at step
  · split at step
    · cases step
      rcases owed with flat | ⟨_, left⟩
      · exact level flat
      · cases left
    · cases step
  · split at step
    · cases step
      split
      · exact owed.elim level fun left => level (flat_of_again left.2)
      · exact told_closeClient
    · cases step
  · cases step

/-- `main` is not done with a client before it has nothing left, or is closed. -/
theorem handle_told (level : mode.edge = false → socket.Told)
    (step : socket.handle mode running place input = some result)
    (owed : mode.Owes running result.2) : result.1.Told := by
  cases place with
  | refuse =>
    cases step
    exact fun registered => by cases registered
  | set_nonblocking =>
    simp only [Socket.handle] at step
    split at step
    · cases step
      rcases owed with flat | ⟨_, left⟩
      · exact level flat
      · cases left
    · cases step
      exact fun registered => by cases registered
    · cases step
  | register =>
    simp only [Socket.handle] at step
    split at step
    · cases step
      exact fun _ => announced_watch
    · cases step
      exact told_closeClient
    · cases step
  | recv =>
    simp only [Socket.handle] at step
    split at step
    · rename_i stops
      cases step
      rw [Bool.and_eq_true, Bool.not_eq_true'] at stops
      rcases owed with flat | ⟨runs, _⟩
      · cases flat.symm.trans stops.1
      · cases stops.2.symm.trans runs
    · exact recv_told level step owed
  | echo rest =>
    simp only [Socket.handle] at step
    split at step
    · cases step
      exact owed.elim level fun left => level (flat_of_again left.2)
    · exact send_told level step owed

/-- `main` stays with a client in the same part of the loop. -/
theorem handle_isNew (step : socket.handle mode running place input = some result)
    (stays : result.2 = some next) : next.isNew = place.isNew := by
  cases place with
  | refuse =>
    cases step
    cases stays
  | set_nonblocking | register =>
    simp only [Socket.handle] at step
    split at step <;> cases step <;> cases stays <;> rfl
  | recv =>
    simp only [Socket.handle] at step
    split at step
    · cases step
      cases stays
    · unfold Socket.recv at step
      split at step
      · split at step
        · cases step
          split at stays <;> cases stays
          rfl
        · cases step
      · split at step <;> cases step
        cases stays
      · cases step
  | echo rest =>
    simp only [Socket.handle] at step
    split at step
    · cases step
      rw [again_eq_some stays]
      rfl
    · unfold Socket.send at step
      split at step
      · split at step <;> cases step
        cases stays
        rfl
      · split at step <;> cases step
        rw [again_eq_some stays]
        rfl
      · cases step

end Client

/-! ### All clients -/

section Server

variable {Byte : Type}

/-- `main` runs, or waits for the poller. -/
def EpollServer.Awake (server : EpollServer Byte) : Prop :=
  server.running = true ∨ server.place = .epoll_wait

/-- What has come in at a client will be reported, unless `main` has it in hand or before it. -/
def EpollServer.TellsClients (mode : EpollMode) (listen_fd : Nat) (server : EpollServer Byte) :
    Prop :=
  ∀ fd ≠ listen_fd, mode.edge = false ∨ (server.Awake ∧ fd ∉ server.place.fds) →
    (server.sockets fd).Told

section Steps

variable {mode : EpollMode} {listen_fd : Nat} {openFds : Nat → Bool}
  {server after : EpollServer Byte} {place old : EpollPlace Byte} {ahead : List Nat}
  {input : EpollInput Byte}

/-- `main` goes elsewhere and touches no client. -/
theorem EpollServer.TellsClients.goTo (tells : server.TellsClients mode listen_fd)
    (here : server.place = old) (awake : place = .epoll_wait → server.Awake)
    (fds : ∀ fd ≠ listen_fd, fd ∉ place.fds → fd ∉ old.fds) :
    (server.goTo place).TellsClients mode listen_fd := by
  refine fun fd other owed => tells fd other (owed.imp_right fun ⟨now, apart⟩ => ?_)
  exact ⟨now.elim .inl awake, here ▸ fds fd other apart⟩

/-- One client changes, and is in hand after or told of. -/
theorem EpollServer.TellsClients.setSocket (tells : server.TellsClients mode listen_fd)
    (fd : Nat) (socket : Socket Byte) (place : EpollPlace Byte) (here : server.place = old)
    (awake : place = .epoll_wait → server.Awake)
    (fds : ∀ other ≠ fd, other ∉ place.fds → other ∉ old.fds)
    (told : mode.edge = false ∨ (server.Awake ∧ fd ∉ place.fds) → socket.Told) :
    ((server.setSocket fd socket).goTo place).TellsClients mode listen_fd := by
  intro other different owed
  replace owed : mode.edge = false ∨ (server.Awake ∧ other ∉ place.fds) :=
    owed.imp_right fun ⟨now, apart⟩ => ⟨now.elim .inl awake, apart⟩
  show (Function.update server.sockets fd socket other).Told
  by_cases same : other = fd
  · rw [same, Function.update_self]
    exact told (same ▸ owed)
  · rw [Function.update_of_ne same]
    exact tells other different (owed.imp_right fun ⟨now, apart⟩ =>
      ⟨now, here ▸ fds other same apart⟩)

theorem EpollServer.TellsClients.stop (tells : server.TellsClients mode listen_fd)
    (here : server.place = old) (idle : old.fds = []) :
    (server.stop listen_fd).TellsClients mode listen_fd :=
  tells.setSocket _ _ _ here (fun same => by cases same)
    (fun _ _ _ => idle ▸ List.not_mem_nil) fun _ registered => by cases registered

theorem EpollServer.TellsClients.epollWait (tells : server.TellsClients mode listen_fd)
    (here : server.place = .epoll_wait)
    (step : server.epollWait mode listen_fd input = some after) :
    after.TellsClients mode listen_fd := by
  unfold EpollServer.epollWait at step
  split at step
  · rename_i fds
    split at step
    · cases step
      intro fd other owed
      have told : (mode.edge = false ∨ fd ∉ fds) → (server.sockets fd).Told := fun owed =>
        tells fd other (owed.imp_right fun _ => ⟨.inr here, by rw [here]; exact List.not_mem_nil⟩)
      show ((server.reported mode listen_fd fds).sockets fd).Told
      unfold EpollServer.reported
      split
      · rename_i edge
        have apart : fd ∉ fds := (owed.resolve_left (edge ▸ Bool.true_eq_false.mp)).2
        show Socket.Told (if fd ∈ fds then _ else server.sockets fd)
        rw [if_neg apart]
        exact told (.inr apart)
      · rename_i flat
        exact told (.inl (eq_false_of_ne_true flat))
    · cases step
  · cases step
    split
    · exact tells.goTo here (fun same => by cases same) fun _ _ _ => List.not_mem_nil
    · exact tells.stop here rfl
  · cases step

theorem EpollServer.TellsClients.handleNext (serves : mode.serves = true)
    (tells : server.TellsClients mode listen_fd) (here : server.place = .events ahead) :
    (server.handleNext mode listen_fd ahead).TellsClients mode listen_fd := by
  cases ahead with
  | nil => exact tells.goTo here (fun same => by cases same) fun _ _ _ => List.not_mem_nil
  | cons fd rest =>
    show (server.goTo (if fd = listen_fd then .accept rest
      else if mode.serves then .client fd .recv rest else .events rest)).TellsClients _ _
    rw [if_pos serves]
    split
    · rename_i listening
      refine tells.goTo here (fun same => by cases same) fun other different apart known => ?_
      rcases List.mem_cons.mp known with same | tail
      · exact different (same.trans listening)
      · exact apart tail
    · exact tells.goTo here (fun same => by cases same) fun _ _ apart => apart

theorem EpollServer.TellsClients.acceptOne (tells : server.TellsClients mode listen_fd)
    (here : server.place = .accept ahead) (step : server.acceptOne mode ahead input = some after) :
    after.TellsClients mode listen_fd := by
  unfold EpollServer.acceptOne at step
  split at step
  · rename_i fd pending ended
    split at step
    · cases step
      exact tells.setSocket fd (.new pending ended)
        (.client fd (if mode.serves then .set_nonblocking else .refuse) ahead) here
        (fun same => by cases same) (fun _ _ apart known => apart (List.mem_cons_of_mem _ known))
        fun _ registered => by cases registered
    · cases step
  · split at step
    · cases step
      exact tells.goTo here (fun same => by cases same) fun _ _ apart => apart
    · cases step
  · cases step

theorem EpollServer.TellsClients.handled (polls : server.Polls mode listen_fd openFds)
    (tells : server.TellsClients mode listen_fd) {fd : Nat} {client : ClientPlace Byte}
    (here : server.place = .client fd client ahead)
    {result : Socket Byte × Option (ClientPlace Byte)}
    (step : (server.sockets fd).handle mode server.running client input = some result) :
    (server.handled mode fd client ahead result).TellsClients mode listen_fd := by
  have other : fd ≠ listen_fd := fun same => polls.held (by rw [here, same]; rfl)
  have told := handle_told (fun flat => tells fd other (.inl flat)) step
  have awake : server.Awake → server.running = true := fun awake => by
    refine awake.resolve_right fun waits => ?_
    cases here.symm.trans waits
  obtain ⟨socket, next⟩ := result
  cases next with
  | some place =>
    exact tells.setSocket _ _ _ here (fun same => by cases same) (fun _ _ apart => apart)
      fun owed => told (owed.imp_right fun ⟨_, apart⟩ => absurd List.mem_cons_self apart)
  | none =>
    have around : (mode.around client ahead).fds = ahead := by
      unfold EpollMode.around
      split <;> rfl
    refine tells.setSocket _ _ _ here (fun same => ?_)
      (fun different apart left known => ?_) fun owed =>
        told (owed.imp_right fun ⟨now, _⟩ => ⟨awake now, rfl⟩)
    · replace same : mode.around client ahead = .epoll_wait := same
      unfold EpollMode.around at same
      split at same <;> cases same
    · rw [around] at left
      exact (List.mem_cons.mp known).elim apart left

theorem EpollServer.TellsClients.comesIn (tells : server.TellsClients mode listen_fd) {fd : Nat}
    {happens : Source Byte → Source Byte} (announced : ∀ source, (happens source).Announced)
    (step : server.comesIn fd happens = some after) : after.TellsClients mode listen_fd := by
  unfold EpollServer.comesIn at step
  split at step
  · cases step
    exact tells.setSocket _ _ server.place rfl (fun waits => .inr waits) (fun _ _ apart => apart)
      fun _ _ => announced _
  · cases step

theorem tellsClients_step (serves : mode.serves = true)
    (polls : server.Polls mode listen_fd openFds) (tells : server.TellsClients mode listen_fd)
    {event : PollEvent Byte}
    (step : server.step mode listen_fd event = some after) :
    after.TellsClients mode listen_fd := by
  cases event with
  | main input =>
    replace step : server.main mode listen_fd input = some after := step
    unfold EpollServer.main at step
    split at step <;> rename_i here
    · cases step
      split
      · rename_i runs
        exact tells.goTo here (fun _ => .inl runs) fun _ _ _ => List.not_mem_nil
      · exact tells.stop here rfl
    · exact tells.epollWait here step
    · cases step
      exact tells.handleNext serves here
    · split at step
      · cases step
        exact tells.goTo here (fun same => by cases same) fun _ _ apart => apart
      · exact tells.acceptOne here step
    · obtain ⟨result, moved, rfl⟩ := Option.map_eq_some_iff.mp step
      exact tells.handled polls here moved
    · cases step
  | handle_sigint =>
    cases step
    refine fun fd other owed => tells fd other (owed.imp_right fun ⟨now, apart⟩ => ⟨?_, apart⟩)
    exact .inr (now.resolve_left Bool.false_ne_true)
  | connects =>
    cases step
    exact tells
  | arrives fd bytes => exact tells.comesIn (fun _ => announced_arrives bytes) step
  | ends fd => exact tells.comesIn (fun _ => announced_ends) step

/-- `epoll_wait` never waits while a client it watches has something to receive: what is there is on
the ready list, so it is reported. -/
theorem no_input_stranded {waiting : Nat} (serves : mode.serves = true)
    (reachable : Reachable (EpollServer.system Byte mode listen_fd openFds waiting) server)
    (waits : server.place = .epoll_wait) {fd : Nat} (client : fd ≠ listen_fd)
    (registered : (server.sockets fd).registered = true)
    (input : (server.sockets fd).source.hasInput = true) :
    server.reports listen_fd [fd] = true := by
  have tells : server.TellsClients mode listen_fd := by
    refine reachable.invariant (EpollServer.TellsClients mode listen_fd) ?_ ?_
    · rintro _ rfl fd other - registered
      cases (decide_eq_false other).symm.trans registered
    · intro server event after before tells _ step
      exact tellsClients_step serves (reachable_polls before) tells step
  have ready := tells fd client
    (.inr ⟨.inr waits, by rw [waits]; exact List.not_mem_nil⟩) registered input
  refine decide_eq_true ⟨(by decide : 1 ≤ maxEpollEvents), List.pairwise_singleton .., ?_⟩
  simp [registered, client, ready]

/-- A client has sent two bytes before it is accepted. -/
def inputRun : List (PollEvent Nat) :=
  [.connects, .main .none, .main (.epoll_wait [3]), .main .none, .main (.accept 5 [1, 2] false),
    .main .succeeds, .main .succeeds, .main (.fails EAGAIN), .main .none, .main .none]

theorem no_input_stranded_edge : ∃ server : EpollServer Nat,
    (server.sockets 5).source.pending = [1, 2] ∧ server.reports 3 [5] = true := by
  have run : ∃ server, Reachable (EpollServer.system Nat epoll_server_et 3 (fun _ => false) 0)
      server ∧ server.place = .epoll_wait ∧ (server.sockets 5).registered = true ∧
      (server.sockets 5).source.pending = [1, 2] :=
    exists_of_replay rfl inputRun (by decide)
  obtain ⟨server, reachable, waits, registered, pending⟩ := run
  exact ⟨server, pending, no_input_stranded rfl reachable waits (by decide) registered
    (by rw [Source.hasInput, pending]; rfl)⟩

/-! ### The backlog -/

/-- `main` is to call `accept`, or has the listening socket before it. -/
def EpollPlace.accepts (mode : EpollMode) (listen_fd : Nat) : EpollPlace Byte → Bool
  | .loop | .epoll_wait | .stopped => false
  | .events ahead => listen_fd ∈ ahead
  | .accept _ => true
  | .client _ place ahead => mode.edge && place.isNew || listen_fd ∈ ahead

/-- What one step does to the backlog. -/
inductive BacklogMove (mode : EpollMode) (listen_fd : Nat) (server : EpollServer Byte)
    (event : PollEvent Byte) (after : EpollServer Byte) : Prop where
  | stays (same : after.backlog = server.backlog) (awake : after.Awake → server.Awake)
      (place : after.place.accepts mode listen_fd = server.place.accepts mode listen_fd)
  | reported (ready : server.backlog.ready = true)
      (place : after.place.accepts mode listen_fd = true)
      (same : after.backlog = if mode.edge then server.backlog.report else server.backlog)
  | accepted (ahead : List Nat) (place : server.place = .accept ahead)
      (taken : after.backlog = server.backlog.take 1)
      (again : mode.edge = true → after.place.accepts mode listen_fd = true)
  | ends (ahead : List Nat) (errno : Nat) (place : server.place = .accept ahead)
      (failed : event = .main (.fails errno))
      (blocked : errno = EAGAIN → server.backlog.pending = [])
      (same : after.backlog = server.backlog)
  | stops (ahead : List Nat) (place : server.place = .accept ahead) (edge : mode.edge = true)
      (same : after.backlog = server.backlog) (asleep : ¬after.Awake)
  | connects (happened : event = .connects) (same : after.backlog = server.backlog.arrives [()])

/-- `main` goes elsewhere, and what it does changes nothing of the backlog. -/
theorem backlog_goTo {event : PollEvent Byte} {middle : EpollServer Byte}
    (here : server.place = old) (awake : place = .epoll_wait → server.Awake)
    (accepts : place.accepts mode listen_fd = old.accepts mode listen_fd)
    (backlog : middle.backlog = server.backlog) (running : middle.running = server.running) :
    BacklogMove mode listen_fd server event (middle.goTo place) := by
  refine .stays backlog (fun now => now.elim (fun runs => .inl ?_) awake) (here ▸ accepts)
  exact running.symm.trans runs

theorem handled_not_waiting {fd : Nat} {client : ClientPlace Byte}
    {result : Socket Byte × Option (ClientPlace Byte)} :
    (server.handled mode fd client ahead result).place ≠ .epoll_wait := by
  obtain ⟨socket, next⟩ := result
  cases next with
  | some next => exact fun same => by cases same
  | none =>
    show mode.around client ahead ≠ .epoll_wait
    unfold EpollMode.around
    split <;> exact fun same => by cases same

theorem handled_accepts {running : Bool} {socket : Socket Byte} {client : ClientPlace Byte}
    {result : Socket Byte × Option (ClientPlace Byte)} {fd : Nat}
    (step : socket.handle mode running client input = some result) :
    (server.handled mode fd client ahead result).place.accepts mode listen_fd =
      (EpollPlace.client fd client ahead : EpollPlace Byte).accepts mode listen_fd := by
  obtain ⟨socket, next⟩ := result
  cases next with
  | some next =>
    have same := handle_isNew step rfl
    show (mode.edge && next.isNew || decide (listen_fd ∈ ahead)) = _
    rw [same]
    rfl
  | none =>
    show (mode.around client ahead).accepts mode listen_fd =
      (mode.edge && client.isNew || decide (listen_fd ∈ ahead))
    unfold EpollMode.around
    split
    · rename_i again
      rw [again]
      rfl
    · rename_i out
      rw [eq_false_of_ne_true out]
      rfl

theorem backlog_main (step : server.main mode listen_fd input = some after) :
    BacklogMove mode listen_fd server (.main input) after := by
  unfold EpollServer.main at step
  split at step <;> rename_i here
  · cases step
    split
    · rename_i runs
      exact backlog_goTo here (fun _ => .inl runs) rfl rfl rfl
    · exact backlog_goTo here (fun same => by cases same) rfl rfl rfl
  · unfold EpollServer.epollWait at step
    split at step
    · rename_i fds
      split at step
      · rename_i reports
        cases step
        have known := List.all_eq_true.mp (of_decide_eq_true reports).2.2 listen_fd
        by_cases reported : listen_fd ∈ fds
        · have listening : (server.sockets listen_fd).registered = true ∧
              server.backlog.ready = true := by
            simpa using known reported
          refine .reported listening.2 (decide_eq_true reported) ?_
          show (server.reported mode listen_fd fds).backlog = _
          unfold EpollServer.reported
          rw [if_pos reported]
          split <;> rfl
        · refine backlog_goTo here (fun same => by cases same) (decide_eq_false reported) ?_
            (reported_running fds)
          unfold EpollServer.reported
          rw [if_neg reported]
          split <;> rfl
      · cases step
    · cases step
      split
      · exact backlog_goTo here (fun same => by cases same) rfl rfl rfl
      · exact backlog_goTo here (fun same => by cases same) rfl rfl rfl
    · cases step
  · rename_i ahead
    cases step
    cases ahead with
    | nil => exact backlog_goTo here (fun same => by cases same) rfl rfl rfl
    | cons fd rest =>
      show BacklogMove mode listen_fd server _ (server.goTo (if fd = listen_fd then .accept rest
        else if mode.serves then .client fd .recv rest else .events rest))
      split
      · rename_i listening
        refine backlog_goTo here (fun same => by cases same) ?_ rfl rfl
        exact (decide_eq_true (listening ▸ List.mem_cons_self)).symm
      · rename_i client
        have apart : decide (listen_fd ∈ rest) = decide (listen_fd ∈ fd :: rest) := by
          rw [decide_eq_decide]
          exact ⟨List.mem_cons_of_mem _, fun known =>
            (List.mem_cons.mp known).resolve_left (Ne.symm client)⟩
        split
        · refine backlog_goTo here (fun same => by cases same) ?_ rfl rfl
          show (mode.edge && false || decide (listen_fd ∈ rest)) = _
          rw [Bool.and_false, Bool.false_or]
          exact apart
        · exact backlog_goTo here (fun same => by cases same) apart rfl rfl
  · rename_i ahead
    split at step
    · rename_i stops
      cases step
      rw [Bool.and_eq_true, Bool.not_eq_true'] at stops
      refine .stops ahead here stops.1 rfl fun now => now.elim (fun runs => ?_) fun same => ?_
      · cases stops.2.symm.trans runs
      · cases same
    · unfold EpollServer.acceptOne at step
      split at step
      · split at step
        · cases step
          refine .accepted ahead here rfl fun edge => ?_
          show (mode.edge &&
            ClientPlace.isNew (if mode.serves then .set_nonblocking else .refuse) || _) = true
          rw [edge]
          split <;> rfl
        · cases step
      · rename_i errno
        split at step
        · rename_i may
          cases step
          exact .ends ahead errno here rfl may rfl
        · cases step
      · cases step
  · obtain ⟨result, moved, rfl⟩ := Option.map_eq_some_iff.mp step
    refine .stays rfl (fun now => now.imp_right fun same => ?_) (here ▸ handled_accepts moved)
    exact absurd same handled_not_waiting
  · cases step

/-- What a step does to the backlog. -/
theorem backlog_step {event : PollEvent Byte}
    (step : server.step mode listen_fd event = some after) :
    BacklogMove mode listen_fd server event after := by
  have comesIn {fd : Nat} {happens : Source Byte → Source Byte}
      (step : server.comesIn fd happens = some after) :
      BacklogMove mode listen_fd server event after := by
    unfold EpollServer.comesIn at step
    split at step
    · cases step
      exact .stays rfl id rfl
    · cases step
  cases event with
  | main input => exact backlog_main step
  | handle_sigint =>
    cases step
    exact .stays rfl (fun now => .inr (now.resolve_left Bool.false_ne_true)) rfl
  | connects =>
    cases step
    exact .connects rfl rfl
  | arrives | ends => exact comesIn step

/-- The call at which `main` stands fails with another error than EAGAIN. -/
def PollEvent.isHard : PollEvent Byte → Bool
  | .main (.fails errno) => errno ≠ EAGAIN
  | _ => false

def EpollPlace.isAccept : EpollPlace Byte → Bool
  | .accept _ => true
  | .loop | .epoll_wait | .events _ | .client _ _ _ | .stopped => false

/-- Where edges are asked for, `accept` fails with nothing but EAGAIN. -/
def acceptsAll (mode : EpollMode) : Guard (EpollServer Byte) (PollEvent Byte) :=
  fun server event => (mode.edge && server.place.isAccept && event.isHard) = false

instance (mode : EpollMode) (server : EpollServer Byte) (event : PollEvent Byte) :
    Decidable (acceptsAll mode server event) :=
  inferInstanceAs (Decidable (_ = _))

/-- The connections that wait will be reported, unless `main` is to call `accept` anyway. -/
structure EpollServer.TellsBacklog (mode : EpollMode) (listen_fd : Nat)
    (server : EpollServer Byte) : Prop where
  more : server.backlog.ended = false
  told : mode.edge = false ∨ (server.Awake ∧ server.place.accepts mode listen_fd = false) →
    server.backlog.Announced

theorem tellsBacklog_step (tells : server.TellsBacklog mode listen_fd) {event : PollEvent Byte}
    (permitted : acceptsAll mode server event)
    (step : server.step mode listen_fd event = some after) :
    after.TellsBacklog mode listen_fd := by
  have ended {backlog : Source Unit} (same : after.backlog = backlog)
      (more : backlog.ended = false) : after.backlog.ended = false := same ▸ more
  cases backlog_step step with
  | stays same awake place =>
    refine ⟨ended same tells.more, fun owed => same ▸ tells.told ?_⟩
    exact owed.imp_right fun ⟨now, apart⟩ => ⟨awake now, place ▸ apart⟩
  | reported ready place same =>
    refine ⟨ended same (by split <;> exact tells.more), fun owed => ?_⟩
    have flat : mode.edge = false :=
      owed.resolve_right fun ⟨_, apart⟩ => by cases apart.symm.trans place
    rw [same, if_neg (by rw [flat]; exact Bool.false_ne_true)]
    exact tells.told (.inl flat)
  | accepted ahead place taken again =>
    refine ⟨ended taken tells.more, fun owed => ?_⟩
    have flat : mode.edge = false := owed.elim id fun ⟨_, apart⟩ =>
      eq_false_of_ne_true fun edge => by cases apart.symm.trans (again edge)
    exact taken ▸ (tells.told (.inl flat)).take 1
  | ends ahead errno place failed blocked same =>
    refine ⟨ended same tells.more, fun owed => same ▸ ?_⟩
    by_cases edge : mode.edge = true
    · have soft : errno = EAGAIN := by
        simpa [acceptsAll, edge, place, failed, EpollPlace.isAccept, PollEvent.isHard]
          using permitted
      have empty := blocked soft
      exact announced_of_nothing (by rw [Source.hasInput, empty, tells.more]; rfl)
    · exact tells.told (.inl (eq_false_of_ne_true edge))
  | stops ahead place edge same asleep =>
    refine ⟨ended same tells.more, fun owed => ?_⟩
    rcases owed with flat | ⟨now, _⟩
    · cases flat.symm.trans edge
    · exact absurd now asleep
  | connects _ same =>
    exact ⟨ended same tells.more, fun _ => same ▸ announced_arrives [()]⟩

/-- `epoll_wait` never waits while a connection does, in the level-triggered servers whatever
`accept` fails with, in the edge-triggered one as long as it is nothing but EAGAIN. -/
theorem no_connection_stranded {waiting : Nat}
    (reachable : ReachableBy (EpollServer.system Byte mode listen_fd openFds waiting)
      (acceptsAll mode) server)
    (waits : server.place = .epoll_wait) (connections : server.backlog.pending ≠ []) :
    server.reports listen_fd [listen_fd] = true := by
  have tells : server.TellsBacklog mode listen_fd := by
    refine reachable.invariant (EpollServer.TellsBacklog mode listen_fd) ?_ ?_
    · rintro _ rfl
      exact ⟨rfl, fun _ => announced_watch⟩
    · intro server event after _ tells permitted step
      exact tellsBacklog_step tells permitted step
  have listening := (reachable_polls reachable.reachable).listening
    (by rw [waits]; exact fun same => by cases same)
  have ready : server.backlog.ready = true := by
    refine tells.told (.inr ⟨.inr waits, by rw [waits]; rfl⟩) ?_
    rw [Source.hasInput, Bool.or_eq_true, Bool.not_eq_true', List.isEmpty_eq_false_iff]
    exact .inl connections
  refine decide_eq_true ⟨(by decide : 1 ≤ maxEpollEvents), List.pairwise_singleton .., ?_⟩
  simp [listening, Socket.unknown, ready]

/-- A client connects, and another while the first is accepted. -/
def backlogRun : List (PollEvent Nat) :=
  [.connects, .main .none, .main (.epoll_wait [3]), .main .none, .main (.accept 5 [] false),
    .main .succeeds, .main .succeeds, .main (.fails EAGAIN), .connects, .main .none, .main .none]

theorem no_connection_stranded_edge : ∃ server : EpollServer Nat,
    server.backlog.pending = [()] ∧ server.reports 3 [3] = true := by
  have run : ∃ server, ReachableBy (EpollServer.system Nat epoll_server_et 3 (fun _ => false) 0)
      (acceptsAll epoll_server_et) server ∧ server.place = .epoll_wait ∧
      server.backlog.pending = [()] :=
    exists_of_replay rfl backlogRun (by decide)
  obtain ⟨server, reachable, waits, pending⟩ := run
  exact ⟨server, pending, no_connection_stranded reachable waits (by simp [pending])⟩

/-- No client connects. -/
def nobodyConnects : Guard (EpollServer Byte) (PollEvent Byte) :=
  fun _ event => event ≠ .connects

instance (server : EpollServer Nat) (event : PollEvent Nat) :
    Decidable (nobodyConnects server event) :=
  inferInstanceAs (Decidable (event ≠ .connects))

/-- `main` does not have the listening socket before it twice. -/
def EpollPlace.AcceptsOnce (listen_fd : Nat) : EpollPlace Byte → Prop
  | .loop | .epoll_wait | .stopped | .events _ => True
  | .accept ahead => listen_fd ∉ ahead
  | .client _ place ahead => place.isNew = true → listen_fd ∉ ahead

theorem acceptsOnce_step (polls : server.Polls mode listen_fd openFds)
    (once : server.place.AcceptsOnce listen_fd) {event : PollEvent Byte}
    (step : server.step mode listen_fd event = some after) :
    after.place.AcceptsOnce listen_fd := by
  have comesIn {fd : Nat} {happens : Source Byte → Source Byte}
      (step : server.comesIn fd happens = some after) : after.place.AcceptsOnce listen_fd := by
    unfold EpollServer.comesIn at step
    split at step
    · cases step
      exact once
    · cases step
  cases event with
  | main input =>
    replace step : server.main mode listen_fd input = some after := step
    unfold EpollServer.main at step
    split at step <;> rename_i here
    · cases step
      split <;> trivial
    · unfold EpollServer.epollWait at step
      split at step
      · split at step
        · cases step
          trivial
        · cases step
      · cases step
        split <;> trivial
      · cases step
    · rename_i ahead
      cases step
      have distinct := polls.distinct
      rw [here] at distinct
      cases ahead with
      | nil => trivial
      | cons fd rest =>
        show (if fd = listen_fd then EpollPlace.accept rest
          else if mode.serves then .client fd .recv rest else .events rest).AcceptsOnce listen_fd
        split
        · rename_i listening
          exact listening ▸ (List.nodup_cons.mp distinct).1
        · split
          · exact fun new => by cases new
          · trivial
    · rename_i ahead
      rw [here] at once
      split at step
      · cases step
        trivial
      · unfold EpollServer.acceptOne at step
        split at step
        · split at step
          · cases step
            exact fun _ => once
          · cases step
        · split at step
          · cases step
            trivial
          · cases step
        · cases step
    · rename_i fd client ahead
      rw [here] at once
      obtain ⟨⟨socket, next⟩, moved, rfl⟩ := Option.map_eq_some_iff.mp step
      cases next with
      | some next => exact fun new => once ((handle_isNew moved rfl).symm.trans new)
      | none =>
        show (mode.around client ahead).AcceptsOnce listen_fd
        unfold EpollMode.around
        split
        · rename_i again
          exact once (Bool.and_eq_true_iff.mp again).2
        · trivial
    · cases step
  | handle_sigint =>
    cases step
    exact once
  | connects =>
    cases step
    exact once
  | arrives | ends => exact comesIn step

/-- After any other error of `accept` the edge-triggered server leaves behind the connections that
wait, unless one has come since the last report: however it goes on, it accepts none of them until
another client connects. -/
theorem stranded_until_connect {waiting : Nat} {later : EpollServer Byte}
    (reachable : Reachable
      (EpollServer.system Byte epoll_server_et listen_fd openFds waiting) server)
    (here : server.place = .accept ahead) (running : server.running = true)
    (reported : server.backlog.ready = false) {errno : Nat} (hard : errno ≠ EAGAIN)
    (step : server.step epoll_server_et listen_fd (.main (.fails errno)) = some after)
    (run : ReachableBy
      ((EpollServer.system Byte epoll_server_et listen_fd openFds waiting).after after)
      nobodyConnects later) :
    later.backlog = server.backlog := by
  have once : server.place.AcceptsOnce listen_fd := by
    refine reachable.invariant (fun server => server.place.AcceptsOnce listen_fd) ?_ ?_
    · rintro _ rfl
      trivial
    · intro server event after before once _ step
      exact acceptsOnce_step (reachable_polls before) once step
  rw [here] at once
  have moved : after = server.goTo (.events ahead) := by
    replace step : server.main epoll_server_et listen_fd (.fails errno) = some after := step
    simp only [EpollServer.main, here, running, Bool.not_true, Bool.and_false, Bool.false_eq_true,
      if_false, EpollServer.acceptOne, hard, false_implies, if_true] at step
    exact (Option.some.inj step).symm
  have left : later.backlog = server.backlog ∧
      later.place.accepts epoll_server_et listen_fd = false := by
    refine run.invariant (fun later => later.backlog = server.backlog ∧
      later.place.accepts epoll_server_et listen_fd = false) ?_ ?_
    · rintro _ rfl
      rw [moved]
      exact ⟨rfl, decide_eq_false once⟩
    · intro later event next _ ⟨same, apart⟩ quiet step
      have idle {ahead : List Nat} (place : later.place = .accept ahead) : False := by
        rw [place] at apart
        cases apart
      cases backlog_step step with
      | stays unchanged _ place => exact ⟨unchanged.trans same, place.trans apart⟩
      | reported ready => cases (same ▸ ready).symm.trans reported
      | accepted _ place => exact (idle place).elim
      | ends _ _ place => exact (idle place).elim
      | stops _ place => exact (idle place).elim
      | connects happened => exact absurd happened quiet
  exact left.1

/-- Two clients connect; the second `accept` fails with EMFILE. -/
def strandedRun : List (PollEvent Nat) :=
  [.connects, .connects, .main .none, .main (.epoll_wait [3]), .main .none,
    .main (.accept 5 [] false), .main .succeeds, .main .succeeds]

theorem stranded_until_connect_EMFILE : ∃ server later : EpollServer Nat,
    server.backlog.pending = [()] ∧ later.place = .epoll_wait ∧
      later.backlog = server.backlog := by
  have run : ∃ server, Reachable (EpollServer.system Nat epoll_server_et 3 (fun _ => false) 0)
      server ∧ server.place = .accept [] ∧ server.running = true ∧
      server.backlog.ready = false ∧ server.backlog.pending = [()] ∧
      ((server.step epoll_server_et 3 (.main (.fails 24))).any fun after =>
        (replay ((EpollServer.system Nat epoll_server_et 3 (fun _ => false) 0).after after)
          nobodyConnects after [.main .none, .main .none]).any fun later =>
            later.place = .epoll_wait) = true :=
    exists_of_replay rfl strandedRun (by decide)
  obtain ⟨server, reachable, here, running, reported, pending, goesOn⟩ := run
  obtain ⟨after, step, replayed⟩ := (Option.any_eq_true _ _).mp goesOn
  obtain ⟨later, returned, waits⟩ := (Option.any_eq_true _ _).mp replayed
  exact ⟨server, later, pending, of_decide_eq_true waits,
    stranded_until_connect reachable here running reported (by decide) step
      (reachableBy_of_replay _ (.start rfl) returned)⟩

end Steps

end Server

end MultiReactor
