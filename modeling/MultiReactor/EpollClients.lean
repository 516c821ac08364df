/-
This file follows the clients of the three epoll servers. A client's fd is looked
at on its own: at each place of `main` its socket is of one form, and the calls
on record are those of a relay that an error ends unless it is EAGAIN. One lemma
says what `main` does to the fd it has in hand; no other fd is touched but by the
poller.
-/

import MultiReactor.EpollServer

namespace MultiReactor

open Transition

/-! ### One client -/

/-- An error ends the service of a client unless it is EAGAIN. -/
def nonblocking : Relay.Policy Nat :=
  { readEnds := fun errno => !wouldBlock errno, writeEnds := fun errno => !wouldBlock errno }

/-- Where `main` stands, seen from an fd. -/
inductive ClientStage (Byte : Type) where
  | idle
  /-- its event has been reported and not reached -/
  | ahead
  | held (place : ClientPlace Byte)

section Client

variable {Byte : Type}

/-- The place of the relay that serves the client. -/
def ClientStage.relay : ClientStage Byte → Relay.Place Byte
  | .idle | .ahead | .held .recv => .reading
  | .held .refuse | .held .set_nonblocking | .held .register => .fresh
  | .held (.echo rest) => .holding rest

/-- The poller watches a client unless it has only just been accepted. -/
def ClientStage.isWatched : ClientStage Byte → Bool
  | .idle | .ahead => true
  | .held place => !place.isNew

/-- What is left of the chunk in `buffer`. -/
def ClientStage.rest : ClientStage Byte → List Byte
  | .held (.echo rest) => rest
  | .idle | .ahead | .held .recv | .held .refuse | .held .set_nonblocking | .held .register => []

/-- The calls on a connection that has been closed after a `send` failed for good. -/
def Broken (calls : List (Relay.Call Byte Nat)) : Prop :=
  Relay.Run nonblocking .fresh calls .closed ∧ ∃ start errno, wouldBlock errno = false ∧
    calls = start ++ [.writeFails errno, .control, .close]

/-- What the recv loop does once it has closed its own fd. -/
def closedAgain (Byte : Type) : List (Relay.Call Byte Nat) :=
  [.readFails EBADF, .control, .close]

/-- The calls on a connection the server is done with. -/
inductive Finished (mode : EpollMode) (running : Bool) (calls : List (Relay.Call Byte Nat)) :
    Prop where
  | once (run : Relay.Run nonblocking .fresh calls .closed)
      (sound : mode.edge = true → running = true →
        ∀ errno, .writeFails errno ∈ calls → wouldBlock errno = true)
  | twice (before : List (Relay.Call Byte Nat)) (edge : mode.edge = true) (broken : Broken before)
      (again : calls = before ++ closedAgain Byte)

/-- The connection under an fd is served as far as this. -/
structure Socket.Served (began : Bool) (calls : List (Relay.Call Byte Nat))
    (stage : ClientStage Byte) (socket : Socket Byte) : Prop where
  fresh : began = false
  isOpen : socket.isOpen = true
  registered : socket.registered = stage.isWatched
  known : socket.calls = some calls
  run : Relay.Run nonblocking .fresh calls stage.relay

/-- The connection last accepted under an fd has been closed. -/
structure Socket.Gone (began : Bool) (calls : List (Relay.Call Byte Nat)) (socket : Socket Byte) :
    Prop where
  fresh : began = false
  isOpen : socket.isOpen = false
  registered : socket.registered = false
  known : socket.calls = some calls

/-- Which sockets there are at a stage. `began` is whether the process had the fd open to begin
with. -/
inductive Socket.Fits (mode : EpollMode) (running began : Bool) (socket : Socket Byte) :
    ClientStage Byte → Prop where
  | unknown (isOpen : socket.isOpen = began) (registered : socket.registered = false)
      (known : socket.calls = none) : Fits mode running began socket .idle
  | served (calls : List (Relay.Call Byte Nat)) (stage : ClientStage Byte)
      (served : socket.Served began calls stage) : Fits mode running began socket stage
  | finished (calls : List (Relay.Call Byte Nat)) (gone : socket.Gone began calls)
      (finished : Finished mode running calls) : Fits mode running began socket .idle
  | broken (calls : List (Relay.Call Byte Nat)) (gone : socket.Gone began calls)
      (edge : mode.edge = true) (broken : Broken calls) :
      Fits mode running began socket (.held .recv)

/-! ### Calls on record -/

variable {mode : EpollMode} {running began : Bool} {socket : Socket Byte}
  {stage next : ClientStage Byte} {calls : List (Relay.Call Byte Nat)}
  {call : Relay.Call Byte Nat} {errno : Nat}

theorem makes_calls (call : Relay.Call Byte Nat) (known : socket.calls = some calls) :
    (socket.makes call).calls = some (calls ++ [call]) := by
  rw [Socket.makes, known]
  rfl

theorem closeClient_calls (known : socket.calls = some calls) :
    socket.closeClient.calls = some (calls ++ [.control, .close]) := by
  have closed := makes_calls .close (makes_calls .control known)
  rw [List.append_assoc] at closed
  exact closed

/-- A relay at rest has seen no `send` fail for good. -/
theorem sound_of_run {place : Relay.Place Byte} (run : Relay.Run nonblocking .fresh calls place)
    (ending : place ≠ .ending) (closed : place ≠ .closed) (failed : .writeFails errno ∈ calls) :
    wouldBlock errno = true := by
  by_contra hard
  have ends : nonblocking.writeEnds errno = true := by simpa [nonblocking] using hard
  rcases run.failure_ends ends failed with
    same | same
  · exact ending same
  · exact closed same

/-- The relay goes on by a call. -/
theorem Socket.Served.makes (served : socket.Served began calls stage) (next : ClientStage Byte)
    (step : Relay.Step nonblocking stage.relay call next.relay)
    (watched : stage.isWatched = next.isWatched) :
    (socket.makes call).Served began (calls ++ [call]) next where
  fresh := served.fresh
  isOpen := served.isOpen
  registered := served.registered.trans watched
  known := makes_calls _ served.known
  run := .next served.run step

/-- `main` goes elsewhere without a call. -/
theorem Socket.Served.moves (served : socket.Served began calls stage)
    (relay : stage.relay = next.relay) (watched : stage.isWatched = next.isWatched) :
    socket.Served began calls next :=
  { served with registered := served.registered.trans watched, run := relay ▸ served.run }

/-- What has come in plays no part in it. -/
theorem Socket.Served.onSource (served : socket.Served began calls stage)
    (happens : Readiness.Source Byte → Readiness.Source Byte) :
    (socket.onSource happens).Served began calls stage :=
  ⟨served.fresh, served.isOpen, served.registered, served.known, served.run⟩

/-- A call ends the relay, and the connection is closed. -/
theorem Socket.Served.gone (served : socket.Served began calls stage) :
    (socket.makes call).closeClient.Gone began (calls ++ [call, .control, .close]) where
  fresh := served.fresh
  isOpen := rfl
  registered := rfl
  known := by
    rw [closeClient_calls (makes_calls _ served.known), List.append_assoc]
    rfl

theorem Socket.Served.run_gone (served : socket.Served began calls stage)
    (step : Relay.Step nonblocking stage.relay call .ending) :
    Relay.Run nonblocking .fresh (calls ++ [call, .control, .close]) .closed := by
  have run := ((served.run.next step).next .controls).next .closes
  rw [List.append_assoc, List.append_assoc] at run
  exact run

/-! ### What `main` does with the fd in hand -/

/-- Where an fd is when `main` has moved on with it in hand. -/
def ClientStage.ofNext : Option (ClientPlace Byte) → ClientStage Byte
  | some place => .held place
  | none => .idle

variable {place : ClientPlace Byte} {input : EpollInput Byte} {rest : List Byte}
  {result : Socket Byte × Option (ClientPlace Byte)}

/-- A relay that no `send` has failed for good ends at once. -/
theorem Socket.Served.finishes (served : socket.Served began calls stage)
    (step : Relay.Step nonblocking stage.relay call .ending)
    (sound : ∀ errno, call ≠ .writeFails errno) :
    (socket.makes call).closeClient.Fits mode running began .idle := by
  have relay : stage.relay ≠ .ending ∧ stage.relay ≠ .closed := by
    cases stage with
    | held place => cases place with
      | echo rest => cases rest <;> exact ⟨(fun same => by cases same), fun same => by cases same⟩
      | _ => exact ⟨(fun same => by cases same), fun same => by cases same⟩
    | _ => exact ⟨(fun same => by cases same), fun same => by cases same⟩
  refine .finished _ served.gone (.once (served.run_gone step) fun _ _ errno failed => ?_)
  rcases List.mem_append.mp failed with before | now
  · exact sound_of_run served.run relay.1 relay.2 before
  · rcases List.mem_cons.mp now with same | closing
    · exact absurd same.symm (sound errno)
    · simp at closing

theorem recv_fits (served : socket.Served began calls (.held .recv))
    (step : socket.recv input = some result) :
    result.1.Fits mode running began (.ofNext result.2) := by
  unfold Socket.recv at step
  split at step
  · rename_i count
    split at step
    · rename_i may
      cases step
      have chunk : count = 0 ↔ socket.source.pending.take count = [] := by
        have bound : count ≤ socket.source.pending.length := (of_decide_eq_true may).2.2.1
        rw [← List.length_eq_zero_iff, List.length_take_of_le bound]
      split
      · rename_i none
        have ended : socket.source.pending.take count = [] := chunk.mp none
        rw [ended]
        exact (served.onSource _).finishes .ends fun _ same => by cases same
      · rename_i more
        have nonempty : socket.source.pending.take count ≠ [] := fun none => more (chunk.mpr none)
        have reads : Relay.Step nonblocking _ _ _ := .reads _ nonempty
        rw [← holding_of_ne_nil nonempty] at reads
        exact .served _ _ ((served.onSource _).makes (.held (.echo _)) reads rfl)
    · cases step
  · rename_i errno
    split at step
    · cases step
      split
      · rename_i blocked
        have goesOn : Relay.Step nonblocking (.reading : Relay.Place Byte) _ _ := .readFails errno
        simp only [nonblocking, blocked] at goesOn
        exact .served _ _ (served.makes .idle goesOn rfl)
      · rename_i hard
        have fails : Relay.Step nonblocking (.reading : Relay.Place Byte) _ _ := .readFails errno
        simp only [nonblocking, hard] at fails
        exact served.finishes fails fun _ same => by cases same
    · cases step
  · cases step

/-- Where the fd has been closed already, `recv` fails with EBADF and it is closed once more. -/
theorem recv_broken (gone : socket.Gone began calls) (edge : mode.edge = true)
    (broken : Broken calls) (step : socket.recv input = some result) :
    result.1.Fits mode running began (.ofNext result.2) := by
  unfold Socket.recv at step
  split at step
  · split at step
    · rename_i may
      have isOpen : socket.isOpen = true := (of_decide_eq_true may).1
      rw [gone.isOpen] at isOpen
      cases isOpen
    · cases step
  · rename_i errno
    split at step
    · rename_i may
      obtain rfl : errno = EBADF := by
        have fails : socket.isOpen = (errno ≠ EBADF : Bool) :=
          of_decide_eq_true (of_decide_eq_true may).1
        rw [gone.isOpen] at fails
        simpa using fails.symm
      cases step
      refine .finished (calls ++ closedAgain Byte)
        { fresh := gone.fresh, isOpen := rfl, registered := rfl, known := ?_ }
        (.twice calls edge broken rfl)
      show (socket.makes (.readFails EBADF)).closeClient.calls = _
      rw [closeClient_calls (makes_calls _ gone.known), List.append_assoc]
      rfl
    · cases step
  · cases step

theorem send_fits (served : socket.Served began calls (.held (.echo rest))) (pending : rest ≠ [])
    (step : socket.send mode rest input = some result) :
    result.1.Fits mode running began (.ofNext result.2) := by
  have here : (ClientStage.held (.echo rest)).relay = .writing rest := holding_of_ne_nil pending
  unfold Socket.send at step
  split at step
  · rename_i sent
    split at step
    · cases step
      have writes : Relay.Step nonblocking _ _ _ := .writes (rest.take sent) (rest.drop sent)
      rw [List.take_append_drop, ← here] at writes
      exact .served _ _ (served.makes (.held (.echo _)) writes rfl)
    · cases step
  · rename_i errno
    split at step
    · cases step
      have fails : Relay.Step nonblocking _ _ _ := .writeFails rest errno
      rw [← here] at fails
      split
      · rename_i blocked
        simp only [nonblocking, blocked] at fails
        unfold EpollMode.again
        split
        · exact .served _ _ (served.makes (.held .recv) fails rfl)
        · exact .served _ _ (served.makes .idle fails rfl)
      · rename_i hard
        simp only [nonblocking, hard] at fails
        have run := served.run_gone fails
        unfold EpollMode.again
        split
        · rename_i edge
          exact .broken _ served.gone edge
            ⟨run, calls, errno, eq_false_of_ne_true hard, rfl⟩
        · rename_i level
          exact .finished _ served.gone (.once run fun edge => absurd edge level)
    · cases step
  · cases step

/-- A connection that is not to be served is closed. -/
theorem Socket.Served.refuses (served : socket.Served began calls stage)
    (relay : stage.relay = .fresh) : socket.close.Fits mode running began .idle := by
  have run : Relay.Run nonblocking .fresh calls .fresh := relay ▸ served.run
  refine .finished (calls ++ [Relay.Call.close])
    { fresh := served.fresh, isOpen := rfl, registered := rfl
      known := makes_calls .close served.known }
    (.once (run.next .refuses) fun _ _ errno failed => ?_)
  refine sound_of_run run (fun same => by cases same) (fun same => by cases same) ?_
  simpa using failed

theorem handle_fits (fits : socket.Fits mode running began (.held place))
    (step : socket.handle mode running place input = some result) :
    result.1.Fits mode running began (.ofNext result.2) := by
  cases fits with
  | served calls _ served => cases place with
    | refuse =>
      cases step
      exact served.refuses rfl
    | set_nonblocking =>
      simp only [Socket.handle] at step
      split at step
      · cases step
        exact .served _ _ (served.moves rfl rfl)
      · cases step
        exact served.refuses rfl
      · cases step
    | register =>
      simp only [Socket.handle] at step
      split at step
      · cases step
        have served := served.onSource .watch
        exact .served _ _ { served with
          registered := rfl, known := makes_calls _ served.known, run := served.run.next .begins }
      · cases step
        have run := (served.run.next .declines).next .closes
        rw [List.append_assoc] at run
        refine .finished (calls ++ [.control, .close])
          { fresh := served.fresh, isOpen := rfl, registered := rfl
            known := closeClient_calls served.known }
          (.once run fun _ _ errno failed => ?_)
        refine sound_of_run served.run (fun same => by cases same) (fun same => by cases same) ?_
        simpa using failed
      · cases step
    | recv =>
      simp only [Socket.handle] at step
      split at step
      · cases step
        exact .served _ _ (served.moves rfl rfl)
      · exact recv_fits served step
    | echo rest =>
      simp only [Socket.handle] at step
      split at step
      · rename_i sent
        cases step
        rw [sent] at served
        unfold EpollMode.again
        split
        · exact .served _ _ (served.moves rfl rfl)
        · exact .served _ _ (served.moves rfl rfl)
      · rename_i pending
        exact send_fits served pending step
  | broken calls gone edge broken =>
    simp only [Socket.handle] at step
    split at step
    · rename_i stops
      cases step
      rw [Bool.and_eq_true, Bool.not_eq_true'] at stops
      refine .finished _ gone (.once broken.1 fun _ runs => ?_)
      rw [stops.2] at runs
      cases runs
    · exact recv_broken gone edge broken step

/-! ### What else happens to an fd -/

/-- What has come in plays no part in where an fd is. -/
theorem Socket.Fits.onSource (fits : socket.Fits mode running began stage)
    (happens : Readiness.Source Byte → Readiness.Source Byte) :
    (socket.onSource happens).Fits mode running began stage := by
  cases fits with
  | unknown isOpen registered known => exact .unknown isOpen registered known
  | served calls _ served => exact .served calls _ (served.onSource happens)
  | finished calls gone finished =>
    exact .finished calls ⟨gone.fresh, gone.isOpen, gone.registered, gone.known⟩ finished
  | broken calls gone edge broken =>
    exact .broken calls ⟨gone.fresh, gone.isOpen, gone.registered, gone.known⟩ edge broken

theorem Finished.interrupt (finished : Finished mode running calls) :
    Finished mode false calls := by
  cases finished with
  | once run sound => exact .once run fun _ runs => by cases runs
  | twice before edge broken again => exact .twice before edge broken again

/-- SIGINT changes nothing of where an fd is. -/
theorem Socket.Fits.interrupt (fits : socket.Fits mode running began stage) :
    socket.Fits mode false began stage := by
  cases fits with
  | unknown isOpen registered known => exact .unknown isOpen registered known
  | served calls _ served => exact .served calls _ served
  | finished calls gone finished => exact .finished calls gone finished.interrupt
  | broken calls gone edge broken => exact .broken calls gone edge broken

/-- The poller reports no fd but those that are served. -/
theorem Socket.Fits.reported (fits : socket.Fits mode running began .idle)
    (registered : socket.registered = true) : socket.Fits mode running began .ahead := by
  cases fits with
  | unknown _ unregistered => cases unregistered.symm.trans registered
  | served calls _ served => exact .served calls _ (served.moves rfl rfl)
  | finished _ gone => cases gone.registered.symm.trans registered

/-- `main` comes to an fd that has been reported. -/
theorem Socket.Fits.reached (fits : socket.Fits mode running began .ahead) (next : ClientStage Byte)
    (relay : next.relay = .reading) (watched : next.isWatched = true) :
    socket.Fits mode running began next := by
  cases fits with
  | served calls _ served => exact .served calls _ (served.moves relay.symm watched.symm)

theorem Socket.Fits.ahead_open (fits : socket.Fits mode running began .ahead) :
    socket.isOpen = true := by
  cases fits with
  | served _ _ served => exact served.isOpen

/-- `accept` returns a number that is free. -/
theorem Socket.Fits.accepted (fits : socket.Fits mode running began stage)
    (free : socket.isOpen = false) (pending : List Byte) (ended : Bool)
    (relay : (ClientStage.held place).relay = .fresh) (new : place.isNew = true) :
    (Socket.new pending ended).Fits mode running began (.held place) := by
  have fresh : began = false := by
    cases fits with
    | unknown isOpen => exact isOpen.symm.trans free
    | served _ _ served => exact served.fresh
    | finished _ gone => exact gone.fresh
    | broken _ gone => exact gone.fresh
  refine .served [] _
    { fresh := fresh, isOpen := rfl, registered := ?_, known := rfl, run := relay ▸ .start }
  show false = !place.isNew
  rw [new]
  rfl

/-- The connection a free number was last accepted for has been closed. -/
theorem Socket.Fits.past (fits : socket.Fits mode running began .idle)
    (free : socket.isOpen = false) (known : socket.calls = some calls) :
    Finished mode running calls := by
  cases fits with
  | unknown _ _ none => cases none.symm.trans known
  | served _ _ served => cases free.symm.trans served.isOpen
  | finished _ gone finished =>
    obtain rfl := Option.some.inj (gone.known.symm.trans known)
    exact finished

end Client

/-! ### All clients -/

section Server

variable {Byte : Type}

/-- Where an fd is when `main` is at a place. -/
def EpollPlace.stage (fd : Nat) : EpollPlace Byte → ClientStage Byte
  | .loop | .epoll_wait | .stopped => .idle
  | .events ahead | .accept ahead => if fd ∈ ahead then .ahead else .idle
  | .client held place ahead =>
    if fd = held then .held place else if fd ∈ ahead then .ahead else .idle

/-- The fd in hand and those that have not been reached. -/
def EpollPlace.fds : EpollPlace Byte → List Nat
  | .loop | .epoll_wait | .stopped => []
  | .events ahead | .accept ahead => ahead
  | .client held _ ahead => held :: ahead

/-- The fd of the client in hand. -/
def EpollPlace.held : EpollPlace Byte → Option Nat
  | .client held _ _ => some held
  | .loop | .epoll_wait | .stopped | .events _ | .accept _ => none

/-- An fd that is not in hand waits. -/
theorem stage_of_apart {place : EpollPlace Byte} {fd : Nat} (apart : place.held ≠ some fd) :
    place.stage fd = .idle ∨ place.stage fd = .ahead := by
  have waits (ahead : List Nat) : (if fd ∈ ahead then .ahead else .idle) =
      (.idle : ClientStage Byte) ∨ (if fd ∈ ahead then .ahead else .idle) =
        (.ahead : ClientStage Byte) := by
    split
    · exact .inr rfl
    · exact .inl rfl
  cases place with
  | client held place ahead =>
    rw [EpollPlace.stage, if_neg fun same => apart (congrArg some same.symm)]
    exact waits ahead
  | events ahead | accept ahead => exact waits ahead
  | loop | epoll_wait | stopped => exact .inl rfl

/-- Every client is where its socket says, and no fd is dealt with twice in a round. -/
structure EpollServer.Polls (mode : EpollMode) (listen_fd : Nat) (openFds : Nat → Bool)
    (server : EpollServer Byte) : Prop where
  listening : server.place ≠ .stopped → server.sockets listen_fd = .unknown true true
  unserved : (server.sockets listen_fd).calls = none
  held : server.place.held ≠ some listen_fd
  distinct : server.place.fds.Nodup
  fits : ∀ fd ≠ listen_fd,
    (server.sockets fd).Fits mode server.running (openFds fd) (server.place.stage fd)
  past : ∀ calls ∈ server.past, Finished mode server.running calls

section Steps

variable {mode : EpollMode} {listen_fd : Nat} {openFds : Nat → Bool}
  {server after : EpollServer Byte} {place old : EpollPlace Byte} {ahead : List Nat}
  {input : EpollInput Byte}

theorem polls_listening (mode : EpollMode) (listen_fd : Nat) (openFds : Nat → Bool)
    (waiting : Nat) :
    (EpollServer.listening listen_fd openFds waiting : EpollServer Byte).Polls mode listen_fd
      openFds where
  listening _ := by simp [EpollServer.listening]
  unserved := rfl
  held := fun same => by cases same
  distinct := List.nodup_nil
  fits fd other := by
    have isOpen : (openFds fd || decide (fd = listen_fd)) = openFds fd := by simp [other]
    have registered : decide (fd = listen_fd) = false := decide_eq_false other
    exact .unknown isOpen registered rfl
  past _ known := by cases known

/-- `main` goes elsewhere and touches no socket. -/
theorem EpollServer.Polls.goTo (polls : server.Polls mode listen_fd openFds)
    (here : server.place = old) (going : old ≠ .stopped) (held : place.held ≠ some listen_fd)
    (distinct : place.fds.Nodup)
    (fits : ∀ fd ≠ listen_fd, ∀ {running began : Bool} {socket : Socket Byte},
      socket.Fits mode running began (old.stage fd) →
        socket.Fits mode running began (place.stage fd)) :
    (server.goTo place).Polls mode listen_fd openFds where
  listening _ := polls.listening (here ▸ going)
  unserved := polls.unserved
  held := held
  distinct := distinct
  fits fd other := fits fd other (here ▸ polls.fits fd other)
  past := polls.past

theorem EpollServer.Polls.stop (polls : server.Polls mode listen_fd openFds)
    (here : server.place = old) (idle : ∀ fd, old.stage fd = .idle) :
    (server.stop listen_fd).Polls mode listen_fd openFds where
  listening stopped := absurd rfl stopped
  unserved := by
    show (Function.update server.sockets listen_fd _ listen_fd).calls = none
    rw [Function.update_self]
    show (server.sockets listen_fd).calls.map _ = none
    rw [polls.unserved]
    rfl
  held := fun same => by cases same
  distinct := List.nodup_nil
  fits fd other := by
    have fits := polls.fits fd other
    rw [here, idle] at fits
    show (Function.update server.sockets listen_fd _ fd).Fits mode server.running (openFds fd) .idle
    rw [Function.update_of_ne other]
    exact fits
  past := polls.past

theorem reported_running (fds : List Nat) :
    (server.reported mode listen_fd fds).running = server.running := by
  unfold EpollServer.reported
  split <;> rfl

theorem reported_past (fds : List Nat) :
    (server.reported mode listen_fd fds).past = server.past := by
  unfold EpollServer.reported
  split <;> rfl

/-- A report changes no more of a socket than whether it is on the ready list. -/
theorem reported_socket (server : EpollServer Byte) (fds : List Nat) (fd : Nat) :
    ∃ happens, (server.reported mode listen_fd fds).sockets fd =
      (server.sockets fd).onSource happens := by
  unfold EpollServer.reported
  split
  · by_cases known : fd ∈ fds
    · exact ⟨.report, if_pos known⟩
    · exact ⟨id, if_neg known⟩
  · exact ⟨id, rfl⟩

theorem EpollServer.Polls.epollWait (polls : server.Polls mode listen_fd openFds)
    (here : server.place = .epoll_wait)
    (step : server.epollWait mode listen_fd input = some after) :
    after.Polls mode listen_fd openFds := by
  unfold EpollServer.epollWait at step
  split at step
  · rename_i fds
    split at step
    · rename_i reports
      cases step
      have reports := of_decide_eq_true reports
      obtain ⟨-, distinct, known⟩ := reports
      refine ⟨fun _ => ?_, ?_, (fun same => by cases same), distinct, fun fd other => ?_, ?_⟩
      · have listening := polls.listening (by rw [here]; exact fun same => by cases same)
        show (server.reported mode listen_fd fds).sockets listen_fd = _
        unfold EpollServer.reported
        split
        · show (if listen_fd ∈ fds then _ else _) = _
          split
          · rw [listening]
            rfl
          · exact listening
        · exact listening
      · obtain ⟨happens, same⟩ := reported_socket server fds listen_fd
        exact (congrArg Socket.calls same).trans polls.unserved
      · obtain ⟨happens, same⟩ := reported_socket server fds fd
        have fits := polls.fits fd other
        rw [here] at fits
        show ((server.reported mode listen_fd fds).sockets fd).Fits mode
          (server.reported mode listen_fd fds).running _ (if fd ∈ fds then .ahead else .idle)
        rw [same, reported_running]
        refine .onSource ?_ happens
        split
        · rename_i mem
          have known := List.all_eq_true.mp known fd mem
          rw [Bool.and_eq_true] at known
          exact fits.reported known.1
        · exact fits
      · show ∀ calls ∈ (server.reported mode listen_fd fds).past,
          Finished mode (server.reported mode listen_fd fds).running calls
        rw [reported_past, reported_running]
        exact polls.past
    · cases step
  · cases step
    split
    · exact polls.goTo here (fun same => by cases same) (fun same => by cases same)
        List.nodup_nil fun _ _ _ _ _ fits => fits
    · exact polls.stop here fun _ => rfl
  · cases step

theorem EpollServer.Polls.handleNext (polls : server.Polls mode listen_fd openFds)
    (here : server.place = .events ahead) :
    (server.handleNext mode listen_fd ahead).Polls mode listen_fd openFds := by
  have going : EpollPlace.events ahead ≠ (.stopped : EpollPlace Byte) := fun same => by cases same
  have distinct := polls.distinct
  rw [here] at distinct
  cases ahead with
  | nil =>
    exact polls.goTo here going (fun same => by cases same) List.nodup_nil fun _ _ _ _ _ => id
  | cons fd rest =>
    obtain ⟨fresh, tail⟩ := List.nodup_cons.mp distinct
    show (server.goTo (if fd = listen_fd then .accept rest
      else if mode.serves then .client fd .recv rest else .events rest)).Polls mode listen_fd
        openFds
    split
    · rename_i listening
      refine polls.goTo here going (fun same => by cases same) tail
        fun other client _ _ _ fits => ?_
      have same : other ∈ fd :: rest ↔ other ∈ rest := by
        rw [List.mem_cons, listening]
        exact ⟨Or.rec (fun same => absurd same client) id, .inr⟩
      simpa only [EpollPlace.stage, same] using fits
    · rename_i client
      -- seen from an fd that is not the first, the for loop has not moved
      have apart {other : Nat} (different : other ≠ fd) : other ∈ fd :: rest ↔ other ∈ rest := by
        rw [List.mem_cons]
        exact ⟨Or.rec (fun same => absurd same different) id, .inr⟩
      split
      · refine polls.goTo here going (fun same => client (Option.some.inj same)) distinct
          fun other _ _ _ _ fits => ?_
        by_cases same : other = fd
        · rw [EpollPlace.stage, if_pos (same ▸ List.mem_cons_self)] at fits
          rw [EpollPlace.stage, if_pos same]
          exact fits.reached _ rfl rfl
        · rw [EpollPlace.stage, if_neg same]
          simpa only [EpollPlace.stage, apart same] using fits
      · refine polls.goTo here going (fun same => by cases same) tail fun other _ _ _ _ fits => ?_
        by_cases same : other = fd
        · rw [EpollPlace.stage, if_pos (same ▸ List.mem_cons_self)] at fits
          rw [EpollPlace.stage, if_neg (same ▸ fresh)]
          exact fits.reached _ rfl rfl
        · simpa only [EpollPlace.stage, apart same] using fits

/-- An fd that has been reported and not reached is open. -/
theorem EpollServer.Polls.ahead_open (polls : server.Polls mode listen_fd openFds)
    (here : server.place = .accept ahead) {fd : Nat} (known : fd ∈ ahead) :
    (server.sockets fd).isOpen = true := by
  by_cases listening : fd = listen_fd
  · rw [listening, polls.listening (by rw [here]; exact fun same => by cases same)]
    rfl
  · have fits := polls.fits fd listening
    rw [here, EpollPlace.stage, if_pos known] at fits
    exact fits.ahead_open

theorem EpollServer.Polls.acceptOne (polls : server.Polls mode listen_fd openFds)
    (here : server.place = .accept ahead) (step : server.acceptOne mode ahead input = some after) :
    after.Polls mode listen_fd openFds := by
  have going : EpollPlace.accept ahead ≠ (.stopped : EpollPlace Byte) := fun same => by cases same
  have distinct := polls.distinct
  rw [here] at distinct
  unfold EpollServer.acceptOne at step
  split at step
  · rename_i fd pending ended
    split at step
    · rename_i may
      cases step
      have listening := polls.listening (here ▸ going)
      have client : fd ≠ listen_fd := fun same => by
        rw [same, listening] at may
        cases may.1
      have apart : fd ∉ ahead := fun known => by
        cases may.1.symm.trans (polls.ahead_open here known)
      have fits := polls.fits fd client
      rw [here, EpollPlace.stage, if_neg apart] at fits
      refine ⟨fun _ => ?_, ?_, fun same => client (Option.some.inj same),
        List.nodup_cons.mpr ⟨apart, distinct⟩, fun other different => ?_, fun calls known => ?_⟩
      · show Function.update server.sockets fd _ listen_fd = _
        rw [Function.update_of_ne client.symm, listening]
      · show (Function.update server.sockets fd _ listen_fd).calls = none
        rw [Function.update_of_ne client.symm]
        exact polls.unserved
      · show (Function.update server.sockets fd _ other).Fits mode server.running (openFds other)
          (if other = fd then _ else if other ∈ ahead then .ahead else .idle)
        by_cases same : other = fd
        · rw [same, Function.update_self, if_pos rfl]
          split <;> exact fits.accepted may.1 pending ended rfl rfl
        · rw [Function.update_of_ne same, if_neg same]
          have before := polls.fits other different
          rw [here] at before
          exact before
      · rcases List.mem_append.mp known with before | now
        · exact polls.past calls before
        · exact fits.past may.1 (Option.mem_toList.mp now)
    · cases step
  · split at step
    · cases step
      exact polls.goTo here going (fun same => by cases same) distinct fun _ _ _ _ _ => id
    · cases step
  · cases step

/-- `main` has moved on with the fd in hand. -/
theorem EpollServer.Polls.handled (polls : server.Polls mode listen_fd openFds) {fd : Nat}
    {client : ClientPlace Byte} (here : server.place = .client fd client ahead)
    {result : Socket Byte × Option (ClientPlace Byte)}
    (step : (server.sockets fd).handle mode server.running client input = some result) :
    (server.handled mode fd client ahead result).Polls mode listen_fd openFds := by
  have other : fd ≠ listen_fd := fun same => polls.held (by rw [here, same]; rfl)
  have distinct := polls.distinct
  rw [here] at distinct
  obtain ⟨apart, tail⟩ := List.nodup_cons.mp distinct
  have fits := polls.fits fd other
  rw [here, EpollPlace.stage, if_pos rfl] at fits
  have fits := handle_fits fits step
  obtain ⟨socket, next⟩ := result
  have listening := polls.listening (by rw [here]; exact fun same => by cases same)
  have sockets : (Function.update server.sockets fd socket) listen_fd = server.sockets listen_fd :=
    Function.update_of_ne other.symm ..
  -- the other fds are where they were
  have stage {different : Nat} (apart : different ≠ fd) :
      (server.handled mode fd client ahead (socket, next)).place.stage different =
        server.place.stage different := by
    rw [here]
    cases next with
    | some place =>
      show (if different = fd then _ else _) = if different = fd then _ else _
      rw [if_neg apart, if_neg apart]
    | none =>
      show (mode.around client ahead).stage different = if different = fd then _ else _
      rw [if_neg apart, EpollMode.around]
      split <;> rfl
  refine ⟨fun _ => sockets.trans listening, (congrArg Socket.calls sockets).trans polls.unserved,
    ?_, ?_, fun different notListening => ?_, polls.past⟩
  · cases next with
    | some place => exact fun same => other (Option.some.inj same)
    | none =>
      show (mode.around client ahead).held ≠ _
      unfold EpollMode.around
      split <;> exact fun same => by cases same
  · cases next with
    | some place => exact distinct
    | none =>
      show (mode.around client ahead).fds.Nodup
      unfold EpollMode.around
      split <;> exact tail
  · by_cases same : different = fd
    · rw [same]
      show (Function.update server.sockets fd socket fd).Fits mode server.running (openFds fd) _
      rw [Function.update_self]
      cases next with
      | some place =>
        show socket.Fits mode server.running (openFds fd) (if fd = fd then .held place else _)
        rw [if_pos rfl]
        exact fits
      | none =>
        show socket.Fits mode server.running (openFds fd) ((mode.around client ahead).stage fd)
        unfold EpollMode.around
        split
        · show Socket.Fits mode _ _ socket (if fd ∈ ahead then .ahead else .idle)
          rw [if_neg apart]
          exact fits
        · show Socket.Fits mode _ _ socket (if fd ∈ ahead then .ahead else .idle)
          rw [if_neg apart]
          exact fits
    · rw [stage same]
      show (Function.update server.sockets fd socket different).Fits mode server.running _ _
      rw [Function.update_of_ne same]
      exact polls.fits different notListening

/-- Something comes in. -/
theorem EpollServer.Polls.comesIn (polls : server.Polls mode listen_fd openFds) {fd : Nat}
    {happens : Readiness.Source Byte → Readiness.Source Byte}
    (step : server.comesIn fd happens = some after) : after.Polls mode listen_fd openFds := by
  unfold EpollServer.comesIn at step
  split at step
  · rename_i connected
    cases step
    have client : fd ≠ listen_fd := fun same => by
      rw [same, Socket.connected, polls.unserved] at connected
      simp at connected
    have sockets : (Function.update server.sockets fd
        ((server.sockets fd).onSource happens)) listen_fd = server.sockets listen_fd :=
      Function.update_of_ne client.symm ..
    refine ⟨fun going => sockets.trans (polls.listening going),
      (congrArg Socket.calls sockets).trans polls.unserved, polls.held, polls.distinct,
      fun other different => ?_, polls.past⟩
    show (Function.update server.sockets fd _ other).Fits mode server.running _ _
    by_cases same : other = fd
    · rw [same, Function.update_self]
      exact (polls.fits fd client).onSource happens
    · rw [Function.update_of_ne same]
      exact polls.fits other different
  · cases step

theorem polls_step (polls : server.Polls mode listen_fd openFds) {event : PollEvent Byte}
    (step : server.step mode listen_fd event = some after) :
    after.Polls mode listen_fd openFds := by
  cases event with
  | main input =>
    replace step : server.main mode listen_fd input = some after := step
    unfold EpollServer.main at step
    split at step <;> rename_i here
    · cases step
      split
      · exact polls.goTo here (fun same => by cases same) (fun same => by cases same)
          List.nodup_nil fun _ _ _ _ _ => id
      · exact polls.stop here fun _ => rfl
    · exact polls.epollWait here step
    · cases step
      exact polls.handleNext here
    · split at step
      · cases step
        have distinct := polls.distinct
        rw [here] at distinct
        exact polls.goTo here (fun same => by cases same) (fun same => by cases same) distinct
          fun _ _ _ _ _ => id
      · exact polls.acceptOne here step
    · obtain ⟨result, moved, rfl⟩ := Option.map_eq_some_iff.mp step
      exact polls.handled here moved
    · cases step
  | handle_sigint =>
    cases step
    exact { polls with
      fits := fun fd other => (polls.fits fd other).interrupt
      past := fun calls known => (polls.past calls known).interrupt }
  | connects =>
    cases step
    exact { polls with }
  | arrives fd bytes => exact polls.comesIn step
  | ends fd => exact polls.comesIn step

end Steps

theorem reachable_polls {mode : EpollMode} {listen_fd : Nat} {openFds : Nat → Bool}
    {waiting : Nat} {server : EpollServer Byte}
    (reachable : Reachable (EpollServer.system Byte mode listen_fd openFds waiting) server) :
    server.Polls mode listen_fd openFds := by
  refine reachable.invariant (EpollServer.Polls mode listen_fd openFds) ?_ ?_
  · rintro _ rfl
    exact polls_listening mode listen_fd openFds waiting
  · intro server event after _ polls _ step
    exact polls_step polls step

end Server

end MultiReactor
