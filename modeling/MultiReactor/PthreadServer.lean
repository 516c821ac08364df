/-
This file models the threaded echo server (echo_server_pthread.cpp): `main`,
which accepts and hands each fd to a thread of its own in an `int` on the heap,
and the threads in `client_handle`. All share one descriptor table and one heap.
A step is a test, a system call or one access to the heap, so every interleaving
is a run. The process ends when `main` returns, and its threads with it. SIGPIPE is
taken to be ignored: where it is not, a `send` that would fail with EPIPE ends the
process early. The file then proves that the hand-over is safe: what a thread reads is the
fd that was accepted for it, each `int` is deleted once by whoever has it, and
the numbers that are closed are the threads' own, however often the kernel hands
them out again.
-/

import MultiReactor.Custody
import MultiReactor.ForkServer

namespace MultiReactor

open Transition Descriptors

/-! ### The threads -/

/-- Where `main` of echo_server_pthread stands. From `accept` on it has a connection and its fd. -/
inductive PthreadPlace where
  /-- at `while(running)` -/
  | loop
  | accept
  /-- at `new int(client_fd)` -/
  | new (id client_fd : Nat)
  /-- at `pthread_create` -/
  | create (id client_fd pclient_fd : Nat)
  /-- at `delete pclient_fd`, `pthread_create` having failed -/
  | delete (id client_fd pclient_fd : Nat)
  /-- at `close(client_fd)` after it -/
  | close (id client_fd : Nat)
  | detach
  /-- at `close(listen_fd)` -/
  | shutDown
  /-- at `return 0` -/
  | leave
  | stopped
  deriving DecidableEq

/-- Where a thread stands in `client_handle`. -/
inductive ClientHandle where
  /-- at `*(int*)arg` -/
  | read (arg : Nat)
  /-- at `delete (int*)arg` -/
  | delete (arg client_fd : Nat)
  /-- in the loop that serves the client, up to `close(client_fd)` -/
  | serve (client_fd : Nat)
  | returned
  deriving DecidableEq

structure ClientThread (Byte : Type) where
  place : ClientHandle
  serving : Serving Byte

/-- `heap` are the `int`s that are allocated, by address; `threads` has the thread of each
connection. -/
structure PthreadServer (Byte : Type) where
  running : Bool
  place : PthreadPlace
  fds : Table Description
  heap : Nat → Option Nat
  accepted : Nat
  threads : Nat → Option (ClientThread Byte)

/-- What happens next: a call of `main` returns, `main` moves on elsewhere, the thread of a
connection does, or the signal handler runs. -/
inductive PthreadEvent (Byte : Type) where
  | accept (client_fd : Option Nat)
  | new (address : Nat)
  | create (succeeds : Bool)
  | main
  | thread (id : Nat) (input : ServeInput Byte)
  | handle_sigint
  deriving DecidableEq

/-- `sizeof(buffer)`: this server gives `recv` all of it. -/
def wholeBuffer : Nat := 1024

section PthreadServer

variable {Byte : Type}

def PthreadServer.listening (listen_fd : Nat) (openFds : Nat → Bool) : PthreadServer Byte :=
  { running := true
    place := .loop
    fds := listeningTable listen_fd openFds
    heap := fun _ => none
    accepted := 0
    threads := fun _ => none }

def PthreadServer.goTo (server : PthreadServer Byte) (place : PthreadPlace) : PthreadServer Byte :=
  { server with place := place }

def PthreadServer.setThread (server : PthreadServer Byte) (id : Nat) (thread : ClientThread Byte) :
    PthreadServer Byte :=
  { server with threads := Function.update server.threads id (some thread) }

def PthreadServer.free (server : PthreadServer Byte) (address : Nat) : PthreadServer Byte :=
  { server with heap := Function.update server.heap address none }

def PthreadServer.closeFd (server : PthreadServer Byte) (fd : Nat) : PthreadServer Byte :=
  { server with fds := server.fds.close fd }

def PthreadServer.accept (server : PthreadServer Byte) :
    Option Nat → Option (PthreadServer Byte)
  | some client_fd => match server.fds client_fd with
    | some _ => none
    | none => some ({ server with
        fds := server.fds.open client_fd (.connection server.accepted)
        accepted := server.accepted + 1 }.goTo (.new server.accepted client_fd))
  | none => some (server.goTo .loop)

/-- `new int(client_fd)` returns an address that is free. -/
def PthreadServer.new (server : PthreadServer Byte) (id client_fd address : Nat) :
    Option (PthreadServer Byte) :=
  match server.heap address with
  | some _ => none
  | none => some ({ server with heap := Function.update server.heap address (some client_fd) }.goTo
      (.create id client_fd address))

def PthreadServer.create (server : PthreadServer Byte) (id client_fd pclient_fd : Nat)
    (succeeds : Bool) : PthreadServer Byte :=
  if succeeds then
    (server.setThread id { place := .read pclient_fd, serving := .new }).goTo .detach
  else server.goTo (.delete id client_fd pclient_fd)

/-- The loop of a thread goes on; it ends with `close(client_fd)`. -/
def PthreadServer.serve (server : PthreadServer Byte) (id client_fd : Nat)
    (serving : Serving Byte) : PthreadServer Byte :=
  if serving.place.isDone then
    (server.closeFd client_fd).setThread id { place := .returned, serving := serving }
  else server.setThread id { place := .serve client_fd, serving := serving }

/-- A thread moves on. An address that is not allocated must not be read or deleted. -/
def PthreadServer.thread (server : PthreadServer Byte) (id : Nat) (thread : ClientThread Byte)
    (input : ServeInput Byte) : Option (PthreadServer Byte) :=
  match thread.place with
  | .read arg => (server.heap arg).map fun client_fd =>
      server.setThread id { thread with place := .delete arg client_fd }
  | .delete arg client_fd => (server.heap arg).map fun _ =>
      (server.free arg).setThread id { thread with place := .serve client_fd }
  | .serve client_fd => (thread.serving.step wholeBuffer input).map (server.serve id client_fd)
  | .returned => none

/-- `main` moves on where no result of a call is looked at. -/
def PthreadServer.main (listen_fd : Nat) (server : PthreadServer Byte) :
    Option (PthreadServer Byte) :=
  match server.place with
  | .loop =>
    some (if server.running then server.goTo .accept else server.goTo .shutDown)
  | .delete id client_fd pclient_fd => (server.heap pclient_fd).map fun _ =>
      (server.free pclient_fd).goTo (.close id client_fd)
  | .close _ client_fd => some ((server.closeFd client_fd).goTo .loop)
  | .detach => some (server.goTo .loop)
  | .shutDown => some ((server.closeFd listen_fd).goTo .leave)
  | .leave => some (server.goTo .stopped)
  | .accept | .new _ _ | .create _ _ _ | .stopped => none

def PthreadServer.happens (listen_fd : Nat) (server : PthreadServer Byte) :
    PthreadEvent Byte → Option (PthreadServer Byte)
  | .accept client_fd => match server.place with
    | .accept => server.accept client_fd
    | _ => none
  | .new address => match server.place with
    | .new id client_fd => server.new id client_fd address
    | _ => none
  | .create succeeds => match server.place with
    | .create id client_fd pclient_fd => some (server.create id client_fd pclient_fd succeeds)
    | _ => none
  | .main => server.main listen_fd
  | .thread id input => (server.threads id).bind fun thread => server.thread id thread input
  | .handle_sigint => some { server with running := false }

/-- Nothing happens any more once `main` has returned. -/
def PthreadServer.step (listen_fd : Nat) (server : PthreadServer Byte)
    (event : PthreadEvent Byte) : Option (PthreadServer Byte) :=
  if server.place = .stopped then none else server.happens listen_fd event

/-- The threaded server as a transition system. `openFds` are the fds the process has open
besides. -/
def PthreadServer.system (Byte : Type) (listen_fd : Nat) (openFds : Nat → Bool) :
    System (PthreadServer Byte) (PthreadEvent Byte) where
  initial server := server = .listening listen_fd openFds
  step := PthreadServer.step listen_fd

/-! ### Who has what -/

/-- The fd of a connection that `main` has accepted and neither passed on nor closed. -/
def PthreadPlace.holds (id : Nat) : PthreadPlace → Option Nat
  | .new own client_fd | .create own client_fd _ | .delete own client_fd _
  | .close own client_fd => if id = own then some client_fd else none
  | .loop | .accept | .detach | .shutDown | .leave | .stopped => none

/-- The `int` that `main` has on the heap. -/
def PthreadPlace.cell : PthreadPlace → Option Nat
  | .create _ _ pclient_fd | .delete _ _ pclient_fd => some pclient_fd
  | .loop | .accept | .new _ _ | .close _ _ | .detach | .shutDown | .leave | .stopped => none

/-- The `int` of `main` has the fd. -/
def PthreadPlace.Stored (heap : Nat → Option Nat) : PthreadPlace → Prop
  | .create _ client_fd pclient_fd | .delete _ client_fd pclient_fd =>
    heap pclient_fd = some client_fd
  | .loop | .accept | .new _ _ | .close _ _ | .detach | .shutDown | .leave | .stopped => True

/-- Whether `main` has yet to close the listening socket. -/
def PthreadPlace.listens : PthreadPlace → Bool
  | .leave | .stopped => false
  | _ => true

/-- The fd a thread has, or will read. -/
def ClientHandle.fd (heap : Nat → Option Nat) : ClientHandle → Option Nat
  | .read arg => heap arg
  | .delete _ client_fd | .serve client_fd => some client_fd
  | .returned => none

/-- The `int` a thread has on the heap. -/
def ClientHandle.cell : ClientHandle → Option Nat
  | .read arg | .delete arg _ => some arg
  | .serve _ | .returned => none

def ClientHandle.isReturned : ClientHandle → Bool
  | .returned => true
  | .read _ | .delete _ _ | .serve _ => false

/-- The fd of a connection. -/
def PthreadServer.number (server : PthreadServer Byte) (id : Nat) : Option Nat :=
  (server.place.holds id).or ((server.threads id).bind fun thread => thread.place.fd server.heap)

/-- The `int` that `main`, or the thread of a connection, has on the heap. -/
def PthreadServer.cell (server : PthreadServer Byte) : Option Nat → Option Nat
  | none => server.place.cell
  | some id => (server.threads id).bind fun thread => thread.place.cell

/-- Only connections that `main` has passed on have a thread, which serves its client. -/
structure PthreadServer.Passes (server : PthreadServer Byte) : Prop where
  main : ∀ id fd, server.place.holds id = some fd → id < server.accepted ∧ server.threads id = none
  accepted : ∀ id thread, server.threads id = some thread → id < server.accepted
  relays : ∀ id thread, server.threads id = some thread → thread.serving.Relays ∧
    thread.serving.place.isDone = thread.place.isReturned

/-- Every connection is open under the fd it goes with, and every `int` has one owner. -/
structure PthreadServer.Sound (listen_fd : Nat) (server : PthreadServer Byte) : Prop where
  listens : server.place.listens = true → server.fds listen_fd = some .listening
  tracks : server.fds.Tracks .connection server.number
  keeps : Custody.Keeps server.heap server.cell
  stored : server.place.Stored server.heap
  passes : server.Passes

theorem connection_injective : Function.Injective Description.connection :=
  fun _ _ same => by cases same; rfl

section Moves

variable {server : PthreadServer Byte} {id : Nat} {thread : ClientThread Byte}

/-- Which threads there are when one has changed. -/
theorem setThread_eq_some {other : Nat} {next : ClientThread Byte}
    (known : (server.setThread id thread).threads other = some next) :
    other = id ∧ next = thread ∨ other ≠ id ∧ server.threads other = some next := by
  have known : Function.update server.threads id (some thread) other = some next := known
  by_cases same : other = id
  · rw [same, Function.update_self] at known
    exact .inl ⟨same, (Option.some.inj known).symm⟩
  · rw [Function.update_of_ne same] at known
    exact .inr ⟨same, known⟩

theorem setThread_number (idle : server.place.holds id = none) :
    (server.setThread id thread).number =
      Function.update server.number id (thread.place.fd server.heap) := by
  funext other
  by_cases same : other = id
  · simp [PthreadServer.number, PthreadServer.setThread, same, idle]
  · simp [PthreadServer.number, PthreadServer.setThread, same]

theorem setThread_cell :
    (server.setThread id thread).cell =
      Function.update server.cell (some id) thread.place.cell := by
  funext owner
  cases owner with
  | none => rfl
  | some other =>
    by_cases same : other = id
    · simp [PthreadServer.cell, PthreadServer.setThread, same]
    · simp [PthreadServer.cell, PthreadServer.setThread, same]

theorem goTo_cell (place : PthreadPlace) :
    (server.goTo place).cell = Function.update server.cell none place.cell := by
  funext owner
  cases owner <;> rfl

/-- A change of the heap at an address no thread is about to read. -/
theorem number_heap (address : Nat) (value : Option Nat)
    (unread : ∀ id thread, server.threads id = some thread → thread.place ≠ .read address) :
    { server with heap := Function.update server.heap address value }.number = server.number := by
  funext id
  unfold PthreadServer.number
  cases known : server.threads id with
  | none => rfl
  | some thread =>
    have unread := unread id thread known
    cases place : thread.place with
    | read arg =>
      have different : arg ≠ address := fun same => unread (same ▸ place)
      simp [place, ClientHandle.fd, Function.update_of_ne different]
    | _ => simp [place, ClientHandle.fd]

end Moves

/-! ### The steps of `main` -/

section Main

variable {listen_fd id client_fd : Nat} {server after : PthreadServer Byte}

/-- `main` moves on with what it has. -/
theorem PthreadServer.Sound.goTo (sound : server.Sound listen_fd) (place : PthreadPlace)
    (holds : ∀ id, place.holds id = server.place.holds id) (cell : place.cell = server.place.cell)
    (stored : place.Stored server.heap)
    (listens : place.listens = true → server.place.listens = true) :
    (server.goTo place).Sound listen_fd where
  listens yet := sound.listens (listens yet)
  tracks := by
    have same : (server.goTo place).number = server.number :=
      funext fun id => congrArg (Option.or · _) (holds id)
    rw [same]
    exact sound.tracks
  keeps := by
    have same : (server.goTo place).cell = server.cell := by
      rw [goTo_cell, cell]
      exact Function.update_eq_self none server.cell
    rw [same]
    exact sound.keeps
  stored := stored
  passes := ⟨fun id fd own => sound.passes.main id fd ((holds id) ▸ own), sound.passes.accepted,
    sound.passes.relays⟩

theorem PthreadServer.Sound.accept (sound : server.Sound listen_fd)
    (place : server.place = .accept) {accepted : Option Nat}
    (step : server.accept accepted = some after) : after.Sound listen_fd := by
  cases accepted with
  | none =>
    cases step
    exact sound.goTo .loop (fun _ => place ▸ rfl) (place ▸ rfl) trivial
      fun _ => place ▸ rfl
  | some client_fd =>
    unfold PthreadServer.accept at step
    dsimp only at step
    split at step
    · cases step
    · rename_i free
      cases step
      have new : server.threads server.accepted = none := by
        cases known : server.threads server.accepted with
        | none => rfl
        | some thread => exact absurd (sound.passes.accepted _ thread known) (Nat.lt_irrefl _)
      have idle (id : Nat) : server.place.holds id = none := place ▸ rfl
      have number : server.number server.accepted = none := by
        simp [PthreadServer.number, idle, new]
      refine ⟨fun _ => ?_, ?_, ?_, trivial, fun id fd own => ?_, fun id thread known => ?_,
        sound.passes.relays⟩
      · have listens := sound.listens (place ▸ rfl)
        have apart : listen_fd ≠ client_fd := fun same => by
          rw [same, free] at listens
          cases listens
        exact (open_other apart).trans listens
      · have opens : ({ server with
            fds := server.fds.open client_fd (.connection server.accepted)
            accepted := server.accepted + 1 }.goTo (.new server.accepted client_fd)).number =
              Function.update server.number server.accepted (some client_fd) := by
          funext id
          by_cases same : id = server.accepted
          · simp [PthreadServer.number, PthreadServer.goTo, PthreadPlace.holds, same]
          · simp [PthreadServer.number, PthreadServer.goTo, PthreadPlace.holds, same, place]
        rw [opens]
        exact sound.tracks.open connection_injective number free
      · rw [goTo_cell, show PthreadPlace.cell (.new server.accepted client_fd) =
          server.cell none from (place ▸ rfl : none = server.place.cell)]
        exact (Function.update_eq_self none server.cell).symm ▸ sound.keeps
      · have own : (if id = server.accepted then some client_fd else none) = some fd := own
        split at own
        · rename_i same
          exact ⟨same ▸ Nat.lt_succ_self _, same ▸ new⟩
        · cases own
      · exact Nat.lt_succ_of_lt (sound.passes.accepted id thread known)

/-- An address nobody has is not about to be read. -/
theorem unread_of_cell (server : PthreadServer Byte) (address : Nat)
    (free : ∀ owner, server.cell (some owner) ≠ some address) (id : Nat)
    (thread : ClientThread Byte) (known : server.threads id = some thread) :
    thread.place ≠ .read address := fun place =>
  free id (by simp [PthreadServer.cell, known, place, ClientHandle.cell])

theorem PthreadServer.Sound.new (sound : server.Sound listen_fd)
    (place : server.place = .new id client_fd) {address : Nat}
    (step : server.new id client_fd address = some after) : after.Sound listen_fd := by
  unfold PthreadServer.new at step
  split at step
  · cases step
  · rename_i free
    cases step
    have unread := unread_of_cell server address fun owner own =>
      (sound.keeps.allocated address).mpr ⟨some owner, own⟩ free
    have same := number_heap address (some client_fd) unread
    refine ⟨fun _ => sound.listens (place ▸ rfl), ?_, ?_, Function.update_self ..,
      fun other fd own => ?_, sound.passes.accepted, sound.passes.relays⟩
    · have moved : ({ server with
          heap := Function.update server.heap address (some client_fd) }.goTo
            (.create id client_fd address)).number = server.number := by
        rw [← same]
        funext other
        simp [PthreadServer.number, PthreadServer.goTo, PthreadPlace.holds, place]
      rw [moved]
      exact sound.tracks
    · have empty : server.cell none = none := congrArg PthreadPlace.cell place
      rw [goTo_cell]
      exact sound.keeps.allocate empty free client_fd
    · exact sound.passes.main other fd (place ▸ own)

theorem PthreadServer.Sound.create (sound : server.Sound listen_fd) {pclient_fd : Nat}
    (place : server.place = .create id client_fd pclient_fd) (succeeds : Bool) :
    (server.create id client_fd pclient_fd succeeds).Sound listen_fd := by
  have own : server.place.holds id = some client_fd := by
    rw [place]
    exact if_pos rfl
  have stored : server.heap pclient_fd = some client_fd := by
    have stored := sound.stored
    rwa [place] at stored
  obtain ⟨accepted, new⟩ := sound.passes.main id client_fd own
  unfold PthreadServer.create
  split
  · refine ⟨fun _ => sound.listens (place ▸ rfl), ?_, ?_, trivial,
      fun _ _ own => (by cases own), fun other thread known => ?_, fun other thread known => ?_⟩
    · have passes : ((server.setThread id { place := .read pclient_fd, serving := .new }).goTo
          .detach).number = server.number := by
        funext other
        by_cases same : other = id
        · simp [PthreadServer.number, PthreadServer.goTo, PthreadServer.setThread, same, place,
            PthreadPlace.holds, ClientHandle.fd, stored]
        · simp [PthreadServer.number, PthreadServer.goTo, PthreadServer.setThread, same, place,
            PthreadPlace.holds]
      rw [passes]
      exact sound.tracks
    · have cell : server.cell none = some pclient_fd := congrArg PthreadPlace.cell place
      have empty : server.cell (some id) = none := by simp [PthreadServer.cell, new]
      rw [goTo_cell, setThread_cell, Function.update_comm (fun same => by cases same)]
      exact sound.keeps.pass cell empty
    · rcases setThread_eq_some known with ⟨rfl, -⟩ | ⟨-, before⟩
      · exact accepted
      · exact sound.passes.accepted other thread before
    · rcases setThread_eq_some known with ⟨rfl, rfl⟩ | ⟨-, before⟩
      · exact ⟨relays_new, rfl⟩
      · exact sound.passes.relays other thread before
  · exact sound.goTo _ (fun _ => place ▸ rfl) (place ▸ rfl) stored
      fun _ => place ▸ rfl

theorem PthreadServer.Sound.main_step (sound : server.Sound listen_fd)
    (step : server.main listen_fd = some after) : after.Sound listen_fd := by
  unfold PthreadServer.main at step
  split at step
  · rename_i place
    cases step
    split
    · exact sound.goTo .accept (fun _ => place ▸ rfl) (place ▸ rfl) trivial fun _ => place ▸ rfl
    · exact sound.goTo .shutDown (fun _ => place ▸ rfl) (place ▸ rfl) trivial fun _ => place ▸ rfl
  · rename_i id client_fd pclient_fd place
    obtain ⟨value, -, rfl⟩ := Option.map_eq_some_iff.mp step
    have cell : server.cell none = some pclient_fd := congrArg PthreadPlace.cell place
    have unread := unread_of_cell server pclient_fd fun owner own => by
      cases sound.keeps.alone none (some owner) pclient_fd cell own
    have same := number_heap pclient_fd none unread
    have freed : ((server.free pclient_fd).goTo (.close id client_fd)).number = server.number := by
      rw [← same]
      funext other
      simp [PthreadServer.number, PthreadServer.goTo, PthreadServer.free, PthreadPlace.holds, place]
    refine ⟨fun _ => sound.listens (place ▸ rfl), ?_, ?_, trivial,
      fun other fd own => sound.passes.main other fd (place ▸ own), sound.passes.accepted,
      sound.passes.relays⟩
    · rw [freed]
      exact sound.tracks
    · rw [goTo_cell]
      exact sound.keeps.free cell
  · rename_i id client_fd place
    have own : server.place.holds id = some client_fd := by
      rw [place]
      exact if_pos rfl
    have number : server.number id = some client_fd := by
      simp [PthreadServer.number, own]
    have new := (sound.passes.main id client_fd own).2
    cases step
    have closed : ((server.closeFd client_fd).goTo .loop).number =
        Function.update server.number id none := by
      funext other
      by_cases same : other = id
      · simp [PthreadServer.number, PthreadServer.goTo, PthreadServer.closeFd, same, new,
          PthreadPlace.holds]
      · simp [PthreadServer.number, PthreadServer.goTo, PthreadServer.closeFd, same, place,
          PthreadPlace.holds]
    refine ⟨fun _ => ?_, ?_, ?_, trivial, fun _ _ own => (by cases own), sound.passes.accepted,
      sound.passes.relays⟩
    · have listens := sound.listens (place ▸ rfl)
      have apart := (sound.tracks.held id client_fd number).apart listens fun same => by cases same
      exact (Descriptors.close_other apart).trans listens
    · rw [closed]
      exact sound.tracks.close connection_injective number
    · rw [goTo_cell, show PthreadPlace.cell .loop = server.cell none from
        (congrArg PthreadPlace.cell place).symm]
      exact (Function.update_eq_self none server.cell).symm ▸ sound.keeps
  · rename_i place
    cases step
    exact sound.goTo .loop (fun _ => place ▸ rfl) (place ▸ rfl) trivial fun _ => place ▸ rfl
  · rename_i place
    have closed : ((server.closeFd listen_fd).goTo .leave).number = server.number := by
      funext id
      simp [PthreadServer.number, PthreadServer.goTo, PthreadServer.closeFd, place,
        PthreadPlace.holds]
    cases step
    refine ⟨fun listens => (by cases listens), ?_, ?_, trivial, fun _ _ own => (by cases own),
      sound.passes.accepted, sound.passes.relays⟩
    · rw [closed]
      exact sound.tracks.close_outside (sound.listens (place ▸ rfl)) fun _ same => by cases same
    · rw [goTo_cell, show PthreadPlace.cell .leave = server.cell none from
        (congrArg PthreadPlace.cell place).symm]
      exact (Function.update_eq_self none server.cell).symm ▸ sound.keeps
  · rename_i place
    cases step
    exact sound.goTo .stopped (fun _ => place ▸ rfl) (place ▸ rfl) trivial
      fun listens => by cases listens
  all_goals cases step

end Main

/-! ### The steps of a thread -/

section Thread

variable {listen_fd id : Nat} {server after : PthreadServer Byte} {thread : ClientThread Byte}

/-- `main` has passed on the connection of a thread. -/
theorem PthreadServer.Sound.passed (sound : server.Sound listen_fd)
    (known : server.threads id = some thread) : server.place.holds id = none := by
  cases own : server.place.holds id with
  | none => rfl
  | some fd => cases known.symm.trans (sound.passes.main id fd own).2

/-- A thread changes. -/
theorem PthreadServer.Passes.setThread (passes : server.Passes)
    (known : server.threads id = some thread) {next : ClientThread Byte}
    (relays : next.serving.Relays) (done : next.serving.place.isDone = next.place.isReturned) :
    (server.setThread id next).Passes where
  main other fd own := by
    obtain ⟨accepted, none⟩ := passes.main other fd own
    have different : other ≠ id := fun same => by
      rw [same, known] at none
      cases none
    exact ⟨accepted, (Function.update_of_ne different ..).trans none⟩
  accepted other found being := by
    rcases setThread_eq_some being with ⟨rfl, -⟩ | ⟨-, before⟩
    · exact passes.accepted other thread known
    · exact passes.accepted other found before
  relays other found being := by
    rcases setThread_eq_some being with ⟨rfl, rfl⟩ | ⟨-, before⟩
    · exact ⟨relays, done⟩
    · exact passes.relays other found before

/-- The fd of a thread is that of its connection. -/
theorem PthreadServer.Sound.number (sound : server.Sound listen_fd)
    (known : server.threads id = some thread) :
    server.number id = thread.place.fd server.heap := by
  simp [PthreadServer.number, sound.passed known, known]

/-- A thread moves on with the fd and the `int` it has. -/
theorem PthreadServer.Sound.setThread (sound : server.Sound listen_fd)
    (known : server.threads id = some thread) (next : ClientThread Byte)
    (fd : next.place.fd server.heap = thread.place.fd server.heap)
    (cell : next.place.cell = thread.place.cell) (relays : next.serving.Relays)
    (done : next.serving.place.isDone = next.place.isReturned) :
    (server.setThread id next).Sound listen_fd where
  listens := sound.listens
  tracks := by
    rw [setThread_number (sound.passed known), fd, ← sound.number known,
      Function.update_eq_self]
    exact sound.tracks
  keeps := by
    have same : next.place.cell = server.cell (some id) := by
      simp [PthreadServer.cell, known, cell]
    rw [setThread_cell, same, Function.update_eq_self]
    exact sound.keeps
  stored := sound.stored
  passes := sound.passes.setThread known relays done

/-- `delete (int*)arg`. -/
theorem PthreadServer.Sound.delete (sound : server.Sound listen_fd)
    (known : server.threads id = some thread) {arg client_fd : Nat}
    (place : thread.place = .delete arg client_fd) :
    ((server.free arg).setThread id { thread with place := .serve client_fd }).Sound
      listen_fd := by
  have cell : server.cell (some id) = some arg := by
    simp [PthreadServer.cell, known, place, ClientHandle.cell]
  have others {owner : Option Nat} (own : server.cell owner = some arg) : owner = some id :=
    sound.keeps.alone owner (some id) arg own cell
  have same : (server.free arg).number = server.number := by
    refine number_heap arg none fun other found being read => ?_
    have own : server.cell (some other) = some arg := by
      simp [PthreadServer.cell, being, read, ClientHandle.cell]
    obtain rfl := Option.some.inj (others own)
    obtain rfl := Option.some.inj (known.symm.trans being)
    cases place.symm.trans read
  have number : server.number id = some client_fd := by
    rw [sound.number known, place]
    rfl
  have passes : (server.free arg).Passes :=
    ⟨sound.passes.main, sound.passes.accepted, sound.passes.relays⟩
  obtain ⟨relays, done⟩ := sound.passes.relays id thread known
  refine ⟨sound.listens, ?_, ?_, ?_, passes.setThread known relays (done.trans (place ▸ rfl))⟩
  · have keeps : ((server.free arg).setThread id
        { thread with place := .serve client_fd }).number = server.number := by
      have idle : (server.free arg).place.holds id = none := sound.passed known
      rw [setThread_number idle, same,
        show ClientHandle.fd _ (.serve client_fd) = server.number id from number.symm,
        Function.update_eq_self]
    rw [keeps]
    exact sound.tracks
  · rw [setThread_cell]
    exact sound.keeps.free cell
  · have stored := sound.stored
    have apart : server.place.cell ≠ some arg := fun own => by
      cases others (show server.cell none = some arg from own)
    show server.place.Stored (Function.update server.heap arg none)
    generalize server.place = place at stored apart
    cases place with
    | create | delete =>
      exact (Function.update_of_ne (fun same => apart (congrArg some same)) ..).trans stored
    | _ => trivial

/-- The connection of a thread is closed, and it returns. -/
theorem PthreadServer.Sound.close (sound : server.Sound listen_fd)
    (known : server.threads id = some thread) {client_fd : Nat}
    (place : thread.place = .serve client_fd) {serving : Serving Byte} (relays : serving.Relays)
    (done : serving.place.isDone = true) :
    ((server.closeFd client_fd).setThread id { place := .returned, serving := serving }).Sound
      listen_fd := by
  have number : server.number id = some client_fd := by
    rw [sound.number known, place]
    rfl
  have none : server.cell (some id) = none := by
    simp [PthreadServer.cell, known, place, ClientHandle.cell]
  have tracks := sound.tracks.close connection_injective number
  have passes : (server.closeFd client_fd).Passes :=
    ⟨sound.passes.main, sound.passes.accepted, sound.passes.relays⟩
  refine ⟨fun yet => ?_, ?_, ?_, sound.stored, passes.setThread known relays done⟩
  · have listens := sound.listens yet
    have apart := (sound.tracks.held id client_fd number).apart listens fun same => by cases same
    exact (Descriptors.close_other apart).trans listens
  · have idle : (server.closeFd client_fd).place.holds id = Option.none := sound.passed known
    rw [setThread_number idle]
    exact tracks
  · rw [setThread_cell, show ClientHandle.cell .returned = (server.closeFd client_fd).cell (some id)
      from none.symm, Function.update_eq_self]
    exact sound.keeps

theorem PthreadServer.Sound.thread_step (sound : server.Sound listen_fd)
    (known : server.threads id = some thread) {input : ServeInput Byte}
    (step : server.thread id thread input = some after) : after.Sound listen_fd := by
  obtain ⟨relays, done⟩ := sound.passes.relays id thread known
  unfold PthreadServer.thread at step
  split at step
  · rename_i arg place
    obtain ⟨client_fd, stored, rfl⟩ := Option.map_eq_some_iff.mp step
    refine sound.setThread known _ ?_ (place ▸ rfl) relays (done.trans (place ▸ rfl))
    rw [place]
    exact stored.symm
  · rename_i arg client_fd place
    obtain ⟨-, -, rfl⟩ := Option.map_eq_some_iff.mp step
    exact sound.delete known place
  · rename_i client_fd place
    obtain ⟨serving, moved, rfl⟩ := Option.map_eq_some_iff.mp step
    have relays := relays.step moved
    unfold PthreadServer.serve
    split
    · exact sound.close known place relays ‹_›
    · rename_i more
      exact sound.setThread known _ (place ▸ rfl) (place ▸ rfl) relays (eq_false_of_ne_true more)
  · cases step

end Thread

/-! ### Over a run -/

section Run

variable {listen_fd : Nat} {openFds : Nat → Bool} {server after : PthreadServer Byte}

theorem pthreadSound_step (sound : server.Sound listen_fd) {event : PthreadEvent Byte}
    (step : server.step listen_fd event = some after) : after.Sound listen_fd := by
  obtain ⟨-, step⟩ := Option.ite_none_left_eq_some.mp step
  cases event with
  | accept client_fd =>
    simp only [PthreadServer.happens] at step
    split at step
    · exact sound.accept ‹_› step
    · cases step
  | new address =>
    simp only [PthreadServer.happens] at step
    split at step
    · exact sound.new ‹_› step
    · cases step
  | create succeeds =>
    simp only [PthreadServer.happens] at step
    split at step
    · cases step
      exact sound.create ‹_› succeeds
    · cases step
  | main => exact sound.main_step step
  | thread id input =>
    obtain ⟨thread, known, moved⟩ := Option.bind_eq_some_iff.mp step
    exact sound.thread_step known moved
  | handle_sigint =>
    cases step
    exact ⟨sound.listens, sound.tracks, sound.keeps, sound.stored,
      sound.passes.main, sound.passes.accepted, sound.passes.relays⟩

theorem reachable_pthreadSound
    (reachable : Reachable (PthreadServer.system Byte listen_fd openFds) server) :
    server.Sound listen_fd := by
  refine reachable.invariant (PthreadServer.Sound listen_fd) ?_ ?_
  · rintro _ rfl
    have idle : (PthreadServer.listening listen_fd openFds : PthreadServer Byte).cell =
        fun _ => none := by
      funext owner
      cases owner <;> rfl
    refine ⟨fun _ => listeningTable_self, ⟨fun _ _ goes => (by cases goes), fun id _ =>
      listeningTable_lacks id⟩, ?_, trivial, fun _ _ own => (by cases own),
      fun _ _ known => (by cases known), fun _ _ known => (by cases known)⟩
    rw [idle]
    exact Custody.keeps_empty
  · intro server event after _ sound _ step
    exact pthreadSound_step sound step

/-- In every interleaving the `int` a thread reads is allocated and has the fd of the connection
that was accepted for it. What `main` or a thread has yet to read or delete is allocated and had by
nobody else, and every `int` that is allocated will be deleted by whoever has it. -/
theorem argument_handed_over
    (reachable : Reachable (PthreadServer.system Byte listen_fd openFds) server) :
    (∀ id thread arg, server.threads id = some thread → thread.place = .read arg →
      ∃ client_fd, server.heap arg = some client_fd ∧
        ∀ fd, server.fds fd = some (.connection id) ↔ fd = client_fd) ∧
    (∀ owner address, server.cell owner = some address → server.heap address ≠ none ∧
      ∀ other, server.cell other = some address → other = owner) ∧
    ∀ address, server.heap address ≠ none → ∃ owner, server.cell owner = some address := by
  have sound := reachable_pthreadSound reachable
  refine ⟨fun id thread arg known place => ?_, fun owner address own => ?_,
    fun address allocated => (sound.keeps.allocated address).mp allocated⟩
  · have cell : server.cell (some id) = some arg := by
      simp [PthreadServer.cell, known, place, ClientHandle.cell]
    obtain ⟨client_fd, stored⟩ := sound.keeps.isSome cell
    refine ⟨client_fd, stored, sound.tracks.held id client_fd ?_⟩
    rw [sound.number known, place]
    exact stored
  · exact ⟨(sound.keeps.allocated address).mpr ⟨owner, own⟩,
      fun other held => sound.keeps.alone other owner address held own⟩

/-- A client is accepted and handed over; its thread has not begun. -/
def pthreadRun : List (PthreadEvent Nat) :=
  [.main, .accept (some 4), .new 100, .create true, .main]

theorem argument_handed_over_read : ∃ server : PthreadServer Nat, ∃ client_fd,
    server.heap 100 = some client_fd ∧ server.fds client_fd = some (.connection 0) := by
  have run : ∃ server, Reachable (PthreadServer.system Nat 3 fun _ => false) server ∧
      (server.threads 0).map ClientThread.place = some (.read 100) :=
    exists_of_replay rfl pthreadRun (by decide)
  obtain ⟨server, reachable, begun⟩ := run
  obtain ⟨thread, known, place⟩ := Option.map_eq_some_iff.mp begun
  obtain ⟨client_fd, stored, sole⟩ := (argument_handed_over reachable).1 0 thread 100 known place
  exact ⟨server, client_fd, stored, (sole client_fd).mpr rfl⟩

/-- A connection is open as long as `main` is passing it on or its thread has not closed it, and a
thread serves its client on the one fd that is open on its own connection: closing that fd closes no
other connection, whichever numbers `accept` returns. What a thread sends is what it has received.
-/
theorem own_connection_only
    (reachable : Reachable (PthreadServer.system Byte listen_fd openFds) server) :
    (∀ id, (∃ fd, server.fds fd = some (.connection id)) ↔
      (∃ fd, server.place.holds id = some fd) ∨
        ∃ thread, server.threads id = some thread ∧ .close ∉ thread.serving.calls) ∧
    ∀ id thread, server.threads id = some thread → thread.serving.Echoes ∧
      ∀ client_fd, thread.place = .serve client_fd →
        ∀ fd, server.fds fd = some (.connection id) ↔ fd = client_fd := by
  have sound := reachable_pthreadSound reachable
  refine ⟨fun id => ?_, fun id thread known => ⟨?_, fun client_fd place => ?_⟩⟩
  · simp only [sound.tracks.known_iff]
    cases known : server.threads id with
    | none => simp [PthreadServer.number, known]
    | some thread =>
      obtain ⟨relays, done⟩ := sound.passes.relays id thread known
      rw [sound.number known, sound.passed known]
      simp only [Option.some.injEq, exists_eq_left', relays.echoes.closes, done, reduceCtorEq,
        exists_false, false_or]
      cases place : thread.place with
      | read arg =>
        have cell : server.cell (some id) = some arg := by
          simp [PthreadServer.cell, known, place, ClientHandle.cell]
        obtain ⟨client_fd, stored⟩ := sound.keeps.isSome cell
        simp [ClientHandle.fd, ClientHandle.isReturned, stored]
      | _ => simp [ClientHandle.fd, ClientHandle.isReturned]
  · exact (sound.passes.relays id thread known).1.echoes
  · refine sound.tracks.held id client_fd ?_
    rw [sound.number known, place]
    rfl

/-- The client leaves, and the next one gets its number. -/
theorem own_connection_only_reused : ∃ server : PthreadServer Nat,
    (∃ fd, server.fds fd = some (.connection 1)) ∧
      ¬ ∃ fd, server.fds fd = some (.connection 0) := by
  have run : ∃ server, Reachable (PthreadServer.system Nat 3 fun _ => false) server ∧
      server.place = .new 1 4 ∧
      (server.threads 0).map (fun thread => thread.serving.calls) = some [.read [], .close] :=
    exists_of_replay rfl
      (pthreadRun ++ [.thread 0 .none, .thread 0 .none, .thread 0 (.recv []), .thread 0 .none,
        .main, .accept (some 4)]) (by decide)
  obtain ⟨server, reachable, place, left⟩ := run
  obtain ⟨thread, known, calls⟩ := Option.map_eq_some_iff.mp left
  have isOpen := (own_connection_only reachable).1
  refine ⟨server, (isOpen 1).mpr (.inl ⟨4, by rw [place]; rfl⟩), fun held => ?_⟩
  rcases (isOpen 0).mp held with ⟨fd, own⟩ | ⟨other, found, more⟩
  · rw [place] at own
    cases own
  · obtain rfl := Option.some.inj (known.symm.trans found)
    rw [calls] at more
    exact more (by decide)

end Run

end PthreadServer

end MultiReactor
