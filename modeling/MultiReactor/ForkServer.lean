/-
This file models the forking echo server (echo_server_fork.cpp): the parent that
accepts, and the child that serves each client, every process with a descriptor
table of its own. `fork` copies the table of the parent. A step is a test or a
system call of one process, so every interleaving of the parent and its children
is a run. SIGPIPE is taken to be ignored: where it is not, a child whose `send`
would fail with EPIPE is no more, and the kernel closes its fds. The file then
proves what the two `close` calls after `fork` are for: no child can reach the
connection of another, and a connection is released as soon as its child has
closed it.
-/

import MultiReactor.Descriptors
import MultiReactor.EchoServer

namespace MultiReactor

open Transition Descriptors

/-! ### The processes -/

/-- What an fd is open on. -/
inductive Description where
  /-- what the process was started with -/
  | other
  | listening
  /-- the connection that was accepted as this one -/
  | connection (id : Nat)
  deriving DecidableEq

/-- Where the parent stands. -/
inductive ForkPlace where
  /-- at `while(running)` -/
  | loop
  | accept
  | fork (id client_fd : Nat)
  /-- at `close(client_fd)`, whether or not `fork` has succeeded -/
  | close (id client_fd : Nat)
  | stopped
  deriving DecidableEq

/-- Where a child stands. -/
inductive ChildPlace where
  /-- at `close(listen_fd)` -/
  | closeListen
  /-- in the loop that serves the client, up to `close(client_fd)` -/
  | serve
  | exit
  | exited
  deriving DecidableEq

/-- A child process. -/
structure Child (Byte : Type) where
  fds : Table Description
  client_fd : Nat
  place : ChildPlace
  serving : Serving Byte

/-- The parent, the number of connections it has accepted, and the child of each connection. -/
structure ForkServer (Byte : Type) where
  running : Bool
  place : ForkPlace
  fds : Table Description
  accepted : Nat
  children : Nat → Option (Child Byte)

/-- What happens next: a call of the parent returns, the parent moves on elsewhere, the child of a
connection does, or the parent's signal handler runs. -/
inductive ForkEvent (Byte : Type) where
  | accept (client_fd : Option Nat)
  | fork (succeeds : Bool)
  | parent
  | child (id : Nat) (input : ServeInput Byte)
  | handle_sigint
  deriving DecidableEq

section ForkServer

variable {Byte : Type}

/-- The fds of a process that has only just begun to listen. -/
def listeningTable (listen_fd : Nat) (openFds : Nat → Bool) : Table Description :=
  Table.open (fun fd => if openFds fd then some .other else none) listen_fd .listening

def ForkServer.listening (listen_fd : Nat) (openFds : Nat → Bool) : ForkServer Byte :=
  { running := true
    place := .loop
    fds := listeningTable listen_fd openFds
    accepted := 0
    children := fun _ => none }

def ForkServer.setChild (server : ForkServer Byte) (id : Nat) (child : Child Byte) :
    ForkServer Byte :=
  { server with children := Function.update server.children id (some child) }

/-- `accept` in the parent. -/
def ForkServer.accept (server : ForkServer Byte) : Option Nat → Option (ForkServer Byte)
  | some client_fd => match server.fds client_fd with
    | some _ => none
    | none => some { server with
        fds := server.fds.open client_fd (.connection server.accepted)
        accepted := server.accepted + 1
        place := .fork server.accepted client_fd }
  | none => some { server with place := .loop }

/-- `fork`: the child has a copy of the parent's table. -/
def ForkServer.fork (server : ForkServer Byte) (id client_fd : Nat) (succeeds : Bool) :
    ForkServer Byte :=
  if succeeds then
    { server.setChild id
        { fds := server.fds, client_fd := client_fd, place := .closeListen, serving := .new } with
      place := .close id client_fd }
  else { server with place := .close id client_fd }

/-- The loop of a child goes on; it ends with `close(client_fd)`. -/
def Child.serve (child : Child Byte) (serving : Serving Byte) : Child Byte :=
  if serving.place.isDone then
    { child with fds := child.fds.close child.client_fd, place := .exit, serving := serving }
  else { child with serving := serving }

/-- A child moves on. `exit` closes what is still open. -/
def Child.step (listen_fd : Nat) (child : Child Byte) (input : ServeInput Byte) :
    Option (Child Byte) :=
  match child.place with
  | .closeListen => some { child with fds := child.fds.close listen_fd, place := .serve }
  | .serve => (child.serving.step bufferSize input).map child.serve
  | .exit => some { child with fds := .empty, place := .exited }
  | .exited => none

/-- The parent moves on where it calls neither `accept` nor `fork`. -/
def ForkServer.parent (listen_fd : Nat) (server : ForkServer Byte) : Option (ForkServer Byte) :=
  match server.place with
  | .loop =>
    some (if server.running then { server with place := .accept }
      else { server with fds := server.fds.close listen_fd, place := .stopped })
  | .close _ client_fd =>
    some { server with fds := server.fds.close client_fd, place := .loop }
  | .accept | .fork _ _ | .stopped => none

def ForkServer.step (listen_fd : Nat) (server : ForkServer Byte) :
    ForkEvent Byte → Option (ForkServer Byte)
  | .accept client_fd => match server.place with
    | .accept => server.accept client_fd
    | _ => none
  | .fork succeeds => match server.place with
    | .fork id client_fd => some (server.fork id client_fd succeeds)
    | _ => none
  | .parent => server.parent listen_fd
  | .child id input => (server.children id).bind fun child =>
      (child.step listen_fd input).map (server.setChild id)
  | .handle_sigint => some { server with running := false }

/-- The forking server as a transition system. `openFds` are the fds the parent has open besides. -/
def ForkServer.system (Byte : Type) (listen_fd : Nat) (openFds : Nat → Bool) :
    System (ForkServer Byte) (ForkEvent Byte) where
  initial server := server = .listening listen_fd openFds
  step := ForkServer.step listen_fd

/-! ### The tables -/

/-- The table of the parent at a place, from the one it has where it holds no connection. -/
def ForkPlace.table (listen_fd : Nat) (table : Table Description) : ForkPlace → Table Description
  | .loop | .accept => table
  | .fork id client_fd | .close id client_fd => table.open client_fd (.connection id)
  | .stopped => table.close listen_fd

/-- The connection the parent is holding at a place is the last one; its number was free. -/
def ForkPlace.Last (table : Table Description) (accepted : Nat) : ForkPlace → Prop
  | .fork id client_fd | .close id client_fd => accepted = id + 1 ∧ table client_fd = none
  | .loop | .accept | .stopped => True

/-- The table of a child at a place. -/
def ChildPlace.table (listen_fd : Nat) (table : Table Description) (id client_fd : Nat) :
    ChildPlace → Table Description
  | .closeListen => table.open client_fd (.connection id)
  | .serve => (table.open client_fd (.connection id)).close listen_fd
  | .exit => table.close listen_fd
  | .exited => .empty

/-- Whether the loop that serves the client is behind a child. -/
def ChildPlace.served : ChildPlace → Bool
  | .closeListen | .serve => false
  | .exit | .exited => true

/-- What is known of the child of a connection. -/
structure Child.Serves (listen_fd : Nat) (table : Table Description) (id : Nat)
    (child : Child Byte) : Prop where
  fds : child.fds = child.place.table listen_fd table id child.client_fd
  free : table child.client_fd = none
  relays : child.serving.Relays
  served : child.serving.place.isDone = child.place.served

/-- What is known of the server. A connection that has not been handed over has no child. -/
structure ForkServer.Serves (listen_fd : Nat) (table : Table Description)
    (server : ForkServer Byte) : Prop where
  fds : server.fds = server.place.table listen_fd table
  last : server.place.Last table server.accepted
  accepted : ∀ id child, server.children id = some child → id < server.accepted
  unforked : ∀ id client_fd, server.place = .fork id client_fd → server.children id = none
  children : ∀ id child, server.children id = some child → child.Serves listen_fd table id

section Steps

variable {listen_fd : Nat} {table : Table Description}

theorem Child.Serves.step {id : Nat} {child after : Child Byte} {input : ServeInput Byte}
    (listens : table listen_fd ≠ none) (serves : child.Serves listen_fd table id)
    (step : child.step listen_fd input = some after) : after.Serves listen_fd table id := by
  have fds := serves.fds
  unfold Child.step at step
  split at step
  · rename_i place
    rw [place] at fds
    cases step
    refine ⟨?_, serves.free, serves.relays, ?_⟩
    · show child.fds.close listen_fd = _
      rw [fds]
      rfl
    · rw [serves.served, place]
      rfl
  · rename_i place
    rw [place] at fds
    obtain ⟨serving, moved, rfl⟩ := Option.map_eq_some_iff.mp step
    have relays := serves.relays.step moved
    unfold Child.serve
    split
    · rename_i done
      refine ⟨?_, serves.free, relays, done⟩
      show child.fds.close child.client_fd = table.close listen_fd
      have apart : listen_fd ≠ child.client_fd := fun same => listens (same ▸ serves.free)
      rw [fds, ChildPlace.table, close_open_comm apart, close_open]
      rw [Descriptors.close_other apart.symm, serves.free]
    · rename_i more
      refine ⟨by rw [fds]; exact place ▸ rfl, serves.free, relays, ?_⟩
      rw [eq_false_of_ne_true more]
      exact place ▸ rfl
  · rename_i place
    cases step
    refine ⟨rfl, serves.free, serves.relays, ?_⟩
    rw [serves.served, place]
    rfl
  · cases step

variable {server after : ForkServer Byte}

/-- Which children there are when one has changed. -/
theorem setChild_eq_some {id other : Nat} {child next : Child Byte}
    (known : (server.setChild id child).children other = some next) :
    other = id ∧ next = child ∨ other ≠ id ∧ server.children other = some next := by
  have known : Function.update server.children id (some child) other = some next := known
  by_cases same : other = id
  · rw [same, Function.update_self] at known
    exact .inl ⟨same, (Option.some.inj known).symm⟩
  · rw [Function.update_of_ne same] at known
    exact .inr ⟨same, known⟩

theorem ForkServer.Serves.accept (serves : server.Serves listen_fd table)
    (place : server.place = .accept) {client_fd : Option Nat}
    (step : server.accept client_fd = some after) : after.Serves listen_fd table := by
  have fds : server.fds = table := by rw [serves.fds, place]; rfl
  cases client_fd with
  | none =>
    cases step
    exact ⟨fds, trivial, serves.accepted, fun _ _ same => (by cases same), serves.children⟩
  | some client_fd =>
    unfold ForkServer.accept at step
    dsimp only at step
    split at step
    · cases step
    · rename_i free
      cases step
      refine ⟨?_, ⟨rfl, fds ▸ free⟩, fun id child known => ?_, fun id fd same => ?_,
        serves.children⟩
      · show server.fds.open client_fd _ = _
        rw [fds]
        rfl
      · exact Nat.lt_succ_of_lt (serves.accepted id child known)
      · cases same
        cases new : server.children server.accepted with
        | none => rfl
        | some child => exact absurd (serves.accepted _ child new) (Nat.lt_irrefl _)

theorem ForkServer.Serves.fork (serves : server.Serves listen_fd table) {id client_fd : Nat}
    (place : server.place = .fork id client_fd) (succeeds : Bool) :
    (server.fork id client_fd succeeds).Serves listen_fd table := by
  have fds := serves.fds
  have last := serves.last
  rw [place] at fds last
  unfold ForkServer.fork
  split
  · refine ⟨fds, last, fun other child known => ?_, fun _ _ same => (by cases same),
      fun other child known => ?_⟩
    · rcases setChild_eq_some known with ⟨rfl, -⟩ | ⟨-, before⟩
      · exact last.1 ▸ Nat.lt_succ_self other
      · exact serves.accepted other child before
    · rcases setChild_eq_some known with ⟨rfl, rfl⟩ | ⟨-, before⟩
      · exact ⟨fds, last.2, relays_new, rfl⟩
      · exact serves.children other child before
  · exact ⟨fds, last, serves.accepted, fun _ _ same => (by cases same), serves.children⟩

theorem ForkServer.Serves.parent (serves : server.Serves listen_fd table)
    (step : server.parent listen_fd = some after) : after.Serves listen_fd table := by
  have fds := serves.fds
  have last := serves.last
  unfold ForkServer.parent at step
  split at step
  · rename_i place
    rw [place] at fds
    cases step
    split
    · exact ⟨fds, trivial, serves.accepted, fun _ _ same => (by cases same), serves.children⟩
    · refine ⟨?_, trivial, serves.accepted, fun _ _ same => (by cases same), serves.children⟩
      show server.fds.close listen_fd = _
      rw [fds]
      rfl
  · rename_i id client_fd place
    rw [place] at fds last
    cases step
    refine ⟨?_, trivial, serves.accepted, fun _ _ same => (by cases same), serves.children⟩
    show server.fds.close client_fd = table
    rw [fds]
    exact close_open last.2
  all_goals cases step

theorem ForkServer.Serves.child (listens : table listen_fd ≠ none)
    (serves : server.Serves listen_fd table) {id : Nat} {child moved : Child Byte}
    (known : server.children id = some child) {input : ServeInput Byte}
    (step : child.step listen_fd input = some moved) :
    (server.setChild id moved).Serves listen_fd table := by
  refine ⟨serves.fds, serves.last, fun other next found => ?_, fun other client_fd place => ?_,
    fun other next found => ?_⟩
  · rcases setChild_eq_some found with ⟨rfl, -⟩ | ⟨-, before⟩
    · exact serves.accepted other child known
    · exact serves.accepted other next before
  · have none := serves.unforked other client_fd place
    have different : other ≠ id := fun same => by
      rw [same, known] at none
      cases none
    exact (Function.update_of_ne different ..).trans none
  · rcases setChild_eq_some found with ⟨rfl, rfl⟩ | ⟨-, before⟩
    · exact (serves.children other child known).step listens step
    · exact serves.children other next before

theorem forkServes_step (listens : table listen_fd ≠ none) (serves : server.Serves listen_fd table)
    {event : ForkEvent Byte} (step : server.step listen_fd event = some after) :
    after.Serves listen_fd table := by
  cases event with
  | accept client_fd =>
    simp only [ForkServer.step] at step
    split at step
    · exact serves.accept ‹_› step
    · cases step
  | fork succeeds =>
    simp only [ForkServer.step] at step
    split at step
    · cases step
      exact serves.fork ‹_› succeeds
    · cases step
  | parent => exact serves.parent step
  | child id input =>
    obtain ⟨child, known, step⟩ := Option.bind_eq_some_iff.mp step
    obtain ⟨moved, moves, rfl⟩ := Option.map_eq_some_iff.mp step
    exact serves.child listens known moves
  | handle_sigint =>
    cases step
    exact ⟨serves.fds, serves.last, serves.accepted, serves.unforked, serves.children⟩

end Steps

section Runs

variable {listen_fd : Nat} {openFds : Nat → Bool} {server : ForkServer Byte}

theorem listeningTable_self : listeningTable listen_fd openFds listen_fd = some .listening :=
  open_self

theorem listeningTable_listens : listeningTable listen_fd openFds listen_fd ≠ none := by
  rw [listeningTable_self]
  exact fun same => by cases same

/-- A process that has only just begun to listen holds no connection. -/
theorem listeningTable_lacks (id : Nat) :
    (listeningTable listen_fd openFds).Lacks (.connection id) := by
  refine Table.Lacks.open (fun fd => ?_) fun same => by cases same
  split <;> exact fun same => by cases same

theorem reachable_forkServes
    (reachable : Reachable (ForkServer.system Byte listen_fd openFds) server) :
    server.Serves listen_fd (listeningTable listen_fd openFds) := by
  refine reachable.invariant (ForkServer.Serves listen_fd (listeningTable listen_fd openFds)) ?_ ?_
  · rintro _ rfl
    exact ⟨rfl, trivial, fun _ _ known => (by cases known), fun _ _ same => (by cases same),
      fun _ _ known => (by cases known)⟩
  · intro server event after _ serves _ step
    exact forkServes_step listeningTable_listens serves step

/-- A child holds its own connection until it has closed it, and holds no other. -/
theorem Child.Serves.holds {id other : Nat} {child : Child Byte}
    (serves : child.Serves listen_fd (listeningTable listen_fd openFds) id) :
    (∃ fd, child.fds fd = some (.connection other)) ↔
      other = id ∧ child.serving.place.isDone = false := by
  have listens : listen_fd ≠ child.client_fd := fun same =>
    listeningTable_listens (same ▸ serves.free)
  have sole : ((listeningTable listen_fd openFds).open child.client_fd (.connection id)).Sole
      child.client_fd (.connection id) := (listeningTable_lacks id).sole
  have others (different : other ≠ id) :
      ((listeningTable listen_fd openFds).open child.client_fd (.connection id)).Lacks
        (.connection other) :=
    (listeningTable_lacks other).open fun same => different (by cases same; rfl)
  have lacks {fds : Table Description} (lacks : fds.Lacks (.connection other)) :
      ¬ ∃ fd, fds fd = some (.connection other) := fun ⟨fd, known⟩ => lacks fd known
  rw [serves.fds, serves.served]
  cases child.place with
  | closeListen =>
    by_cases same : other = id
    · rw [same]
      exact iff_of_true ⟨_, sole.self⟩ ⟨rfl, rfl⟩
    · exact iff_of_false (lacks (others same)) fun own => same own.1
  | serve =>
    by_cases same : other = id
    · rw [same]
      exact iff_of_true ⟨_, (sole.close_other listens).self⟩ ⟨rfl, rfl⟩
    · exact iff_of_false (lacks (others same).close) fun own => same own.1
  | exit =>
    exact iff_of_false (lacks (listeningTable_lacks other).close) fun own => by cases own.2
  | exited => exact iff_of_false (lacks empty_lacks) fun own => by cases own.2

/-- A child can reach its own connection until it has closed it, and no other. -/
theorem Child.Serves.reaches {id other : Nat} {child : Child Byte}
    (serves : child.Serves listen_fd (listeningTable listen_fd openFds) id) :
    (∃ fd, child.fds fd = some (.connection other)) ↔
      other = id ∧ .close ∉ child.serving.calls := by
  rw [serves.holds, serves.relays.echoes.closes, Bool.not_eq_true]

/-- Some process has the connection open: the parent, or the child of some connection. -/
inductive ForkServer.Holds (server : ForkServer Byte) (id : Nat) : Prop where
  | parent (fd : Nat) (known : server.fds fd = some (.connection id))
  | child (other : Nat) (child : Child Byte) (forked : server.children other = some child)
      (fd : Nat) (known : child.fds fd = some (.connection id))

/-- Whether the parent is between `accept` and its own `close(client_fd)`. -/
def ForkPlace.holding : ForkPlace → Bool
  | .fork _ _ | .close _ _ => true
  | .loop | .accept | .stopped => false

/-- The parent holds no connection but the one it is handing over. -/
theorem ForkServer.Serves.parent_lacks
    (serves : server.Serves listen_fd (listeningTable listen_fd openFds))
    (idle : server.place.holding = false) (id : Nat) : server.fds.Lacks (.connection id) := by
  have fds := serves.fds
  generalize server.place = place at fds idle
  rw [fds]
  cases place with
  | fork | close => cases idle
  | stopped => exact (listeningTable_lacks id).close
  | loop | accept => exact listeningTable_lacks id

/-- In every interleaving of the parent and its children, the parent comes back to its loop with the
fds it began with, and a child can reach the connection it was forked for until it has closed it
and no other. What it sends there is what it has received there. -/
theorem children_isolated
    (reachable : Reachable (ForkServer.system Byte listen_fd openFds) server) :
    (server.place = .loop ∨ server.place = .accept →
      server.fds = listeningTable listen_fd openFds) ∧
    ∀ id child, server.children id = some child → child.serving.Echoes ∧
      ∀ other, (∃ fd, child.fds fd = some (.connection other)) ↔
        other = id ∧ .close ∉ child.serving.calls := by
  have serves := reachable_forkServes reachable
  refine ⟨fun idle => ?_, fun id child known => ?_⟩
  · rw [serves.fds]
    rcases idle with place | place <;> rw [place] <;> rfl
  · have child := serves.children id child known
    exact ⟨child.relays.echoes, fun _ => child.reaches⟩

/-- Two clients are accepted under the same number, each by a child of its own. -/
def forkRun : List (ForkEvent Nat) :=
  [.parent, .accept (some 4), .fork true, .parent, .child 0 .none,
    .parent, .accept (some 4), .fork true, .parent, .child 1 .none]

theorem children_isolated_two : ∃ server : ForkServer Nat, ∃ child,
    server.children 1 = some child ∧ ∀ fd, child.fds fd ≠ some (.connection 0) := by
  have run : ∃ server, Reachable (ForkServer.system Nat 3 fun _ => false) server ∧
      (server.children 1).isSome = true := exists_of_replay rfl forkRun (by decide)
  obtain ⟨server, reachable, forked⟩ := run
  obtain ⟨child, known⟩ := Option.isSome_iff_exists.mp forked
  refine ⟨server, child, known, fun fd held => ?_⟩
  have own := (((children_isolated reachable).2 1 child known).2 0).mp ⟨fd, held⟩
  cases own.1

/-- When the parent is not handing a connection over, a connection is open in some process exactly
as long as its child has not closed it: the peer sees the end as soon as the child does, and a
connection for which `fork` has failed is released at once. -/
theorem released_with_child
    (reachable : Reachable (ForkServer.system Byte listen_fd openFds) server)
    (idle : server.place.holding = false) (id : Nat) :
    server.Holds id ↔
      ∃ child, server.children id = some child ∧ .close ∉ child.serving.calls := by
  have serves := reachable_forkServes reachable
  constructor
  · rintro (⟨fd, known⟩ | ⟨other, child, forked, fd, known⟩)
    · exact absurd known (serves.parent_lacks idle id fd)
    · obtain ⟨rfl, more⟩ := (serves.children other child forked).reaches.mp ⟨fd, known⟩
      exact ⟨child, forked, more⟩
  · rintro ⟨child, forked, more⟩
    obtain ⟨fd, known⟩ := (serves.children id child forked).reaches.mpr ⟨rfl, more⟩
    exact .child id child forked fd known

/-- The first client leaves while the second is being served. -/
theorem released_with_child_two :
    ∃ server : ForkServer Nat, server.Holds 1 ∧ ¬ server.Holds 0 := by
  have run : ∃ server, Reachable (ForkServer.system Nat 3 fun _ => false) server ∧
      server.place.holding = false ∧
      (server.children 0).map (fun child => child.serving.calls) = some [.read [], .close] ∧
      (server.children 1).map (fun child => child.serving.calls) = some [] :=
    exists_of_replay rfl (forkRun ++ [.child 0 (.recv []), .child 0 .none]) (by decide)
  obtain ⟨server, reachable, idle, left, stays⟩ := run
  obtain ⟨gone, known, calls⟩ := Option.map_eq_some_iff.mp left
  obtain ⟨child, forked, none⟩ := Option.map_eq_some_iff.mp stays
  refine ⟨server, (released_with_child reachable idle 1).mpr ⟨child, forked, ?_⟩, fun held => ?_⟩
  · rw [none]
    exact List.not_mem_nil
  · obtain ⟨other, found, more⟩ := (released_with_child reachable idle 0).mp held
    obtain rfl := Option.some.inj (known.symm.trans found)
    rw [calls] at more
    exact more (by decide)

end Runs

end ForkServer

end MultiReactor
