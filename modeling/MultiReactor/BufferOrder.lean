/-
This file proves what the buffered echo server does with the bytes of its
clients. What has been accepted by `send`, what is cached and what the echo loop
still holds are together what was received, for the connection that has the fd
and no other, so nothing is left under an fd that has been closed. The bytes are
also in the order in which they were received, as long as no `send` of the recv
loop gets past bytes that are cached. Both are the same argument, for two ways
to compare lists.
-/

import Mathlib.Data.List.Perm.Basic
import MultiReactor.BufferServer

namespace MultiReactor

open Transition

section Order

variable {Byte : Type}

/-! ### The account of an fd -/

/-- What the echo loop still holds of the bytes received on an fd. -/
def MainPlace.inflight (fd : Nat) : MainPlace Byte → List Byte
  | .echo event rest _ => if fd = event.fd then rest else []
  | _ => []

/-- What there is under an fd number: the connection it was last accepted for, whether it is open
and registered, what is cached and what the echo loop holds. -/
structure Account (Byte : Type) where
  peer : Option (Peer Byte)
  isOpen : Bool
  isRegistered : Bool
  buffer : Option (List Byte)
  inflight : List Byte

/-- What is cached. -/
def Account.cached (account : Account Byte) : List Byte :=
  account.buffer.getD []

def Account.holding (account : Account Byte) (inflight : List Byte) : Account Byte :=
  { account with inflight := inflight }

def Account.onPeer (account : Account Byte) (happens : Peer Byte → Peer Byte) : Account Byte :=
  { account with peer := account.peer.map happens }

def Account.setBuffer (account : Account Byte) (buffer : Option (List Byte)) : Account Byte :=
  { account with buffer := buffer }

def Account.close (account : Account Byte) : Account Byte :=
  { account.onPeer (Peer.issue [.close]) with isOpen := false, isRegistered := false }

def Account.register (account : Account Byte) : Account Byte :=
  { account.onPeer (Peer.issue [.epoll_ctl]) with isRegistered := true }

def Account.newClient (account : Account Byte) : Account Byte :=
  { account with isOpen := true, peer := some .new }

def BufferServer.account (server : BufferServer Byte) (fd : Nat) : Account Byte :=
  { peer := server.latest fd
    isOpen := server.openFds fd
    isRegistered := server.registered fd
    buffer := server.output_buffers fd
    inflight := server.place.inflight fd }

section Frames

variable (server : BufferServer Byte) {fd other : Nat}

theorem account_goTo (place : MainPlace Byte) :
    (server.goTo place).account fd = (server.account fd).holding (place.inflight fd) :=
  rfl

theorem account_onPeer_self (happens : Peer Byte → Peer Byte) :
    (server.onPeer fd happens).account fd = (server.account fd).onPeer happens := by
  simp [BufferServer.account, BufferServer.onPeer, Account.onPeer]

theorem account_onPeer_other (different : other ≠ fd) (happens : Peer Byte → Peer Byte) :
    (server.onPeer fd happens).account other = server.account other := by
  simp [BufferServer.account, BufferServer.onPeer, different]

theorem account_setBuffer_self (buffer : Option (List Byte)) :
    (server.setBuffer fd buffer).account fd = (server.account fd).setBuffer buffer := by
  simp [BufferServer.account, BufferServer.setBuffer, Account.setBuffer]

theorem account_setBuffer_other (different : other ≠ fd) (buffer : Option (List Byte)) :
    (server.setBuffer fd buffer).account other = server.account other := by
  simp [BufferServer.account, BufferServer.setBuffer, different]

theorem account_close_self : (server.close fd).account fd = (server.account fd).close := by
  simp [BufferServer.account, BufferServer.close, BufferServer.onPeer, Account.close,
    Account.onPeer]

theorem account_close_other (different : other ≠ fd) :
    (server.close fd).account other = server.account other := by
  simp [BufferServer.account, BufferServer.close, BufferServer.onPeer, different]

theorem account_register_self : (server.register fd).account fd = (server.account fd).register := by
  simp [BufferServer.account, BufferServer.register, BufferServer.onPeer, Account.register,
    Account.onPeer]

theorem account_register_other (different : other ≠ fd) :
    (server.register fd).account other = server.account other := by
  simp [BufferServer.account, BufferServer.register, BufferServer.onPeer, different]

theorem account_newClient_self :
    (server.newClient fd).account fd = (server.account fd).newClient := by
  simp [BufferServer.account, BufferServer.newClient, Account.newClient]

theorem account_newClient_other (different : other ≠ fd) :
    (server.newClient fd).account other = server.account other := by
  simp [BufferServer.account, BufferServer.newClient, different]

/-- A server that has moved on and holds no more and no less of the bytes of an fd. -/
theorem account_goTo_same {place : MainPlace Byte}
    (same : place.inflight fd = server.place.inflight fd) :
    (server.goTo place).account fd = server.account fd := by
  rw [account_goTo, same]
  rfl

theorem account_closeClient_self :
    (server.closeClient fd).account fd =
      (((server.account fd).onPeer (Peer.issue [.epoll_ctl])).setBuffer none).close := by
  rw [BufferServer.closeClient, account_close_self, account_setBuffer_self, account_onPeer_self]

theorem account_closeClient_other (different : other ≠ fd) :
    (server.closeClient fd).account other = server.account other := by
  rw [BufferServer.closeClient, account_close_other _ different,
    account_setBuffer_other _ different, account_onPeer_other _ different]

theorem inflight_self (event : EpollEvent) (rest : List Byte) (ahead : List EpollEvent) :
    (MainPlace.echo event rest ahead).inflight event.fd = rest :=
  if_pos rfl

end Frames

/-! ### What is known of the fds that are handled -/

/-- The events that have not been reached. -/
def MainPlace.ahead : MainPlace Byte → List EpollEvent
  | .events ahead | .accept ahead | .set_nonblocking _ ahead | .register _ ahead
  | .recv _ ahead | .echo _ _ ahead | .epollout _ ahead | .drain _ ahead => ahead
  | .loop | .epoll_wait | .stopped => []

/-- The client that is being handled. -/
def MainPlace.client : MainPlace Byte → Option Nat
  | .set_nonblocking fd _ | .register fd _ => some fd
  | .recv event _ | .echo event _ _ | .epollout event _ | .drain event _ => some event.fd
  | .loop | .epoll_wait | .events _ | .accept _ | .stopped => none

/-- Whether the client that is being handled has only been accepted. -/
def MainPlace.fresh : MainPlace Byte → Bool
  | .set_nonblocking _ _ | .register _ _ => true
  | _ => false

/-- The fds that are being handled or will be. -/
def MainPlace.fds (place : MainPlace Byte) : List Nat :=
  place.client.toList ++ place.ahead.map EpollEvent.fd

/-- An fd that is open, and is the listening socket's or a client's. -/
def Account.Watched (account : Account Byte) (isListening : Prop) : Prop :=
  account.isOpen = true ∧ (isListening ∨ account.peer.isSome = true)

/-- What is known of the fd of a client: there is a connection, and epoll knows no closed one. -/
structure Account.Tied (account : Account Byte) : Prop where
  peer : account.peer.isSome = true
  registered : account.isRegistered = true → account.isOpen = true

/-- The fds epoll knows and the fds of the events ahead are open, and the current event's client is
a client. -/
structure BufferServer.Known (listen_fd : Nat) (server : BufferServer Byte) : Prop where
  registered : ∀ fd, (server.account fd).isRegistered = true →
    (server.account fd).Watched (fd = listen_fd)
  distinct : server.place.fds.Nodup
  ahead : ∀ event ∈ server.place.ahead, (server.account event.fd).Watched (event.fd = listen_fd)
  client : ∀ fd, server.place.client = some fd → (server.account fd).peer.isSome = true
  fresh : ∀ fd, server.place.client = some fd → server.place.fresh = true →
    (server.account fd).isOpen = true

/-! ### Which fds a step leaves alone -/

section Step

variable {listen_fd fd : Nat} {server after : BufferServer Byte} {input : MainInput Byte}

/-- A test changes the account of no fd. -/
theorem move_account {place : MainPlace Byte} (moved : MainMove listen_fd server server.place place)
    (fd : Nat) : (server.goTo place).account fd = server.account fd := by
  refine account_goTo_same server ?_
  generalize server.place = old at moved
  cases moved <;> simp [MainPlace.inflight]

/-- The echo loop holds bytes of the client that is handled. -/
theorem inflight_other {place : MainPlace Byte} (other : place.client ≠ some fd) :
    place.inflight fd = [] := by
  cases place with
  | echo event rest ahead => exact if_neg fun same => other (congrArg some same.symm)
  | _ => rfl

theorem account_goTo_other {middle : BufferServer Byte} {place : MainPlace Byte}
    (same : middle.account fd = server.account fd) (before : server.place.client ≠ some fd)
    (later : place.client ≠ some fd) : (middle.goTo place).account fd = server.account fd := by
  have none_before : (server.account fd).inflight = [] := inflight_other before
  rw [account_goTo, same, inflight_other later, ← none_before]
  rfl

/-- An fd that is handled neither before a step nor after it keeps its account. -/
theorem step_account_other {other : Nat} (moved : MainStep listen_fd server input after)
    (before : server.place.client ≠ some other) (later : after.place.client ≠ some other) :
    after.account other = server.account other := by
  have different {fd : Nat} (client : server.place.client = some fd) : other ≠ fd :=
    fun same => before (same ▸ client)
  cases moved with
  | move _ place moved => exact move_account moved other
  | accepted fd ahead place fresh =>
    have different : other ≠ fd := fun same => later (congrArg some same.symm)
    exact account_goTo_other (account_newClient_other server different) before later
  | refused errno fd ahead place =>
    have different := different (congrArg MainPlace.client place)
    exact account_goTo_other (account_close_other server different) before later
  | registered fd ahead place =>
    have different := different (congrArg MainPlace.client place)
    exact account_goTo_other (account_register_other server different) before later
  | unregistered errno fd ahead place =>
    have different := different (congrArg MainPlace.client place)
    refine account_goTo_other ?_ before later
    rw [account_close_other _ different, account_onPeer_other _ different]
  | receives event bytes ahead place running isOpen nonempty =>
    have different := different (congrArg MainPlace.client place)
    refine account_goTo_other ?_ before later
    rw [account_onPeer_other _ different, account_onPeer_other _ different]
  | recvBlocked errno event ahead place running =>
    have different := different (congrArg MainPlace.client place)
    exact account_goTo_other (account_onPeer_other server different _) before later
  | recvCloses input event ahead place running closes =>
    have different := different (congrArg MainPlace.client place)
    refine account_goTo_other ?_ before later
    rw [account_closeClient_other _ different, account_onPeer_other _ different]
  | sends sent event rest ahead place isOpen =>
    have different := different (congrArg MainPlace.client place)
    refine account_goTo_other ?_ before later
    rw [account_onPeer_other _ different, account_onPeer_other _ different]
  | caches errno event rest ahead place isOpen =>
    have different := different (congrArg MainPlace.client place)
    refine account_goTo_other ?_ before later
    rw [account_onPeer_other _ different, account_setBuffer_other _ different,
      account_onPeer_other _ different]
  | sendCloses errno event rest ahead place pending closes =>
    have different := different (congrArg MainPlace.client place)
    refine account_goTo_other ?_ before later
    rw [account_closeClient_other _ different, account_onPeer_other _ different]
  | silences input event ahead place masked =>
    have different := different (congrArg MainPlace.client place)
    exact account_goTo_other (account_onPeer_other server different _) before later
  | drainBlocked errno event ahead place =>
    have different := different (congrArg MainPlace.client place)
    exact account_goTo_other (account_onPeer_other server different _) before later
  | drainCloses errno event ahead place =>
    have different := different (congrArg MainPlace.client place)
    refine account_goTo_other ?_ before later
    rw [account_closeClient_other _ different, account_onPeer_other _ different]
  | drained event ahead place isOpen =>
    have different := different (congrArg MainPlace.client place)
    refine account_goTo_other ?_ before later
    rw [account_onPeer_other _ different, account_setBuffer_other _ different,
      account_onPeer_other _ different, account_onPeer_other _ different]
  | drains sent event ahead place isOpen =>
    have different := different (congrArg MainPlace.client place)
    refine account_goTo_other ?_ before later
    rw [account_setBuffer_other _ different, account_onPeer_other _ different,
      account_onPeer_other _ different]

/-- A step that goes on with the client that is handled, or is done with it, leaves every other fd
alone. -/
theorem handled_account_other {other : Nat} {old : MainPlace Byte}
    (moved : MainStep listen_fd server input after) (place : server.place = old)
    (client : old.client = some fd)
    (next : after.place.client = none ∨ after.place.client = some fd ∧ after.place.fresh = false)
    (different : other ≠ fd) : after.account other = server.account other := by
  refine step_account_other moved ?_ ?_
  · rw [place, client]
    exact fun same => different (Option.some.inj same).symm
  · rcases next with done | ⟨same, -⟩
    · rw [done]
      exact fun same => by cases same
    · exact fun other => different (Option.some.inj (other.symm.trans same))

/-- `accept` leaves every fd alone but the one it returns. -/
theorem accepted_account_other {other : Nat} {ahead : List EpollEvent}
    (place : server.place = .accept ahead) (different : other ≠ fd) :
    ((server.newClient fd).goTo (.set_nonblocking fd ahead)).account other =
      server.account other := by
  refine account_goTo_other (account_newClient_other server different) ?_
    fun same => different (Option.some.inj same).symm
  rw [place]
  exact fun same => by cases same

end Step

/-! ### The accounts balance -/

/-- Two ways to compare what went out and is held with what was received: `whole` for a connection
that is open, and `part` for what was sent on one that has been closed. -/
structure Compares (whole part : List Byte → List Byte → Prop) : Prop where
  nil : whole [] []
  append : ∀ {held received : List Byte} (more : List Byte), whole held received →
    whole (held ++ more) (received ++ more)
  part : ∀ {sent kept received : List Byte}, whole (sent ++ kept) received → part sent received

/-- What went out and is held is what was received on the connection. Nothing is held under an fd
that is not open or is no connection's. -/
inductive Account.Balanced (whole part : List Byte → List Byte → Prop) : Account Byte → Prop where
  | unused (isOpen isRegistered : Bool) : Balanced whole part ⟨none, isOpen, isRegistered, none, []⟩
  | closed (peer : Peer Byte) (isRegistered : Bool) (sent : part peer.accepted peer.received) :
      Balanced whole part ⟨some peer, false, isRegistered, none, []⟩
  | opened (peer : Peer Byte) (isRegistered : Bool) (buffer : Option (List Byte))
      (inflight : List Byte)
      (balance : whole (peer.accepted ++ (buffer.getD [] ++ inflight)) peer.received) :
      Balanced whole part ⟨some peer, true, isRegistered, buffer, inflight⟩

section Accounts

variable {whole part : List Byte → List Byte → Prop} {account : Account Byte}

theorem holding_same {inflight : List Byte} (same : account.inflight = inflight) :
    account.holding inflight = account := by
  rw [← same]
  rfl

theorem Account.Balanced.holding {inflight : List Byte} (balanced : account.Balanced whole part)
    (same : account.inflight = inflight) : (account.holding inflight).Balanced whole part :=
  (holding_same same).symm ▸ balanced

/-- A call that moves no bytes. -/
theorem Account.Balanced.issue (balanced : account.Balanced whole part) (calls : List Syscall) :
    (account.onPeer (Peer.issue calls)).Balanced whole part := by
  cases balanced with
  | unused => exact .unused _ _
  | closed peer _ sent => exact .closed _ _ sent
  | opened peer _ buffer inflight balance => exact .opened _ _ _ _ balance

theorem Account.Balanced.register (balanced : account.Balanced whole part) :
    account.register.Balanced whole part := by
  cases balanced with
  | unused => exact .unused _ _
  | closed peer _ sent => exact .closed _ _ sent
  | opened peer _ buffer inflight balance => exact .opened _ _ _ _ balance

/-- A connection is closed and its cache erased. -/
theorem Account.Balanced.close (compares : Compares whole part)
    (balanced : account.Balanced whole part) :
    ((account.setBuffer none).close.holding []).Balanced whole part := by
  cases balanced with
  | unused => exact .unused _ _
  | closed peer _ sent => exact .closed _ _ sent
  | opened peer _ buffer inflight balance => exact .closed _ _ (compares.part balance)

/-- A connection is closed with nothing cached. -/
theorem Account.Balanced.discard (compares : Compares whole part)
    (balanced : account.Balanced whole part) (none : account.buffer = none) :
    (account.close.holding []).Balanced whole part := by
  have closed := balanced.close compares
  rwa [Account.setBuffer, ← none] at closed

/-- Nothing is held under an fd that is not open. -/
theorem Account.Balanced.idle (balanced : account.Balanced whole part)
    (fresh : account.isOpen = false) : account.buffer = none ∧ account.inflight = [] := by
  cases balanced with
  | unused | closed => exact ⟨rfl, rfl⟩
  | opened => cases fresh

/-- Nothing is held of a connection on which nothing has been received. -/
theorem Account.Balanced.newClient (compares : Compares whole part)
    (balanced : account.Balanced whole part) (fresh : account.isOpen = false) :
    account.newClient.Balanced whole part ∧
      ∀ peer, account.peer = some peer → part peer.accepted peer.received := by
  cases balanced with
  | unused => exact ⟨.opened _ _ _ _ compares.nil, fun peer known => by cases known⟩
  | closed peer _ sent =>
    refine ⟨.opened _ _ _ _ compares.nil, fun old known => ?_⟩
    obtain rfl := Option.some.inj known
    exact sent
  | opened => cases fresh

/-- The `recv` loop reads with nothing left to echo. -/
theorem Account.Balanced.receive (compares : Compares whole part)
    (balanced : account.Balanced whole part) (isOpen : account.isOpen = true)
    (known : account.peer.isSome = true) (idle : account.inflight = []) (bytes : List Byte) :
    ((account.onPeer (Peer.receive bytes)).holding bytes).Balanced whole part := by
  cases balanced with
  | unused => cases known
  | closed => cases isOpen
  | opened peer _ buffer inflight balance =>
    obtain rfl : inflight = [] := idle
    refine .opened _ _ _ _ ?_
    have more := compares.append bytes balance
    rwa [List.append_nil, List.append_assoc] at more

/-- A `send` of the echo loop takes its bytes from what the loop holds. -/
theorem Account.Balanced.send (balanced : account.Balanced whole part)
    (isOpen : account.isOpen = true) (known : account.peer.isSome = true) (sent : Nat)
    (turn : ∀ out received, whole (out ++ (account.cached ++ account.inflight)) received →
      whole (out ++ account.inflight.take sent ++ (account.cached ++ account.inflight.drop sent))
        received) :
    ((account.onPeer (Peer.accept (account.inflight.take sent))).holding
      (account.inflight.drop sent)).Balanced whole part := by
  cases balanced with
  | unused => cases known
  | closed => cases isOpen
  | opened peer _ buffer inflight balance => exact .opened _ _ _ _ (turn _ _ balance)

/-- What the echo loop holds joins what is cached. -/
theorem Account.Balanced.cache (balanced : account.Balanced whole part)
    (isOpen : account.isOpen = true) (known : account.peer.isSome = true) :
    ((account.setBuffer (some (account.cached ++ account.inflight))).holding []).Balanced
      whole part := by
  cases balanced with
  | unused => cases known
  | closed => cases isOpen
  | opened peer _ buffer inflight balance =>
    refine .opened _ _ _ _ ?_
    show whole (peer.accepted ++ (buffer.getD [] ++ inflight ++ [])) peer.received
    rwa [List.append_nil]

/-- A `send` of the EPOLLOUT branch takes its bytes from what is cached. -/
theorem Account.Balanced.drain (balanced : account.Balanced whole part)
    (isOpen : account.isOpen = true) (known : account.peer.isSome = true) {out : List Byte}
    {left : Option (List Byte)} (split : out ++ left.getD [] = account.cached) :
    ((account.onPeer (Peer.accept out)).setBuffer left).Balanced whole part := by
  cases balanced with
  | unused => cases known
  | closed => cases isOpen
  | opened peer _ buffer inflight balance =>
    refine .opened _ _ _ _ ?_
    have same : peer.accepted ++ out ++ (left.getD [] ++ inflight) =
        peer.accepted ++ (buffer.getD [] ++ inflight) := by
      rw [List.append_assoc, ← List.append_assoc out, split]
      rfl
    exact same ▸ balance

end Accounts

section Known

section Tied

variable {account : Account Byte} (tied : account.Tied)
include tied

theorem Account.Tied.onPeer (happens : Peer Byte → Peer Byte) : (account.onPeer happens).Tied :=
  ⟨by rw [Account.onPeer, Option.isSome_map]; exact tied.peer, tied.registered⟩

theorem Account.Tied.setBuffer (buffer : Option (List Byte)) : (account.setBuffer buffer).Tied :=
  ⟨tied.peer, tied.registered⟩

theorem Account.Tied.holding (inflight : List Byte) : (account.holding inflight).Tied :=
  ⟨tied.peer, tied.registered⟩

theorem Account.Tied.close : account.close.Tied :=
  ⟨(tied.onPeer _).peer, fun registered => by cases registered⟩

theorem Account.Tied.register (isOpen : account.isOpen = true) : account.register.Tied :=
  ⟨(tied.onPeer _).peer, fun _ => isOpen⟩

/-- `closeClient`. -/
theorem Account.Tied.closeClient :
    ((account.onPeer (Peer.issue [.epoll_ctl])).setBuffer none).close.Tied :=
  ((tied.onPeer _).setBuffer none).close

end Tied

variable {listen_fd : Nat} {server after : BufferServer Byte} {input : MainInput Byte}

theorem known_listening (openFds : Nat → Bool) :
    (BufferServer.listening listen_fd openFds : BufferServer Byte).Known listen_fd where
  registered fd registered := by
    obtain rfl : fd = listen_fd := of_decide_eq_true registered
    exact ⟨by simp [BufferServer.account, BufferServer.listening], .inl rfl⟩
  distinct := List.nodup_nil
  ahead _ reached := by cases reached
  client _ handled := by cases handled
  fresh _ handled := by cases handled

/-- A test leaves the accounts alone, so it only matters what is handled after it. -/
theorem BufferServer.Known.goTo {place : MainPlace Byte} (known : server.Known listen_fd)
    (accounts : ∀ fd, (server.goTo place).account fd = server.account fd)
    (distinct : place.fds.Nodup)
    (ahead : ∀ event ∈ place.ahead, (server.account event.fd).Watched (event.fd = listen_fd))
    (client : ∀ fd, place.client = some fd → (server.account fd).peer.isSome = true)
    (fresh : ∀ fd, place.client = some fd → place.fresh = true →
      (server.account fd).isOpen = true) : (server.goTo place).Known listen_fd where
  registered fd := by
    rw [accounts]
    exact known.registered fd
  distinct := distinct
  ahead event reached := by
    rw [accounts]
    exact ahead event reached
  client fd handled := by
    rw [accounts]
    exact client fd handled
  fresh fd handled is := by
    rw [accounts]
    exact fresh fd handled is

/-- What is known after a test. -/
theorem BufferServer.Known.move {old place : MainPlace Byte} (known : server.Known listen_fd)
    (stands : server.place = old) (moved : MainMove listen_fd server old place) :
    (server.goTo place).Known listen_fd := by
  have goTo := known.goTo (move_account (stands ▸ moved))
  have distinct := known.distinct
  have ahead := known.ahead
  have client := known.client
  have fresh := known.fresh
  rw [stands] at distinct ahead client fresh
  have idle {client : Option Nat} (handles : client = none) {holds : Nat → Prop} (fd : Nat)
      (handled : client = some fd) : holds fd := by cases handles.symm.trans handled
  cases moved with
  | enter | stop | interrupted | failed | handled | acceptEnds =>
    exact goTo distinct ahead (idle rfl) (idle rfl)
  | reported events reported =>
    obtain ⟨-, different, all⟩ := of_decide_eq_true reported
    refine goTo different (fun event reached => ?_) (idle rfl) (idle rfl)
    exact known.registered event.fd (List.all_eq_true.mp all event reached)
  | listening event rest listens =>
    exact goTo distinct.of_cons (fun event reached => ahead event (.tail _ reached)) (idle rfl)
      (idle rfl)
  | client event rest other =>
    refine goTo distinct (fun event reached => ahead event (.tail _ reached)) ?_ ?_
    · intro fd handled
      obtain rfl := Option.some.inj handled
      exact (ahead event (.head _)).2.resolve_left other
    · exact fun fd _ fresh => by cases fresh
  | nonblocking fd rest => exact goTo distinct ahead client fresh
  | recvStops | echoed | drain =>
    exact goTo distinct ahead client fun fd _ fresh => by cases fresh
  | unmasked event rest => exact goTo distinct.of_cons ahead (idle rfl) (idle rfl)

/-- What is known after a call for the client that is handled. -/
theorem BufferServer.Known.handled {fd : Nat} {old : MainPlace Byte}
    (known : server.Known listen_fd) (moved : MainStep listen_fd server input after)
    (place : server.place = old) (client : old.client = some fd)
    (next : after.place.client = none ∨ after.place.client = some fd ∧ after.place.fresh = false)
    (ahead : old.ahead = after.place.ahead)
    (tied : (after.account fd).Tied) : after.Known listen_fd := by
  have distinct := known.distinct
  have watched := known.ahead
  rw [place] at distinct watched
  have others {other : Nat} (different : other ≠ fd) :
      after.account other = server.account other :=
    handled_account_other moved place client next different
  rw [MainPlace.fds, client] at distinct
  have beyond : ∀ event ∈ old.ahead, event.fd ≠ fd := fun event reached same =>
    (List.nodup_cons.mp distinct).1 (same ▸ List.mem_map_of_mem reached)
  refine ⟨fun other => ?_, ?_, fun event reached => ?_, fun other handled => ?_,
    fun other handled fresh => ?_⟩
  · by_cases same : other = fd
    · subst same
      exact fun is => ⟨tied.registered is, .inr tied.peer⟩
    · rw [others same]
      exact known.registered other
  · rw [MainPlace.fds, ← ahead]
    rcases next with none | ⟨same, -⟩
    · rw [none]
      exact distinct.of_cons
    · rw [same]
      exact distinct
  · rw [← ahead] at reached
    rw [others (beyond event reached)]
    exact watched event reached
  · rcases next with none | ⟨same, -⟩
    · cases none.symm.trans handled
    · obtain rfl := Option.some.inj (same.symm.trans handled)
      exact tied.peer
  · rcases next with none | ⟨-, stale⟩
    · cases none.symm.trans handled
    · cases stale.symm.trans fresh

/-- What is known when `accept` has returned a new connection. -/
theorem BufferServer.Known.accepted {fd : Nat} {ahead : List EpollEvent}
    (known : server.Known listen_fd) (place : server.place = .accept ahead)
    (fresh : server.openFds fd = false) :
    ((server.newClient fd).goTo (.set_nonblocking fd ahead)).Known listen_fd := by
  have here : (((server.newClient fd).goTo (.set_nonblocking fd ahead)).account fd) =
      (server.account fd).newClient.holding [] := by
    rw [account_goTo, account_newClient_self]
    rfl
  have others {other : Nat} (different : other ≠ fd) :
      ((server.newClient fd).goTo (.set_nonblocking fd ahead)).account other =
        server.account other :=
    accepted_account_other place different
  have watched := known.ahead
  have distinct := known.distinct
  rw [place] at watched distinct
  have beyond : ∀ event ∈ ahead, event.fd ≠ fd := by
    intro event reached same
    have isOpen := (watched event reached).1
    rw [same] at isOpen
    cases fresh.symm.trans isOpen
  refine ⟨fun other => ?_, List.nodup_cons.mpr ⟨fun reached => ?_, distinct⟩,
    fun event reached => ?_, fun other handled => ?_, fun other handled _ => ?_⟩
  · by_cases same : other = fd
    · rw [same, here]
      exact fun _ => ⟨rfl, .inr rfl⟩
    · rw [others same]
      exact known.registered other
  · obtain ⟨event, reached, same⟩ := List.mem_map.mp reached
    exact beyond event reached same
  · rw [others (beyond event reached)]
    exact watched event reached
  · obtain rfl := Option.some.inj handled
    rw [here]
    rfl
  · obtain rfl := Option.some.inj handled
    rw [here]
    rfl

/-- What is known lasts. -/
theorem known_step (known : server.Known listen_fd)
    (moved : MainStep listen_fd server input after) : after.Known listen_fd := by
  have tied {old : MainPlace Byte} (place : server.place = old) {fd : Nat}
      (client : old.client = some fd) : (server.account fd).Tied :=
    ⟨known.client fd (place ▸ client), fun registered => (known.registered fd registered).1⟩
  have handled {fd : Nat} {old : MainPlace Byte} :=
    @BufferServer.Known.handled _ _ _ _ _ fd old known moved
  cases moved with
  | move _ place moved => exact known.move rfl moved
  | accepted fd ahead place fresh => exact known.accepted place fresh
  | refused errno fd rest place =>
    refine handled place rfl (.inl rfl) rfl ?_
    rw [account_goTo, account_close_self]
    exact (tied place rfl).close.holding _
  | registered fd rest place =>
    refine handled place rfl (.inl rfl) rfl ?_
    rw [account_goTo, account_register_self]
    have isOpen := known.fresh fd (congrArg MainPlace.client place) (congrArg MainPlace.fresh place)
    exact ((tied place rfl).register isOpen).holding _
  | unregistered errno fd rest place =>
    refine handled place rfl (.inl rfl) rfl ?_
    rw [account_goTo, account_close_self, account_onPeer_self]
    exact ((tied place rfl).onPeer _).close.holding _
  | receives event bytes rest place running isOpen nonempty =>
    refine handled place rfl (.inr ⟨rfl, rfl⟩) rfl ?_
    rw [account_goTo, account_onPeer_self, account_onPeer_self]
    exact (((tied place rfl).onPeer _).onPeer _).holding _
  | recvBlocked errno event rest place running =>
    refine handled place rfl (.inr ⟨rfl, rfl⟩) rfl ?_
    rw [account_goTo, account_onPeer_self]
    exact ((tied place rfl).onPeer _).holding _
  | recvCloses _ event rest place running closes =>
    refine handled place rfl (.inr ⟨rfl, rfl⟩) rfl ?_
    rw [account_goTo, account_closeClient_self, account_onPeer_self]
    exact ((tied place rfl).onPeer _).closeClient.holding _
  | sends sent event bytes rest place isOpen =>
    refine handled place rfl (.inr ⟨rfl, rfl⟩) rfl ?_
    rw [account_goTo, account_onPeer_self, account_onPeer_self]
    exact (((tied place rfl).onPeer _).onPeer _).holding _
  | caches errno event bytes rest place isOpen =>
    refine handled place rfl (.inr ⟨rfl, rfl⟩) rfl ?_
    rw [account_goTo, account_onPeer_self, account_setBuffer_self, account_onPeer_self]
    exact ((((tied place rfl).onPeer _).setBuffer _).onPeer _).holding _
  | sendCloses errno event bytes rest place pending closes =>
    refine handled place rfl (.inr ⟨rfl, rfl⟩) rfl ?_
    rw [account_goTo, account_closeClient_self, account_onPeer_self]
    exact ((tied place rfl).onPeer _).closeClient.holding _
  | silences _ event rest place masked =>
    refine handled place rfl (.inl rfl) rfl ?_
    rw [account_goTo, account_onPeer_self]
    exact ((tied place rfl).onPeer _).holding _
  | drainBlocked errno event rest place =>
    refine handled place rfl (.inl rfl) rfl ?_
    rw [account_goTo, account_onPeer_self]
    exact ((tied place rfl).onPeer _).holding _
  | drainCloses errno event rest place =>
    refine handled place rfl (.inl rfl) rfl ?_
    rw [account_goTo, account_closeClient_self, account_onPeer_self]
    exact ((tied place rfl).onPeer _).closeClient.holding _
  | drained event rest place isOpen =>
    refine handled place rfl (.inl rfl) rfl ?_
    rw [account_goTo, account_onPeer_self, account_setBuffer_self, account_onPeer_self,
      account_onPeer_self]
    exact (((((tied place rfl).onPeer _).onPeer _).setBuffer _).onPeer _).holding _
  | drains sent event rest place isOpen =>
    refine handled place rfl (.inl rfl) rfl ?_
    rw [account_goTo, account_setBuffer_self, account_onPeer_self, account_onPeer_self]
    exact ((((tied place rfl).onPeer _).onPeer _).setBuffer _).holding _

end Known

section Balance

variable {whole part : List Byte → List Byte → Prop} {listen_fd : Nat}
  {server after : BufferServer Byte} {input : MainInput Byte}

/-- The accounts of every fd balance, and so did those of the connections whose numbers have been
accepted again. Nothing is cached for a client that has only been accepted. -/
structure BufferServer.Balanced (whole part : List Byte → List Byte → Prop)
    (server : BufferServer Byte) : Prop where
  fds : ∀ fd, (server.account fd).Balanced whole part
  past : ∀ peer ∈ server.past, part peer.accepted peer.received
  fresh : ∀ fd, server.place.client = some fd → server.place.fresh = true →
    (server.account fd).buffer = none

theorem balanced_listening (openFds : Nat → Bool) :
    (BufferServer.listening listen_fd openFds).Balanced whole part where
  fds _ := .unused _ _
  past _ known := by cases known
  fresh _ handled := by cases handled

/-- A test moves no bytes. -/
theorem BufferServer.Balanced.move {old place : MainPlace Byte}
    (balanced : server.Balanced whole part) (stands : server.place = old)
    (moved : MainMove listen_fd server old place) : (server.goTo place).Balanced whole part := by
  have accounts := move_account (stands ▸ moved)
  have before := balanced.fresh
  rw [stands] at before
  refine ⟨fun fd => ?_, balanced.past, fun fd handled fresh => ?_⟩
  · rw [accounts]
    exact balanced.fds fd
  · rw [accounts]
    cases moved with
    | nonblocking fd ahead => exact before _ handled fresh
    | _ => cases fresh

theorem BufferServer.Balanced.accepted (compares : Compares whole part) {fd : Nat}
    {ahead : List EpollEvent} (balanced : server.Balanced whole part)
    (place : server.place = .accept ahead) (fresh : server.openFds fd = false) :
    ((server.newClient fd).goTo (.set_nonblocking fd ahead)).Balanced whole part := by
  have idle := (balanced.fds fd).idle fresh
  obtain ⟨account, closed⟩ := (balanced.fds fd).newClient compares fresh
  have here : (((server.newClient fd).goTo (.set_nonblocking fd ahead)).account fd) =
      (server.account fd).newClient := by
    rw [account_goTo, account_newClient_self]
    exact holding_same idle.2
  refine ⟨fun other => ?_, fun peer known => ?_, fun other handled _ => ?_⟩
  · by_cases same : other = fd
    · rw [same, here]
      exact account
    · rw [accepted_account_other place same]
      exact balanced.fds other
  · rcases List.mem_append.mp known with before | latest
    · exact balanced.past peer before
    · exact closed peer (Option.mem_toList.mp latest)
  · obtain rfl := Option.some.inj handled
    rw [here]
    exact idle.1

/-- What happens to the bytes of the client that is handled is all that happens. -/
theorem BufferServer.Balanced.handled {fd : Nat} {old : MainPlace Byte}
    (balanced : server.Balanced whole part) (moved : MainStep listen_fd server input after)
    (place : server.place = old) (client : old.client = some fd)
    (next : after.place.client = none ∨ after.place.client = some fd ∧ after.place.fresh = false)
    (past : after.past = server.past) (here : (after.account fd).Balanced whole part) :
    after.Balanced whole part := by
  refine ⟨fun other => ?_, fun peer known => ?_, fun other handled fresh => ?_⟩
  · by_cases same : other = fd
    · rw [same]
      exact here
    · rw [handled_account_other moved place client next same]
      exact balanced.fds other
  · exact balanced.past peer (past ▸ known)
  · rcases next with done | ⟨-, stale⟩
    · cases done.symm.trans handled
    · cases stale.symm.trans fresh

/-- The accounts keep balancing, if the echo loop may send what it sends. -/
theorem balanced_step (compares : Compares whole part) (known : server.Known listen_fd)
    (balanced : server.Balanced whole part) (moved : MainStep listen_fd server input after)
    (turn : ∀ sent event rest ahead, input = .send sent →
      server.place = .echo event rest ahead → ∀ out received,
        whole (out ++ (server.cached event.fd ++ rest)) received →
          whole (out ++ rest.take sent ++ (server.cached event.fd ++ rest.drop sent)) received) :
    after.Balanced whole part := by
  have handled {fd : Nat} {old : MainPlace Byte} :=
    @BufferServer.Balanced.handled _ _ _ _ _ _ _ fd old balanced moved
  have peer {fd : Nat} {old : MainPlace Byte} (place : server.place = old)
      (client : old.client = some fd) : (server.account fd).peer.isSome = true :=
    known.client fd (place ▸ client)
  have holds {fd : Nat} {old : MainPlace Byte} {bytes : List Byte} (place : server.place = old)
      (here : old.inflight fd = bytes) : (server.account fd).inflight = bytes := here ▸ place ▸ rfl
  cases moved with
  | move _ place moved => exact balanced.move rfl moved
  | accepted fd ahead place fresh => exact balanced.accepted compares place fresh
  | refused errno fd rest place =>
    refine handled place rfl (.inl rfl) rfl ?_
    rw [account_goTo, account_close_self]
    have none := balanced.fresh fd (congrArg MainPlace.client place)
      (congrArg MainPlace.fresh place)
    exact (balanced.fds fd).discard compares none
  | registered fd rest place =>
    refine handled place rfl (.inl rfl) rfl ?_
    rw [account_goTo, account_register_self]
    exact (balanced.fds fd).register.holding (holds place rfl)
  | unregistered errno fd rest place =>
    refine handled place rfl (.inl rfl) rfl ?_
    rw [account_goTo, account_close_self, account_onPeer_self]
    have none := balanced.fresh fd (congrArg MainPlace.client place)
      (congrArg MainPlace.fresh place)
    exact ((balanced.fds fd).issue _).discard compares none
  | receives event bytes rest place running isOpen nonempty =>
    refine handled place rfl (.inr ⟨rfl, rfl⟩) rfl ?_
    rw [account_goTo, account_onPeer_self, account_onPeer_self, inflight_self]
    have tied := Account.Tied.onPeer ⟨peer place rfl, fun _ => isOpen⟩ (Peer.issue [.recv])
    exact ((balanced.fds event.fd).issue _).receive compares isOpen tied.peer (holds place rfl)
      bytes
  | recvBlocked errno event rest place running =>
    refine handled place rfl (.inr ⟨rfl, rfl⟩) rfl ?_
    rw [account_goTo, account_onPeer_self]
    exact ((balanced.fds event.fd).issue _).holding (holds place rfl)
  | recvCloses _ event rest place running closes =>
    refine handled place rfl (.inr ⟨rfl, rfl⟩) rfl ?_
    rw [account_goTo, account_closeClient_self, account_onPeer_self]
    exact (((balanced.fds event.fd).issue _).issue _).close compares
  | sends sent event bytes rest place isOpen =>
    refine handled place rfl (.inr ⟨rfl, rfl⟩) rfl ?_
    rw [account_goTo, account_onPeer_self, account_onPeer_self, inflight_self]
    obtain rfl := holds place (inflight_self event bytes rest)
    have tied := Account.Tied.onPeer ⟨peer place rfl, fun _ => isOpen⟩ (Peer.issue [.send])
    exact ((balanced.fds event.fd).issue [.send]).send isOpen tied.peer sent
      (turn sent event _ rest rfl place)
  | caches errno event bytes rest place isOpen =>
    refine handled place rfl (.inr ⟨rfl, rfl⟩) rfl ?_
    rw [account_goTo, account_onPeer_self, account_setBuffer_self, account_onPeer_self]
    obtain rfl := holds place (inflight_self event bytes rest)
    have tied := Account.Tied.onPeer ⟨peer place rfl, fun _ => isOpen⟩ (Peer.issue [.send])
    exact (((balanced.fds event.fd).issue [.send]).cache isOpen tied.peer).issue _
  | sendCloses errno event bytes rest place pending closes =>
    refine handled place rfl (.inr ⟨rfl, rfl⟩) rfl ?_
    rw [account_goTo, account_closeClient_self, account_onPeer_self]
    exact (((balanced.fds event.fd).issue _).issue _).close compares
  | silences _ event rest place masked =>
    refine handled place rfl (.inl rfl) rfl ?_
    rw [account_goTo, account_onPeer_self]
    exact ((balanced.fds event.fd).issue _).holding (holds place rfl)
  | drainBlocked errno event rest place =>
    refine handled place rfl (.inl rfl) rfl ?_
    rw [account_goTo, account_onPeer_self]
    exact ((balanced.fds event.fd).issue _).holding (holds place rfl)
  | drainCloses errno event rest place =>
    refine handled place rfl (.inl rfl) rfl ?_
    rw [account_goTo, account_closeClient_self, account_onPeer_self]
    exact (((balanced.fds event.fd).issue _).issue _).close compares
  | drained event rest place isOpen =>
    refine handled place rfl (.inl rfl) rfl ?_
    rw [account_goTo, account_onPeer_self, account_setBuffer_self, account_onPeer_self,
      account_onPeer_self]
    have tied := Account.Tied.onPeer ⟨peer place rfl, fun _ => isOpen⟩ (Peer.issue [.send])
    refine Account.Balanced.holding (Account.Balanced.issue ?_ _) (holds place rfl)
    exact ((balanced.fds event.fd).issue [.send]).drain isOpen tied.peer (List.append_nil _)
  | drains sent event rest place isOpen =>
    refine handled place rfl (.inl rfl) rfl ?_
    rw [account_goTo, account_setBuffer_self, account_onPeer_self, account_onPeer_self]
    have tied := Account.Tied.onPeer ⟨peer place rfl, fun _ => isOpen⟩ (Peer.issue [.send])
    refine Account.Balanced.holding ?_ (holds place rfl)
    exact ((balanced.fds event.fd).issue [.send]).drain isOpen tied.peer
      (List.take_append_drop sent _)

/-- The accounts balance along a run in which the echo loop only sends what it may. -/
theorem reachable_balanced (compares : Compares whole part) {openFds : Nat → Bool}
    {guard : Guard (BufferServer Byte) (MainEvent Byte)}
    (turn : ∀ server sent event rest ahead, guard server (.main (.send sent)) →
      server.place = .echo event rest ahead → ∀ out received,
        whole (out ++ (server.cached event.fd ++ rest)) received →
          whole (out ++ rest.take sent ++ (server.cached event.fd ++ rest.drop sent)) received)
    (reachable : ReachableBy (BufferServer.system Byte listen_fd openFds) guard server) :
    server.Known listen_fd ∧ server.Balanced whole part := by
  refine reachable.invariant (fun server => server.Known listen_fd ∧ server.Balanced whole part)
    (fun server initial => ?_) fun server label after _ invariant permitted step => ?_
  · obtain rfl := initial
    exact ⟨known_listening openFds, balanced_listening openFds⟩
  · obtain ⟨known, balanced⟩ := invariant
    cases label with
    | main input =>
      have moved := main_cases step
      refine ⟨known_step known moved, balanced_step compares known balanced moved ?_⟩
      rintro sent event rest ahead rfl place
      exact turn server sent event rest ahead permitted place
    | handle_sigint =>
      obtain rfl := Option.some.inj step
      exact ⟨⟨known.1, known.2, known.3, known.4, known.5⟩,
        ⟨balanced.1, balanced.2, balanced.3⟩⟩

/-- A connection that has been accepted. -/
def BufferServer.Served (server : BufferServer Byte) (peer : Peer Byte) : Prop :=
  peer ∈ server.past ∨ ∃ fd, server.latest fd = some peer

theorem Account.Balanced.sent {account : Account Byte} {peer : Peer Byte}
    (compares : Compares whole part) (balanced : account.Balanced whole part)
    (known : account.peer = some peer) : part peer.accepted peer.received := by
  cases balanced with
  | unused => cases known
  | closed _ _ sent =>
    obtain rfl := Option.some.inj known
    exact sent
  | opened _ _ _ _ balance =>
    obtain rfl := Option.some.inj known
    exact compares.part balance

/-- What was sent on a connection is part of what was received on it. -/
theorem BufferServer.Balanced.sent {peer : Peer Byte} (compares : Compares whole part)
    (balanced : server.Balanced whole part) (served : server.Served peer) :
    part peer.accepted peer.received := by
  rcases served with before | ⟨fd, latest⟩
  · exact balanced.past peer before
  · exact (balanced.fds fd).sent compares latest

end Balance

/-! ### In what order the bytes are sent -/

section Prefix

variable {listen_fd : Nat} {openFds : Nat → Bool} {server : BufferServer Byte}

theorem compares_order : Compares (@Eq (List Byte)) List.IsPrefix where
  nil := rfl
  append _ balance := balance ▸ rfl
  part balance := ⟨_, balance⟩

/-- What the system call of a step returns. -/
def MainEvent.input : MainEvent Byte → MainInput Byte
  | .main input => input
  | .handle_sigint => .none

/-- How many bytes a `send` accepts. -/
def MainInput.sent : MainInput Byte → Nat
  | .send sent => sent
  | _ => 0

/-- Whether a `send` that accepts this many bytes gets past bytes that are cached. -/
def BufferServer.overtakes (server : BufferServer Byte) (sent : Nat) : MainPlace Byte → Bool
  | .echo event _ _ => 0 < sent ∧ server.cached event.fd ≠ []
  | _ => false

/-- A `send` of the recv loop accepts bytes only while nothing is cached for the client. -/
def BufferServer.inTurn : Guard (BufferServer Byte) (MainEvent Byte) := fun server label =>
  server.overtakes label.input.sent server.place = false

instance (server : BufferServer Byte) (label : MainEvent Byte) :
    Decidable (server.inTurn label) :=
  inferInstanceAs (Decidable (_ = false))

/-- With nothing cached, or nothing sent, the order is kept. -/
theorem send_in_turn {sent : Nat} {cached rest out received : List Byte}
    (turn : sent = 0 ∨ cached = []) (balance : out ++ (cached ++ rest) = received) :
    out ++ rest.take sent ++ (cached ++ rest.drop sent) = received := by
  rcases turn with rfl | rfl
  · rwa [List.take_zero, List.append_nil, List.drop_zero]
  · rwa [List.nil_append, List.append_assoc, List.take_append_drop]

/-- In every run in which the recv loop sends in turn, what has been accepted by `send` on a
connection is a prefix of what has been received on it. -/
theorem accepted_in_order
    (reachable : ReachableBy (BufferServer.system Byte listen_fd openFds) BufferServer.inTurn
      server) {peer : Peer Byte} (served : server.Served peer) :
    peer.accepted <+: peer.received := by
  refine (reachable_balanced compares_order ?_ reachable).2.sent compares_order served
  intro server sent event rest ahead inTurn place out received
  have turn : ¬ (0 < sent ∧ server.cached event.fd ≠ []) := by
    rw [BufferServer.inTurn, place] at inTurn
    exact of_decide_eq_false inTurn
  refine send_in_turn ?_
  rcases Nat.eq_zero_or_pos sent with none | some
  · exact .inl none
  · exact .inr (Classical.byContradiction fun pending => turn ⟨some, pending⟩)

/-- A client whose input buffer fills up: the rest is cached, and sent when EPOLLOUT is reported. -/
def cachedRun : List (MainEvent Nat) :=
  [.main .none, .main (.epoll_wait [⟨3, false⟩]), .main .none, .main (.accept 4),
    .main .succeeds, .main .succeeds, .main (.fails EAGAIN), .main .none, .main .none,
    .main (.epoll_wait [⟨4, false⟩]), .main .none, .main (.recv [1, 2]), .main (.send 1),
    .main (.fails EAGAIN)]

theorem accepted_in_order_cached : ∃ server : BufferServer Nat, ∃ peer,
    server.Served peer ∧ peer.accepted = [1, 2] ∧ peer.accepted <+: peer.received := by
  have run : ∃ server, ReachableBy (BufferServer.system Nat 3 fun _ => false)
      BufferServer.inTurn server ∧ (server.latest 4).map Peer.accepted = some [1, 2] :=
    exists_of_replay rfl (cachedRun ++
      [.main (.fails EAGAIN), .main .none, .main .none, .main .none,
        .main (.epoll_wait [⟨4, true⟩]), .main .none, .main (.fails EAGAIN), .main .none,
        .main (.send 1)]) (by decide)
  obtain ⟨server, reachable, sent⟩ := run
  obtain ⟨peer, latest, accepted⟩ := Option.map_eq_some_iff.mp sent
  have served : server.Served peer := .inr ⟨4, latest⟩
  exact ⟨server, peer, served, accepted, accepted_in_order reachable served⟩

/-- More is received before EPOLLOUT is reported, and `send` accepts that: the byte received third
is sent before the second. -/
theorem accepted_out_of_order : ∃ server,
    Reachable (BufferServer.system Nat 3 fun _ => false) server ∧
      ∃ peer, server.Served peer ∧ ¬ peer.accepted <+: peer.received := by
  have run : ∃ server, Reachable (BufferServer.system Nat 3 fun _ => false) server ∧
      (server.latest 4).map (fun peer => (peer.accepted, peer.received)) =
        some ([1, 3], [1, 2, 3]) :=
    exists_of_replay rfl (cachedRun ++ [.main (.recv [3]), .main (.send 1)]) (by decide)
  obtain ⟨server, reachable, sent⟩ := run
  obtain ⟨peer, latest, bytes⟩ := Option.map_eq_some_iff.mp sent
  obtain ⟨accepted, received⟩ := Prod.mk.inj bytes
  refine ⟨server, reachable, peer, .inr ⟨4, latest⟩, ?_⟩
  rw [accepted, received]
  decide

end Prefix

/-! ### Whose bytes are cached and sent -/

section Isolation

variable {listen_fd : Nat} {openFds : Nat → Bool} {server : BufferServer Byte}

theorem compares_content : Compares (@List.Perm Byte) List.Subperm where
  nil := .nil
  append more balance := balance.append_right more
  part balance := (List.sublist_append_left _ _).subperm.trans balance.subperm

/-- What is cached under an fd has been received on it. -/
theorem Account.Balanced.cached {account : Account Byte} {bytes : List Byte}
    (balanced : account.Balanced List.Perm List.Subperm) (known : account.buffer = some bytes) :
    account.isOpen = true ∧ ∃ peer, account.peer = some peer ∧ bytes.Subperm peer.received := by
  cases balanced with
  | unused | closed => cases known
  | opened peer _ buffer inflight balance =>
    obtain rfl : buffer = some bytes := known
    have held : (bytes ++ inflight).Sublist (peer.accepted ++ (bytes ++ inflight)) :=
      List.sublist_append_right _ _
    exact ⟨rfl, peer, rfl,
      ((List.sublist_append_left _ _).trans held).subperm.trans balance.subperm⟩

/-- Whatever the order, the echo loop sends what it holds. -/
theorem send_content {sent : Nat} {cached rest out received : List Byte}
    (balance : (out ++ (cached ++ rest)).Perm received) :
    (out ++ rest.take sent ++ (cached ++ rest.drop sent)).Perm received := by
  have swapped : (rest.take sent ++ (cached ++ rest.drop sent)).Perm (cached ++ rest) := by
    have swap := List.perm_append_comm_assoc (rest.take sent) cached (rest.drop sent)
    rwa [List.take_append_drop] at swap
  rw [List.append_assoc]
  exact (swapped.append_left out).trans balance

/-- The accounts balance in every run. -/
theorem reachable_isolated
    (reachable : Reachable (BufferServer.system Byte listen_fd openFds) server) :
    server.Known listen_fd ∧ server.Balanced List.Perm List.Subperm :=
  reachable_balanced compares_content
    (fun _ _ _ _ _ _ _ _ _ balance => send_content balance) reachable

/-- In every state of every run, `output_buffers` has keys only for clients that are open, with
bytes received on the connection that has the fd now, and the bytes sent on a connection have been
received on it. Bytes may be of any type, so they may tell which connection they come from. -/
theorem caches_isolated
    (reachable : Reachable (BufferServer.system Byte listen_fd openFds) server) :
    (∀ fd bytes, server.output_buffers fd = some bytes → server.openFds fd = true ∧
      ∃ peer, server.latest fd = some peer ∧ bytes.Subperm peer.received) ∧
      ∀ peer, server.Served peer → peer.accepted.Subperm peer.received := by
  have balanced := (reachable_isolated reachable).2
  exact ⟨fun fd bytes => (balanced.fds fd).cached,
    fun peer served => balanced.sent compares_content served⟩

/-- The number of a closed connection is accepted again. -/
theorem caches_isolated_reused : ∃ server : BufferServer Nat, server.past.length = 1 ∧
    (∀ fd bytes, server.output_buffers fd = some bytes → server.openFds fd = true ∧
      ∃ peer, server.latest fd = some peer ∧ bytes.Subperm peer.received) ∧
      ∀ peer, server.Served peer → peer.accepted.Subperm peer.received := by
  have run : ∃ server, Reachable (BufferServer.system Nat 3 fun _ => false) server ∧
      server.past.length = 1 :=
    exists_of_replay rfl (cachedRun ++
      [.main (.recv []), .main .none, .main .none, .main .none,
        .main (.epoll_wait [⟨3, false⟩]), .main .none, .main (.accept 4)]) (by decide)
  obtain ⟨server, reachable, reused⟩ := run
  exact ⟨server, reused, caches_isolated reachable⟩

end Isolation

end Order

end MultiReactor
