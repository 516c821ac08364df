/-
This file puts a worker of the load-test client (load_test_client.cpp) together with
a server of its connection. What one has sent and the other not received is in the
socket buffers between them, which hold so much each way. A call that would block is
not made, and any call may fail: the client's because of its timeout. How much room
`epoll_wait` wants to see before it reports EPOLLOUT is the kernel's.

What the session asks of the server is collected in `EchoService`. It sends no byte
that it has not received, loses none while no call fails, and has only so much to do
for each. The file then proves, for every such server, that whatever fails, no
response that the client receives whole differs from its request; that without
failures nothing is left between the two when a round is over; and that without
failures a round takes a bounded number of steps. Whether it can come to a stop is
up to the server.
-/

import MultiReactor.Epoll
import MultiReactor.LoadTestAccounting

namespace MultiReactor

open Transition

/-! ### The server's side -/

/-- What lies between the client and the server: the bytes on their way to the server and back, and
whether the client has closed its end. -/
structure Streams where
  up : List UInt8
  down : List UInt8
  ended : Bool

/-- A system call of the server, with what it returns. -/
inductive ServerCall where
  /-- no call is made -/
  | none
  | recv (bytes : List UInt8)
  /-- `recv` returns 0 -/
  | eof
  /-- `recv` returns EAGAIN -/
  | recvAgain
  | send (bytes : List UInt8)
  /-- `send` returns EAGAIN -/
  | sendAgain
  /-- `epoll_wait` reports `revents` for what is registered for `events` -/
  | epoll_wait (events revents : Events)
  | fails
  deriving DecidableEq

/-- The bytes a call has received. -/
def ServerCall.taken : ServerCall → List UInt8
  | .recv bytes => bytes
  | _ => []

/-- The bytes a call has sent. -/
def ServerCall.put : ServerCall → List UInt8
  | .send bytes => bytes
  | _ => []

/-- Whether `epoll_wait` may report `revents` for what is registered for `events`: EPOLLIN where
there is something to receive, and EPOLLOUT only where there is room. It may want to see more room
than that, but where the client has received everything it reports EPOLLOUT. -/
def Streams.reports (streams : Streams) (capacity : Nat) (events revents : Events) : Bool :=
  revents.epollin = (events.epollin && (streams.up ≠ [] || streams.ended)) ∧
    (revents.epollout = true → events.epollout = true ∧ streams.down.length < capacity) ∧
    (events.epollout = true → streams.down = [] → 0 < capacity → revents.epollout = true) ∧
    revents.epollerr = false ∧ revents.epollhup = false

/-- What a call can return where the buffer to the client holds so much: `recv` takes what is there,
`send` has room, and the stream ends where the client has closed. -/
def Streams.permits (streams : Streams) (capacity : Nat) : ServerCall → Bool
  | .none | .fails => true
  | .recv bytes => bytes ≠ [] ∧ bytes = streams.up.take bytes.length
  | .eof => streams.up = [] ∧ streams.ended
  | .recvAgain => streams.up = [] ∧ !streams.ended
  | .send bytes => bytes ≠ [] ∧ streams.down.length + bytes.length ≤ capacity
  | .sendAgain => capacity ≤ streams.down.length
  | .epoll_wait events revents =>
    streams.reports capacity events revents ∧ (revents.epollin ∨ revents.epollout)

/-- A call takes bytes and puts others. -/
def Streams.after (streams : Streams) (call : ServerCall) : Streams :=
  { streams with
    up := streams.up.drop call.taken.length
    down := streams.down ++ call.put }

/-- The client has moved on: it has sent more, received some, or closed its end. -/
structure Streams.Later (streams later : Streams) : Prop where
  up : streams.up <+: later.up
  down : later.down <:+ streams.down
  ended : streams.ended = true → later.ended = true

/-- A program that serves a connection: its steps, and the call that each makes. -/
structure ConnectionServer where
  State : Type
  Input : Type
  start : State
  step : State → Input → Option State
  call : State → Input → ServerCall

/-- A step that can be made, and whose call does not fail. -/
structure ConnectionServer.Succeeds (server : ConnectionServer) (capacity : Nat) (streams : Streams)
    (state : server.State) (input : server.Input) (after : server.State) : Prop where
  permitted : streams.permits capacity (server.call state input) = true
  succeeds : server.call state input ≠ .fails
  step : server.step state input = some after

/-- A server that sends back what it receives. -/
structure EchoService (capacity : Nat) extends ConnectionServer where
  /-- the bytes it may have in its hands -/
  bytes : State → List UInt8
  bytes_start : bytes start = []
  bytes_step : ∀ {state input after}, step state input = some after →
    bytes after ++ (call state input).put ⊆ bytes state ++ (call state input).taken
  /-- what holds where no call has failed -/
  Sound : State → Streams → Prop
  sound_start : Sound start { up := [], down := [], ended := false }
  sound_step : ∀ {streams state input after}, Sound state streams →
    toConnectionServer.Succeeds capacity streams state input after →
    Sound after (streams.after (call state input))
  sound_later : ∀ {streams later state}, Sound state streams → streams.Later later →
    Sound state later
  /-- how many bytes it has received and not sent -/
  held : State → Nat
  held_start : held start = 0
  held_step : ∀ {streams state input after}, Sound state streams →
    toConnectionServer.Succeeds capacity streams state input after →
    held after + (call state input).put.length = held state + (call state input).taken.length
  /-- how many steps it has still to make, and how many more for each byte that it receives -/
  cost : State → Nat
  rate : Nat
  cost_step : ∀ {streams state input after}, Sound state streams →
    toConnectionServer.Succeeds capacity streams state input after →
    cost after + 1 + (call state input).put.length ≤
      cost state + rate * (call state input).taken.length

/-! ### The session -/

/-- What a session is set up with: the client's `message_size`, and what the socket buffers hold in
each direction. -/
structure SessionSetup where
  message_size : Nat
  upCapacity : Nat
  downCapacity : Nat

/-- A worker of the client, the server of its connection, and the bytes on their way to the server
and back. -/
structure EchoSession (Latency Server : Type) where
  stats_ : Stats
  client : LoadWorker Latency
  server : Server
  up : List UInt8
  down : List UInt8

/-- What happens next: the client moves on, with what it reads of the stop flag, or the server. -/
inductive SessionEvent (Latency Input : Type) where
  | client (stop_ : Bool) (input : LoadInput Latency)
  | server (input : Input)

section Session

variable {Latency : Type}

/-- The client has connected. -/
def EchoSession.connected (server : ConnectionServer) : EchoSession Latency server.State :=
  { stats_ := { total_requests := 0, total_errors := 0, total_bytes := 0 }
    client := LoadWorker.new.goTo .loop
    server := server.start
    up := []
    down := [] }

/-- The bytes a `send` of the client has accepted. -/
def LoadWorker.outgoing (worker : LoadWorker Latency) (message_size : Nat) :
    LoadInput Latency → List UInt8
  | .sent n => match worker.place with
    | .sendFull sent_total => ((request message_size).drop sent_total).take n
    | _ => []
  | _ => []

/-- How many bytes a `recv` of the client has returned. -/
def LoadWorker.incoming (worker : LoadWorker Latency) (message_size : Nat) :
    LoadInput Latency → Nat
  | .received bytes => match worker.place with
    | .recvFull received => if received < message_size then bytes.length else 0
    | _ => 0
  | _ => 0

/-- What the server sees of the session. -/
def EchoSession.streams {Server : Type} (session : EchoSession Latency Server) : Streams :=
  { up := session.up
    down := session.down
    ended := session.client.place = .returned }

/-- What a call of the client can return: `send` has room, and `recv` takes what is there. -/
def EchoSession.mayClient {Server : Type} (session : EchoSession Latency Server)
    (setup : SessionSetup) : LoadInput Latency → Bool
  | .sent n => session.up.length + n ≤ setup.upCapacity
  | .received bytes => bytes = session.down.take bytes.length
  | _ => true

/-- The client has moved on, by a call that may have returned. -/
def EchoSession.clientMoves {Server : Type} (session : EchoSession Latency Server)
    (setup : SessionSetup) (input : LoadInput Latency) (moved : Stats × LoadWorker Latency) :
    EchoSession Latency Server :=
  { session with
    stats_ := moved.1
    client := moved.2
    up := session.up ++ session.client.outgoing setup.message_size input
    down := session.down.drop (session.client.incoming setup.message_size input) }

/-- The server has moved on, by this call. -/
def EchoSession.serverMoves {Server : Type} (session : EchoSession Latency Server)
    (call : ServerCall) (server : Server) : EchoSession Latency Server :=
  { session with
    server := server
    up := (session.streams.after call).up
    down := (session.streams.after call).down }

def EchoSession.step (setup : SessionSetup) (server : ConnectionServer)
    (session : EchoSession Latency server.State) :
    SessionEvent Latency server.Input → Option (EchoSession Latency server.State)
  | .client stop_ input =>
    if session.mayClient setup input then
      (session.client.step setup.message_size stop_ session.stats_ input).map
        (session.clientMoves setup input)
    else none
  | .server input =>
    if session.streams.permits setup.downCapacity (server.call session.server input) then
      (server.step session.server input).map
        (session.serverMoves (server.call session.server input))
    else none

/-- The session as a transition system. -/
def EchoSession.system (Latency : Type) (setup : SessionSetup) (server : ConnectionServer) :
    System (EchoSession Latency server.State) (SessionEvent Latency server.Input) where
  initial session := session = .connected server
  step := EchoSession.step setup server

/-! ### The client's part -/

/-- As much of the response as has been received is as in the request. -/
def LoadWorker.Matches (worker : LoadWorker Latency) (message_size : Nat) : Prop :=
  match worker.place with
  | .recvFull received => worker.response.take received = List.replicate received 65
  | .compare | .total_requests | .total_bytes | .push_back =>
    worker.response = request message_size
  | .ready | .connect | .loop | .sendFull _ | .total_errors _ | .close | .returned => True

/-- Every byte is an 'A'. -/
def Plain (bytes : List UInt8) : Prop :=
  ∀ byte ∈ bytes, byte = 65

theorem plain_replicate (count : Nat) : Plain (List.replicate count 65) :=
  fun _ known => List.eq_of_mem_replicate known

section Client

variable {message_size : Nat} {stop_ : Bool} {stats_ updated : Stats}
  {worker after : LoadWorker Latency} {input : LoadInput Latency} {down : List UInt8}

/-- What a step of the client does to its connection. -/
structure LoadWorker.Moves (worker after : LoadWorker Latency) (message_size : Nat)
    (input : LoadInput Latency) : Prop where
  sent : after.sent = worker.sent + (worker.outgoing message_size input).length
  received : after.received = worker.received + worker.incoming message_size input

/-- A step that makes no call on the connection. -/
theorem moves_quiet (sent : after.sent = worker.sent) (received : after.received = worker.received)
    (outgoing : worker.outgoing message_size input = [])
    (incoming : worker.incoming message_size input = 0) :
    worker.Moves after message_size input := by
  refine ⟨?_, ?_⟩
  · rw [outgoing]
    exact sent
  · rw [incoming]
    exact received

theorem plain_outgoing : Plain (worker.outgoing message_size input) := by
  unfold LoadWorker.outgoing
  split
  · split
    · exact fun byte known => plain_replicate message_size byte
        (List.mem_of_mem_drop (List.mem_of_mem_take known))
    · exact fun _ known => by cases known
  · exact fun _ known => by cases known

theorem send_moves {sent_total : Nat} (place : worker.place = .sendFull sent_total)
    (step : worker.send message_size sent_total input = some after) :
    worker.Moves after message_size input := by
  unfold LoadWorker.send at step
  split at step
  · rename_i n
    split at step
    · rename_i asked
      cases step
      have length : (worker.outgoing message_size (.sent n)).length = n := by
        simp only [LoadWorker.outgoing, place, request, List.drop_replicate, List.take_replicate,
          List.length_replicate]
        omega
      have incoming : worker.incoming message_size (.sent n) = 0 := rfl
      exact ⟨by rw [length]; rfl, by rw [incoming]; rfl⟩
    · cases step
  · cases step
    exact moves_quiet rfl rfl rfl rfl
  · cases step

theorem recv_moves {received : Nat} (place : worker.place = .recvFull received)
    (more : received < message_size)
    (step : worker.recv message_size received input = some after) :
    worker.Moves after message_size input := by
  unfold LoadWorker.recv at step
  split at step
  · rename_i bytes
    split at step
    · cases step
      have incoming : worker.incoming message_size (.received bytes) = bytes.length := by
        simp only [LoadWorker.incoming, place, if_pos more]
      exact ⟨rfl, by rw [incoming]; rfl⟩
    · cases step
  · cases step
    exact moves_quiet rfl rfl rfl rfl
  · cases step

theorem client_moves (step : worker.step message_size stop_ stats_ input = some (updated, after)) :
    worker.Moves after message_size input := by
  -- where the client makes no call on its connection, what the call would return plays no part
  have quiet {place : LoadPlace} (here : worker.place = place) (sent : after.sent = worker.sent)
      (received : after.received = worker.received)
      (sends : ∀ sent_total, place = .sendFull sent_total → message_size ≤ sent_total)
      (receives : ∀ received, place = .recvFull received → message_size ≤ received) :
      worker.Moves after message_size input := by
    refine moves_quiet sent received ?_ ?_
    · unfold LoadWorker.outgoing
      split
      · split
        · rename_i sent_total there
          rw [request, List.drop_replicate, Nat.sub_eq_zero_of_le
            (sends sent_total (here.symm.trans there))]
          exact List.take_nil
        · rfl
      · rfl
    · unfold LoadWorker.incoming
      split
      · split
        · rename_i received there
          exact if_neg (Nat.not_lt_of_le (receives received (here.symm.trans there)))
        · rfl
      · rfl
  unfold LoadWorker.step at step
  split at step
  · cases step
    exact quiet ‹_› rfl rfl (fun _ same => by cases same) fun _ same => by cases same
  · cases step
    exact quiet ‹_› rfl rfl (fun _ same => by cases same) fun _ same => by cases same
  · rename_i connected place
    cases step
    refine quiet place ?_ ?_ (fun _ same => by cases same) fun _ same => by cases same
    · cases connected <;> rfl
    · cases connected <;> rfl
  · obtain ⟨moved, taken, same⟩ := Option.map_eq_some_iff.mp step
    obtain ⟨rfl, rfl⟩ := Prod.mk.inj same
    unfold LoadWorker.move at taken
    split at taken <;> rename_i place
    · unfold LoadWorker.connectToServer at taken
      split at taken <;> cases taken
      · exact quiet place rfl rfl (fun _ same => by cases same) fun _ same => by cases same
      · exact quiet place rfl rfl (fun _ same => by cases same) fun _ same => by cases same
    · cases taken
      exact quiet place rfl rfl (fun _ same => by cases same) fun _ same => by cases same
    · split at taken
      · exact send_moves place taken
      · rename_i whole
        cases taken
        refine quiet place rfl rfl (fun _ same => ?_) fun _ same => by cases same
        cases same
        rw [request, List.length_replicate] at whole
        exact Nat.le_of_not_lt whole
    · split at taken
      · exact recv_moves place ‹_› taken
      · rename_i whole
        cases taken
        refine quiet place rfl rfl (fun _ same => by cases same) fun _ same => ?_
        cases same
        exact Nat.le_of_not_lt whole
    · cases taken
      exact quiet place rfl rfl (fun _ same => by cases same) fun _ same => by cases same
    · unfold LoadWorker.push_back at taken
      split at taken <;> cases taken
      exact quiet place rfl rfl (fun _ same => by cases same) fun _ same => by cases same
    · cases taken
      exact quiet place rfl rfl (fun _ same => by cases same) fun _ same => by cases same
    all_goals cases taken

/-- What the client receives goes on matching its request. -/
theorem recv_matches {received : Nat} {bytes out : List UInt8} (plain : Plain bytes)
    (matched : out.take received = List.replicate received 65) :
    (overwrite out received bytes).take (received + bytes.length) =
      List.replicate (received + bytes.length) 65 := by
  have within : (out.take received ++ bytes).length = received + bytes.length := by
    rw [matched, List.length_append, List.length_replicate]
  rw [overwrite, List.take_left' within, matched, List.replicate_add,
    ← List.eq_replicate_length.mpr plain]

/-- As long as the bytes that come in are 'A's, the response matches. -/
theorem client_matches (framed : worker.Framed message_size)
    (matched : worker.Matches message_size)
    (plain : ∀ bytes, input = .received bytes → Plain bytes)
    (step : worker.step message_size stop_ stats_ input = some (updated, after)) :
    after.Matches message_size := by
  unfold LoadWorker.step at step
  split at step
  · rename_i place
    cases step
    simp only [LoadWorker.Matches, place] at matched
    exact matched
  · rename_i place
    cases step
    simp only [LoadWorker.Matches, place] at matched
    exact matched
  · rename_i connected place
    cases step
    cases connected <;> trivial
  · obtain ⟨moved, taken, same⟩ := Option.map_eq_some_iff.mp step
    obtain ⟨rfl, rfl⟩ := Prod.mk.inj same
    unfold LoadWorker.move at taken
    split at taken <;> rename_i place
    · unfold LoadWorker.connectToServer at taken
      split at taken <;> cases taken <;> trivial
    · cases taken
      split <;> trivial
    · split at taken
      · unfold LoadWorker.send at taken
        split at taken
        · split at taken <;> cases taken
          trivial
        · cases taken
          trivial
        · cases taken
      · cases taken
        exact List.take_zero
    · rename_i received
      simp only [LoadWorker.Matches, place] at matched
      split at taken
      · unfold LoadWorker.recv at taken
        split at taken
        · rename_i bytes
          split at taken
          · cases taken
            exact recv_matches (plain bytes rfl) matched
          · cases taken
        · cases taken
          trivial
        · cases taken
      · rename_i whole
        cases taken
        rw [LoadWorker.Framed, place] at framed
        obtain ⟨bound, length, -⟩ := framed
        have full : received = worker.response.length :=
          (Nat.le_antisymm bound (Nat.le_of_not_lt whole)).trans length.symm
        show worker.response = request message_size
        rw [full, List.take_length, length] at matched
        exact matched
    · cases taken
      split
      · rename_i same
        exact same
      · trivial
    · unfold LoadWorker.push_back at taken
      split at taken <;> cases taken
      trivial
    · cases taken
      trivial
    all_goals cases taken

end Client


/-! ### The bytes on their way -/

/-- Nothing but 'A's is on its way or in the server's hands. -/
structure EchoSession.Carries (setup : SessionSetup) {capacity : Nat}
    (service : EchoService capacity) (session : EchoSession Latency service.State) : Prop where
  up : Plain session.up
  held : Plain (service.bytes session.server)
  down : Plain session.down
  framed : session.client.Framed setup.message_size
  matched : session.client.Matches setup.message_size

section Steps

variable {setup : SessionSetup} {service : EchoService setup.downCapacity}
  {session after : EchoSession Latency service.State}

theorem carries_connected :
    (EchoSession.connected service.toConnectionServer : EchoSession Latency _).Carries setup
      service where
  up := fun _ known => by cases known
  held := fun byte known => by
    have nothing : byte ∈ service.bytes service.start := known
    rw [service.bytes_start] at nothing
    cases nothing
  down := fun _ known => by cases known
  framed := ⟨rfl, rfl, rfl⟩
  matched := trivial

theorem EchoSession.Carries.client (carries : session.Carries setup service) {stop_ : Bool}
    {input : LoadInput Latency}
    (step : session.step setup service.toConnectionServer (.client stop_ input) = some after) :
    after.Carries setup service := by
  simp only [EchoSession.step] at step
  split at step
  · rename_i may
    obtain ⟨⟨updated, client⟩, moved, rfl⟩ := Option.map_eq_some_iff.mp step
    have plain (bytes : List UInt8) (same : input = .received bytes) : Plain bytes := by
      intro byte known
      rw [same] at may
      have there : bytes = session.down.take bytes.length := of_decide_eq_true may
      rw [there] at known
      exact carries.down byte (List.mem_of_mem_take known)
    refine ⟨fun byte known => ?_, carries.held,
      fun byte known => carries.down byte (List.mem_of_mem_drop known),
      (load_worker_step carries.framed moved).1,
      client_matches carries.framed carries.matched plain moved⟩
    rcases List.mem_append.mp known with before | now
    · exact carries.up byte before
    · exact plain_outgoing byte now
  · cases step

theorem EchoSession.Carries.server (carries : session.Carries setup service)
    {input : service.Input}
    (step : session.step setup service.toConnectionServer (.server input) = some after) :
    after.Carries setup service := by
  simp only [EchoSession.step] at step
  split at step
  · rename_i may
    obtain ⟨server, moved, rfl⟩ := Option.map_eq_some_iff.mp step
    have taken : Plain (service.call session.server input).taken := by
      cases call : service.call session.server input with
      | recv bytes =>
        rw [call] at may
        have there : bytes ≠ [] ∧ bytes = session.up.take bytes.length := of_decide_eq_true may
        intro byte known
        have known : byte ∈ bytes := known
        rw [there.2] at known
        exact carries.up byte (List.mem_of_mem_take known)
      | _ => exact fun _ known => by cases known
    have known (byte : UInt8)
        (there : byte ∈ service.bytes server ++ (service.call session.server input).put) :
        byte = 65 :=
      (List.mem_append.mp (service.bytes_step moved there)).elim (carries.held byte) (taken byte)
    refine ⟨fun byte there => carries.up byte (List.mem_of_mem_drop there),
      fun byte there => known byte (List.mem_append_left _ there), fun byte there => ?_,
      carries.framed, carries.matched⟩
    rcases List.mem_append.mp there with before | now
    · exact carries.down byte before
    · exact known byte (List.mem_append_right _ now)
  · cases step

theorem reachable_carries
    (reachable : Reachable (EchoSession.system Latency setup service.toConnectionServer) session) :
    session.Carries setup service := by
  refine reachable.invariant (EchoSession.Carries setup service) ?_ ?_
  · rintro _ rfl
    exact carries_connected
  · intro session event after _ carries _ step
    cases event with
    | client stop_ input => exact carries.client step
    | server input => exact carries.server step

variable (setup service) in
/-- Whatever fails and whatever is lost, a response that the client has received whole is the
message it has sent: `response == request` never tells one error. -/
theorem response_matches
    (reachable : Reachable (EchoSession.system Latency setup service.toConnectionServer) session)
    (place : session.client.place = .compare) :
    session.client.response = request setup.message_size := by
  have matched := (reachable_carries reachable).matched
  rw [LoadWorker.Matches, place] at matched
  exact matched

/-! ### Without failures -/

/-- A call fails. -/
def SessionEvent.fails (server : ConnectionServer) (state : server.State) :
    SessionEvent Latency server.Input → Bool
  | .client _ .fails => true
  | .client _ _ => false
  | .server input => server.call state input = .fails

/-- No call fails. -/
def nothingFails (server : ConnectionServer) :
    Guard (EchoSession Latency server.State) (SessionEvent Latency server.Input) :=
  fun session event => event.fails server session.server = false

instance (server : ConnectionServer) (session : EchoSession Latency server.State)
    (event : SessionEvent Latency server.Input) : Decidable (nothingFails server session event) :=
  inferInstanceAs (Decidable (_ = _))

section Moves

variable {setup : SessionSetup} (server : ConnectionServer)
  {session : EchoSession Latency server.State}

/-- The client moves on by a call that can return so. -/
theorem reachable_client
    (reachable : ReachableBy (EchoSession.system Latency setup server) (nothingFails server)
      session)
    {stop_ : Bool} {input : LoadInput Latency} {moved : Stats × LoadWorker Latency}
    (succeeds : (SessionEvent.client stop_ input).fails server session.server = false)
    (may : session.mayClient setup input = true)
    (taken : session.client.step setup.message_size stop_ session.stats_ input = some moved) :
    ReachableBy (EchoSession.system Latency setup server) (nothingFails server)
      (session.clientMoves setup input moved) := by
  have step : session.step setup server (.client stop_ input) =
      some (session.clientMoves setup input moved) := by
    rw [EchoSession.step, if_pos may, taken, Option.map_some]
  exact reachable.next succeeds step

/-- The server moves on by a call that can return so. -/
theorem reachable_server
    (reachable : ReachableBy (EchoSession.system Latency setup server) (nothingFails server)
      session)
    {state : server.State} {call : ServerCall} (input : server.Input)
    (made : server.call session.server input = call) (succeeds : call ≠ .fails)
    (may : session.streams.permits setup.downCapacity call = true)
    (taken : server.step session.server input = some state) :
    ReachableBy (EchoSession.system Latency setup server) (nothingFails server)
      (session.serverMoves call state) := by
  obtain rfl := made
  have succeeds : (SessionEvent.server input : SessionEvent Latency _).fails server session.server =
    false := decide_eq_false succeeds
  have step : session.step setup server (.server input) =
      some (session.serverMoves (server.call session.server input) state) := by
    rw [EchoSession.step, if_pos may, taken, Option.map_some]
  exact reachable.next succeeds step

end Moves

/-- The worker has started and counts no error. -/
def LoadPlace.isSound : LoadPlace → Bool
  | .ready | .total_errors _ => false
  | .connect | .loop | .sendFull _ | .recvFull _ | .compare | .total_requests | .total_bytes
  | .push_back | .close | .returned => true

/-- What holds where no call has failed. What has been sent and not come back is on its way or with
the server. -/
structure EchoSession.Unbroken (service : EchoService setup.downCapacity)
    (session : EchoSession Latency service.State) : Prop where
  client : session.client.place.isSound = true
  server : service.Sound session.server session.streams
  flight : session.client.received +
    (session.up.length + service.held session.server + session.down.length) = session.client.sent

theorem client_sound {message_size : Nat} {stop_ : Bool} {stats_ updated : Stats}
    {worker moved : LoadWorker Latency} {input : LoadInput Latency}
    (sound : worker.place.isSound = true) (matched : worker.Matches message_size)
    (succeeds : input ≠ .fails)
    (step : worker.step message_size stop_ stats_ input = some (updated, moved)) :
    moved.place.isSound = true := by
  unfold LoadWorker.step at step
  split at step
  · cases step
    rfl
  · cases step
    rfl
  · rename_i connected place
    rw [place] at sound
    cases sound
  · obtain ⟨after, taken, same⟩ := Option.map_eq_some_iff.mp step
    obtain ⟨rfl, rfl⟩ := Prod.mk.inj same
    unfold LoadWorker.move at taken
    split at taken <;> rename_i place
    · unfold LoadWorker.connectToServer at taken
      split at taken <;> cases taken
      · rfl
      · exact absurd rfl succeeds
    · cases taken
      split <;> rfl
    · split at taken
      · unfold LoadWorker.send at taken
        split at taken
        · split at taken <;> cases taken
          rfl
        · exact absurd rfl succeeds
        · cases taken
      · cases taken
        rfl
    · split at taken
      · unfold LoadWorker.recv at taken
        split at taken
        · split at taken <;> cases taken
          rfl
        · exact absurd rfl succeeds
        · cases taken
      · cases taken
        rfl
    · cases taken
      rw [LoadWorker.Matches, place] at matched
      rw [if_pos matched]
      rfl
    · unfold LoadWorker.push_back at taken
      split at taken <;> cases taken
      rfl
    · cases taken
      rfl
    all_goals cases taken

/-- A step of the client, as the server sees it. -/
theorem later_client {stop_ : Bool} {input : LoadInput Latency} {stats_ : Stats}
    {client : LoadWorker Latency}
    (moved : session.client.step setup.message_size stop_ session.stats_ input =
      some (stats_, client)) :
    session.streams.Later
      { up := session.up ++ session.client.outgoing setup.message_size input
        down := session.down.drop (session.client.incoming setup.message_size input)
        ended := client.place = .returned } where
  up := List.prefix_append ..
  down := List.drop_suffix ..
  ended returned := absurd (of_decide_eq_true returned) (worker_idle moved).2

/-- `recv` returns no more than is there. -/
theorem incoming_le {input : LoadInput Latency} (may : session.mayClient setup input = true) :
    session.client.incoming setup.message_size input ≤ session.down.length := by
  unfold LoadWorker.incoming
  split
  · rename_i bytes
    have there : bytes = session.down.take bytes.length := of_decide_eq_true may
    have most : bytes.length ≤ session.down.length := by
      rw [there, List.length_take]
      exact Nat.min_le_right ..
    split
    · split
      · exact most
      · exact Nat.zero_le _
    · exact Nat.zero_le _
  · exact Nat.zero_le _

/-- What a call takes was there. -/
theorem taken_le {streams : Streams} {capacity : Nat} {call : ServerCall}
    (permitted : streams.permits capacity call = true) :
    call.taken.length ≤ streams.up.length := by
  cases call with
  | recv bytes =>
    have there : bytes ≠ [] ∧ bytes = streams.up.take bytes.length := of_decide_eq_true permitted
    show bytes.length ≤ _
    rw [there.2, List.length_take]
    exact Nat.min_le_right ..
  | _ => exact Nat.zero_le _

theorem EchoSession.Unbroken.client_step (unbroken : session.Unbroken service)
    (matched : session.client.Matches setup.message_size) {stop_ : Bool}
    {input : LoadInput Latency} (succeeds : input ≠ .fails)
    (step : session.step setup service.toConnectionServer (.client stop_ input) = some after) :
    after.Unbroken service := by
  simp only [EchoSession.step] at step
  split at step
  · rename_i may
    obtain ⟨⟨updated, client⟩, moved, rfl⟩ := Option.map_eq_some_iff.mp step
    refine ⟨client_sound unbroken.client matched succeeds moved,
      service.sound_later unbroken.server (later_client moved), ?_⟩
    have flight := unbroken.flight
    have moves := client_moves moved
    have there := incoming_le may
    show client.received + ((session.up ++ _).length + service.held session.server +
      (session.down.drop _).length) = client.sent
    rw [moves.received, moves.sent, List.length_append, List.length_drop]
    omega
  · cases step

theorem EchoSession.Unbroken.server_step (unbroken : session.Unbroken service)
    {input : service.Input} (succeeds : service.call session.server input ≠ .fails)
    (step : session.step setup service.toConnectionServer (.server input) = some after) :
    after.Unbroken service := by
  simp only [EchoSession.step] at step
  split at step
  · rename_i may
    obtain ⟨server, moved, rfl⟩ := Option.map_eq_some_iff.mp step
    have made : service.Succeeds setup.downCapacity session.streams session.server input server :=
      ⟨may, succeeds, moved⟩
    refine ⟨unbroken.client, service.sound_step unbroken.server made, ?_⟩
    have flight := unbroken.flight
    have held := service.held_step unbroken.server made
    have there : (service.call session.server input).taken.length ≤ session.up.length :=
      taken_le may
    show session.client.received + ((session.up.drop _).length + service.held server +
      (session.down ++ _).length) = session.client.sent
    rw [List.length_drop, List.length_append]
    omega
  · cases step

variable (service) in
theorem reachable_unbroken
    (reachable : ReachableBy (EchoSession.system Latency setup service.toConnectionServer)
      (nothingFails service.toConnectionServer) session) :
    session.Unbroken service := by
  refine reachable.invariant (EchoSession.Unbroken service) ?_ ?_
  · rintro _ rfl
    refine ⟨rfl, service.sound_start, ?_⟩
    show 0 + (0 + service.held service.start + 0) = 0
    rw [service.held_start]
  · intro session event after before unbroken permitted step
    cases event with
    | client stop_ input =>
      refine unbroken.client_step (reachable_carries before.reachable).matched (fun same => ?_) step
      rw [same] at permitted
      cases permitted
    | server input => exact unbroken.server_step (of_decide_eq_false permitted) step

variable (setup service) in
/-- Without failures nothing is on its way when a round is over, and the server has nothing in its
hands, so the next response is that of the next request. -/
theorem round_trip
    (reachable : ReachableBy (EchoSession.system Latency setup service.toConnectionServer)
      (nothingFails service.toConnectionServer) session)
    (place : session.client.place = .loop) :
    session.up = [] ∧ session.down = [] ∧ service.held session.server = 0 ∧
      session.client.sent = setup.message_size * session.client.local_latencies.length := by
  have framed := (reachable_carries reachable.reachable).framed
  rw [LoadWorker.Framed, place] at framed
  obtain ⟨sent, received, -⟩ := framed
  have flight := (reachable_unbroken service reachable).flight
  exact ⟨List.length_eq_zero_iff.mp (by omega), List.length_eq_zero_iff.mp (by omega), by omega,
    sent⟩

/-! ### A round is bounded -/

/-- How many steps a round takes at most, with a server that does so much for a byte. -/
def SessionSetup.round (setup : SessionSetup) (rate : Nat) : Nat :=
  setup.message_size * (rate + 1) + 7

/-- What is left of a round, without what is done for the bytes that are on their way. -/
def LoadPlace.remaining (setup : SessionSetup) (rate : Nat) : LoadPlace → Nat
  | .connect => setup.round rate + 1
  | .loop => setup.round rate
  | .sendFull sent_total => (setup.message_size - sent_total) * (rate + 1) + 6
  | .recvFull _ => 5
  | .compare => 4
  | .total_requests => 3
  | .total_bytes => 2
  | .push_back | .close => 1
  | .ready | .total_errors _ | .returned => 0

/-- What is left of a round: what the client has to do, and what is done for each byte that is on
its way. -/
def EchoSession.remaining (service : EchoService setup.downCapacity)
    (session : EchoSession Latency service.State) : Nat :=
  session.client.place.remaining setup service.rate + service.rate * session.up.length +
    service.cost session.server + session.down.length

/-- A step of the client takes its share of the round. The next round begins when the latency has
been stored. -/
theorem client_remaining (rate : Nat) {stop_ : Bool} {stats_ updated : Stats}
    {worker moved : LoadWorker Latency} {input : LoadInput Latency}
    (sound : worker.place.isSound = true) (matched : worker.Matches setup.message_size)
    (succeeds : input ≠ .fails)
    (step : worker.step setup.message_size stop_ stats_ input = some (updated, moved)) :
    moved.place.remaining setup rate +
        rate * (worker.outgoing setup.message_size input).length + 1 +
        setup.round rate * worker.local_latencies.length ≤
      worker.place.remaining setup rate + worker.incoming setup.message_size input +
        setup.round rate * moved.local_latencies.length := by
  obtain ⟨sent, received⟩ := client_moves step
  -- what has been sent and received decides what the calls have moved
  have quiet (same : moved.sent = worker.sent) (stored : moved.local_latencies =
      worker.local_latencies) (lower : moved.place.remaining setup rate + 1 ≤
      worker.place.remaining setup rate) :
      moved.place.remaining setup rate +
          rate * (worker.outgoing setup.message_size input).length + 1 +
          setup.round rate * worker.local_latencies.length ≤
        worker.place.remaining setup rate + worker.incoming setup.message_size input +
          setup.round rate * moved.local_latencies.length := by
    have nothing : (worker.outgoing setup.message_size input).length = 0 := by omega
    rw [nothing, stored, Nat.mul_zero]
    omega
  unfold LoadWorker.step at step
  split at step <;> rename_i place
  · cases step
    exact quiet rfl rfl (by rw [place]; exact Nat.le_refl _)
  · cases step
    exact quiet rfl rfl (by rw [place]; exact Nat.le_refl _)
  · rw [place] at sound
    cases sound
  · obtain ⟨after, taken, same⟩ := Option.map_eq_some_iff.mp step
    obtain ⟨rfl, rfl⟩ := Prod.mk.inj same
    unfold LoadWorker.move at taken
    split at taken <;> rename_i place
    · unfold LoadWorker.connectToServer at taken
      split at taken <;> cases taken
      · exact quiet rfl rfl (by rw [place]; exact Nat.le_refl _)
      · exact absurd rfl succeeds
    · cases taken
      refine quiet rfl rfl ?_
      rw [place]
      cases stop_ with
      | true => show 1 + 1 ≤ setup.message_size * (rate + 1) + 7; omega
      | false =>
        show (setup.message_size - 0) * (rate + 1) + 6 + 1 ≤ setup.message_size * (rate + 1) + 7
        exact Nat.le_refl _
    · rename_i sent_total
      split at taken
      · unfold LoadWorker.send at taken
        split at taken
        · rename_i n
          split at taken <;> cases taken
          rename_i asked
          have moved : (worker.outgoing setup.message_size (.sent n)).length = n := by
            have total : worker.sent + n =
              worker.sent + (worker.outgoing setup.message_size (.sent n)).length := sent
            omega
          have split : setup.message_size - sent_total =
              setup.message_size - (sent_total + n) + n := by omega
          rw [moved, place]
          show (setup.message_size - (sent_total + n)) * (rate + 1) + 6 + rate * n + 1 + _ ≤
            (setup.message_size - sent_total) * (rate + 1) + 6 + _ + _
          rw [split, Nat.add_mul _ n, Nat.mul_succ n, Nat.mul_comm n]
          show _ + setup.round rate * worker.local_latencies.length ≤
            _ + setup.round rate * worker.local_latencies.length
          omega
        · exact absurd rfl succeeds
        · cases taken
      · cases taken
        refine quiet rfl rfl ?_
        rw [place]
        exact Nat.le_add_left 6 _
    · split at taken
      · unfold LoadWorker.recv at taken
        split at taken
        · rename_i bytes
          split at taken <;> cases taken
          rename_i asked
          have nothing : (worker.outgoing setup.message_size (.received bytes)).length = 0 := rfl
          have moved : worker.incoming setup.message_size (.received bytes) = bytes.length := by
            have total : worker.received + bytes.length = worker.received +
              worker.incoming setup.message_size (.received bytes) := received
            omega
          rw [nothing, moved, place]
          show 5 + rate * 0 + 1 + setup.round rate * worker.local_latencies.length ≤
            5 + bytes.length + setup.round rate * worker.local_latencies.length
          omega
        · exact absurd rfl succeeds
        · cases taken
      · cases taken
        exact quiet rfl rfl (by rw [place]; exact Nat.le_refl _)
    · cases taken
      rw [LoadWorker.Matches, place] at matched
      rw [if_pos matched] at quiet ⊢
      exact quiet rfl rfl (by rw [place]; exact Nat.le_refl _)
    · unfold LoadWorker.push_back at taken
      split at taken <;> cases taken
      rename_i elapsed_us
      have nothing : (worker.outgoing setup.message_size (.elapsed elapsed_us)).length = 0 := rfl
      rw [nothing, place]
      show setup.round rate + rate * 0 + 1 + setup.round rate * worker.local_latencies.length ≤
        1 + 0 + setup.round rate * (worker.local_latencies ++ [elapsed_us]).length
      rw [List.length_append, List.length_singleton, Nat.mul_succ]
      omega
    · cases taken
      exact quiet rfl rfl (by rw [place]; exact Nat.le_refl _)
    all_goals cases taken

/-- A step of the session takes its share of the round. -/
theorem remaining_step (unbroken : session.Unbroken service)
    (matched : session.client.Matches setup.message_size)
    {event : SessionEvent Latency service.Input}
    (permitted : nothingFails service.toConnectionServer session event)
    (step : session.step setup service.toConnectionServer event = some after) :
    after.remaining service + 1 +
        setup.round service.rate * session.client.local_latencies.length ≤
      session.remaining service +
        setup.round service.rate * after.client.local_latencies.length := by
  cases event with
  | client stop_ input =>
    have succeeds : input ≠ .fails := fun same => by
      rw [same] at permitted
      cases permitted
    simp only [EchoSession.step] at step
    split at step
    · rename_i may
      obtain ⟨⟨updated, client⟩, moved, rfl⟩ := Option.map_eq_some_iff.mp step
      have share := client_remaining service.rate unbroken.client matched succeeds moved
      have there := incoming_le may
      simp only [EchoSession.remaining, EchoSession.clientMoves, List.length_append,
        List.length_drop, Nat.mul_add]
      omega
    · cases step
  | server input =>
    simp only [EchoSession.step] at step
    split at step
    · rename_i may
      obtain ⟨server, moved, rfl⟩ := Option.map_eq_some_iff.mp step
      have share := service.cost_step unbroken.server ⟨may, of_decide_eq_false permitted, moved⟩
      have there : (service.call session.server input).taken.length ≤ session.up.length :=
        taken_le may
      have split : service.rate * session.up.length =
          service.rate * (session.up.length - (service.call session.server input).taken.length) +
            service.rate * (service.call session.server input).taken.length := by
        rw [← Nat.mul_add, Nat.sub_add_cancel there]
      simp only [EchoSession.remaining, EchoSession.serverMoves, EchoSession.streams, Streams.after,
        List.length_append, List.length_drop]
      omega
    · cases step

variable (setup service) in
/-- Without failures a round takes a bounded number of steps, of the client and the server together:
a run that goes on for longer has come to the end of the next round, or of the session. -/
theorem session_bounded
    {run : Recorded (EchoSession Latency service.State) (SessionEvent Latency service.Input)}
    (reachable : ReachableBy (EchoSession.system Latency setup service.toConnectionServer).recorded
      (fun run event => nothingFails service.toConnectionServer run.now event) run) :
    run.past.length ≤ setup.round service.rate * (run.now.client.local_latencies.length + 1) +
      service.cost service.start := by
  have bounded := length_le_of_budget (EchoSession.remaining service)
    (fun run => setup.round service.rate * (run.now.client.local_latencies.length + 1) +
      service.cost service.start) ?_ ?_ reachable
  · exact (Nat.le_add_right ..).trans bounded
  · rintro _ rfl
    show setup.round service.rate + service.rate * 0 + service.cost service.start + 0 ≤
      setup.round service.rate * (0 + 1) + service.cost service.start
    omega
  · intro run event after before permitted step
    have share := remaining_step (reachable_unbroken service before)
      (reachable_carries before.reachable).matched permitted (recorded_step step).1
    simp only [Nat.mul_succ]
    omega

/-! ### Coming to a stop -/

/-- Neither can move unless a call fails, and the client has not returned. -/
def EchoSession.Stuck (setup : SessionSetup) (server : ConnectionServer)
    (session : EchoSession Latency server.State) : Prop :=
  session.client.place ≠ .returned ∧
    ∀ event : SessionEvent Latency server.Input, event.fails server session.server = false →
      session.step setup server event = none

theorem EchoSession.Stuck.client (stuck : session.Stuck setup service.toConnectionServer)
    (input : LoadInput Latency)
    (succeeds : (SessionEvent.client true input).fails service.toConnectionServer session.server =
      false)
    (may : session.mayClient setup input = true) :
    session.client.step setup.message_size true session.stats_ input = none := by
  have blocked := stuck.2 (.client true input) succeeds
  rwa [EchoSession.step, if_pos may, Option.map_eq_none_iff] at blocked

theorem EchoSession.Stuck.server (server : ConnectionServer)
    {session : EchoSession Latency server.State} (stuck : session.Stuck setup server)
    (input : server.Input) {call : ServerCall} (made : server.call session.server input = call)
    (succeeds : call ≠ .fails) (may : session.streams.permits setup.downCapacity call = true) :
    server.step session.server input = none := by
  obtain rfl := made
  have blocked := stuck.2 (.server input) (decide_eq_false succeeds)
  rwa [EchoSession.step, if_pos may, Option.map_eq_none_iff] at blocked

/-- A client that cannot move has no room to send, or nothing to receive. -/
theorem EchoSession.Stuck.waits [Nonempty Latency] 
    (stuck : session.Stuck setup service.toConnectionServer)
    (sound : session.client.place.isSound = true) :
    (∃ sent_total < setup.message_size, session.client.place = .sendFull sent_total ∧
        setup.upCapacity ≤ session.up.length) ∨
      ∃ received < setup.message_size, session.client.place = .recvFull received ∧
        session.down = [] := by
  -- where the client makes no call, it can move on
  have idle := stuck.client .none rfl rfl
  cases place : session.client.place with
  | sendFull sent_total =>
    left
    simp only [LoadWorker.step, place, LoadWorker.move, request, List.length_replicate] at idle
    split at idle
    · rename_i more
      refine ⟨sent_total, more, rfl, ?_⟩
      by_contra less
      have may : session.mayClient setup (.sent 1) = true :=
        decide_eq_true (Nat.succ_le_of_lt (Nat.lt_of_not_le less))
      have blocked := stuck.client _ rfl may
      simp only [LoadWorker.step, place, LoadWorker.move, request, List.length_replicate,
        if_pos more, LoadWorker.send] at blocked
      rw [if_pos ⟨Nat.one_pos, by omega⟩] at blocked
      cases blocked
    · cases idle
  | recvFull received =>
    right
    simp only [LoadWorker.step, place, LoadWorker.move] at idle
    split at idle
    · rename_i more
      refine ⟨received, more, rfl, ?_⟩
      by_contra present
      have one : (session.down.take 1).length = 1 := by
        rw [List.length_take, Nat.min_eq_left (List.length_pos_iff.mpr present)]
      have may : session.mayClient setup (.received (session.down.take 1)) = true :=
        decide_eq_true (by rw [one])
      have blocked := stuck.client _ rfl may
      simp only [LoadWorker.step, place, LoadWorker.move, if_pos more, LoadWorker.recv, one]
        at blocked
      rw [if_pos ⟨Nat.one_pos, by omega⟩] at blocked
      cases blocked
    · cases idle
  | connect =>
    have blocked := stuck.client .connected rfl rfl
    simp only [LoadWorker.step, place, LoadWorker.move] at blocked
    cases blocked
  | push_back =>
    have elapsed_us : Latency := Classical.ofNonempty
    have blocked := stuck.client (.elapsed elapsed_us) rfl rfl
    simp only [LoadWorker.step, place, LoadWorker.move] at blocked
    cases blocked
  | ready | total_errors =>
    rw [place] at sound
    cases sound
  | loop | compare | total_requests | total_bytes | close =>
    simp only [LoadWorker.step, place, LoadWorker.move] at idle
    cases idle
  | returned => exact absurd place stuck.1

variable (service) in
/-- Where neither can move though the server would, if it had something to receive or the client had
received everything, the client is sending, and what it has sent is on its way or with the server.
-/
theorem EchoSession.Stuck.sending [Nonempty Latency]
    (stuck : session.Stuck setup service.toConnectionServer)
    (reachable : ReachableBy (EchoSession.system Latency setup service.toConnectionServer)
      (nothingFails service.toConnectionServer) session)
    (waits : (session.up = [] ∧ service.held session.server = 0) ∨ session.down ≠ []) :
    setup.upCapacity ≤ session.up.length ∧
      session.up.length + service.held session.server + session.down.length <
        setup.message_size := by
  have framed := (reachable_carries reachable.reachable).framed
  have unbroken := reachable_unbroken service reachable
  have flight := unbroken.flight
  rcases stuck.waits unbroken.client with
    ⟨sent_total, more, place, full⟩ | ⟨received, more, place, nothing⟩
  · rw [LoadWorker.Framed, place] at framed
    obtain ⟨_, sent, got, -⟩ := framed
    exact ⟨full, by omega⟩
  · rw [LoadWorker.Framed, place] at framed
    obtain ⟨-, -, sent, got, -⟩ := framed
    obtain ⟨empty, held⟩ := waits.resolve_right fun unread => unread nothing
    rw [nothing, empty, held, List.length_nil] at flight
    omega

end Steps

end Session

end MultiReactor
