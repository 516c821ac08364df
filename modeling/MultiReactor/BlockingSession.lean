/-
This file puts the load-test client and a blocking echo server's service of its
connection (echo_server.cpp, echo_server_fork.cpp, echo_server_pthread.cpp) together.
The service is an echo service, so what holds of every session holds of this one.

The client reads nothing before it has sent its whole message, and the server sends
back what it has received before it receives more, so the two can block each other.
They do so for exactly the messages that do not fit into the socket buffers.
-/

import MultiReactor.EchoServer
import MultiReactor.EchoSession

namespace MultiReactor

open Transition

/-! ### The service -/

/-- The call the loop makes, with what it returns. -/
def ServePlace.call : ServePlace UInt8 → ServeInput UInt8 → ServerCall
  | .recv, .recv bytes => if bytes = [] then .eof else .recv bytes
  | .recv, .fails _ => .fails
  | .send rest, .send sent => if rest = [] then .none else .send (rest.take sent)
  | .send rest, .fails _ => if rest = [] then .none else .fails
  | _, _ => .none

/-- A step of the loop by the call it makes. -/
inductive ServeStep : ServePlace UInt8 → ServerCall → ServePlace UInt8 → Prop where
  | recv (bytes : List UInt8) (present : bytes ≠ []) :
    ServeStep .recv (.recv bytes) (.send bytes)
  | eof : ServeStep .recv .eof .close
  | recvFails : ServeStep .recv .fails .close
  | send (rest : List UInt8) (sent : Nat) (within : sent ≤ rest.length) :
    ServeStep (.send rest) (.send (rest.take sent)) (.send (rest.drop sent))
  | sendFails (rest : List UInt8) : ServeStep (.send rest) .fails .recv
  | sent : ServeStep (.send []) .none .recv
  | close : ServeStep .close .none .done

theorem serve_step {room : Nat} {serving after : Serving UInt8} {input : ServeInput UInt8}
    (step : serving.step room input = some after) :
    ServeStep serving.place (serving.place.call input) after.place := by
  unfold Serving.step at step
  split at step <;> rename_i place <;> rw [place]
  · unfold Serving.recv at step
    split at step
    · rename_i bytes
      split at step
      · cases step
        by_cases nothing : bytes = []
        · rw [ServePlace.call, if_pos nothing, Serving.makes, if_pos nothing]
          exact .eof
        · rw [ServePlace.call, if_neg nothing, Serving.makes, if_neg nothing]
          exact .recv bytes nothing
      · cases step
    · cases step
      exact .recvFails
    · cases step
  · rename_i rest
    split at step
    · rename_i nothing
      cases step
      obtain rfl : rest = [] := nothing
      cases input <;> exact .sent
    · rename_i pending
      unfold Serving.send at step
      split at step
      · rename_i sent
        split at step
        · rename_i within
          cases step
          rw [ServePlace.call, if_neg pending]
          exact .send rest sent within
        · cases step
      · cases step
        rw [ServePlace.call, if_neg pending]
        exact .sendFails rest
      · cases step
  · cases step
    cases input <;> exact .close
  · cases step

/-- The server receives and sends. -/
def ServePlace.isServing {Byte : Type} : ServePlace Byte → Bool
  | .recv | .send _ => true
  | .close | .done => false

/-- How many steps the loop has still to make before it receives, and to its end. -/
def ServePlace.cost {Byte : Type} : ServePlace Byte → Nat
  | .recv => 2
  | .send rest => 2 * rest.length + 3
  | .close => 1
  | .done => 0

/-- The loop of a server that gives `recv` so much room. -/
abbrev blockingServer (room : Nat) : ConnectionServer where
  State := Serving UInt8
  Input := ServeInput UInt8
  start := .new
  step := Serving.step room
  call serving input := serving.place.call input

/-- It is an echo service. -/
def blockingService (room capacity : Nat) : EchoService capacity where
  toConnectionServer := blockingServer room
  bytes serving := serving.place.rest
  bytes_start := rfl
  bytes_step {serving input after} step := by
    have made := serve_step step
    show after.place.rest ++ (serving.place.call input).put ⊆
      serving.place.rest ++ (serving.place.call input).taken
    generalize serving.place = place, serving.place.call input = call, after.place = moved at made ⊢
    cases made with
    | recv bytes =>
      show bytes ++ [] ⊆ bytes
      rw [List.append_nil]
      exact List.Subset.refl bytes
    | send rest sent =>
      intro byte known
      refine List.mem_append_left _ ?_
      rcases List.mem_append.mp known with later | now
      · exact List.mem_of_mem_drop later
      · exact List.mem_of_mem_take now
    | _ => exact fun _ known => by cases known
  Sound serving streams := serving.place.isServing = true ∨ streams.ended = true
  sound_start := .inl rfl
  sound_step {streams serving input after} sound made := by
    have permitted : streams.permits capacity (serving.place.call input) = true := made.permitted
    have succeeds : serving.place.call input ≠ .fails := made.succeeds
    have step := serve_step made.step
    show after.place.isServing = true ∨ streams.ended = true
    generalize serving.place = place, serving.place.call input = call, after.place = moved
      at step permitted succeeds sound ⊢
    cases step with
    | eof => exact .inr (of_decide_eq_true permitted).2
    | recvFails => exact absurd rfl succeeds
    | close => exact .inr (sound.resolve_left fun same => by cases same)
    | _ => exact .inl rfl
  sound_later sound later := sound.imp_right later.ended
  held serving := serving.place.rest.length
  held_start := rfl
  held_step {streams serving input after} _ made := by
    have succeeds : serving.place.call input ≠ .fails := made.succeeds
    have step := serve_step made.step
    show after.place.rest.length + (serving.place.call input).put.length =
      serving.place.rest.length + (serving.place.call input).taken.length
    generalize serving.place = place, serving.place.call input = call, after.place = moved
      at step succeeds ⊢
    cases step with
    | recv bytes => exact (Nat.zero_add _).symm
    | recvFails | sendFails => exact absurd rfl succeeds
    | send rest sent within =>
      show (rest.drop sent).length + (rest.take sent).length = rest.length + 0
      rw [List.length_drop, List.length_take]
      omega
    | _ => rfl
  cost serving := serving.place.cost
  rate := 4
  cost_step {streams serving input after} _ made := by
    have permitted : streams.permits capacity (serving.place.call input) = true := made.permitted
    have succeeds : serving.place.call input ≠ .fails := made.succeeds
    have step := serve_step made.step
    show after.place.cost + 1 + (serving.place.call input).put.length ≤
      serving.place.cost + 4 * (serving.place.call input).taken.length
    generalize serving.place = place, serving.place.call input = call, after.place = moved
      at step permitted succeeds ⊢
    cases step with
    | recv bytes present =>
      have some := List.length_pos_iff.mpr present
      show 2 * bytes.length + 3 + 1 + 0 ≤ 2 + 4 * bytes.length
      omega
    | recvFails | sendFails => exact absurd rfl succeeds
    | send rest sent within =>
      have moves := List.length_pos_iff.mpr (of_decide_eq_true permitted).1
      show 2 * (rest.drop sent).length + 3 + 1 + (rest.take sent).length ≤ 2 * rest.length + 3 + 0
      rw [List.length_take] at moves ⊢
      rw [List.length_drop]
      omega
    | _ => exact Nat.le_refl _

/-- A message of two bytes that the server has sent back one by one. -/
theorem round_trip_two : ∃ session : EchoSession Unit (Serving UInt8),
    session.client.local_latencies.length = 1 ∧ session.up = [] ∧ session.down = [] ∧
      session.server.place.rest.length = 0 ∧
      session.client.sent = 2 * session.client.local_latencies.length := by
  obtain ⟨session, reachable, place, once⟩ : ∃ session : EchoSession Unit (Serving UInt8),
      ReachableBy (EchoSession.system Unit
        { message_size := 2, upCapacity := 4, downCapacity := 4 } (blockingServer 4))
        (nothingFails (blockingServer 4)) session ∧
      session.client.place = .loop ∧ session.client.local_latencies.length = 1 :=
    exists_of_replay rfl [.client false .none, .client false (.sent 2), .client false .none,
      .server (.recv [65, 65]), .server (.send 1), .client false (.received [65]),
      .server (.send 1), .client false (.received [65]), .client false .none, .client false .none,
      .client false .none, .client false .none, .client false (.elapsed ())] (by decide)
  exact ⟨session, once, round_trip { message_size := 2, upCapacity := 4, downCapacity := 4 }
    (blockingService 4 4) reachable place⟩

/-! ### When the two block each other -/

section Blocking

variable {Latency : Type} {setup : SessionSetup} {room : Nat}
  {session : EchoSession Latency (Serving UInt8)}

/-- A server that cannot move has nothing to receive, or no room to send. -/
theorem blocking_waits (stuck : session.Stuck setup (blockingServer room)) (positive : 0 < room)
    (serves : session.server.place.isServing = true) :
    (session.up = [] ∧ session.server.place.rest.length = 0) ∨
      (0 < session.server.place.rest.length ∧ setup.downCapacity ≤ session.down.length) := by
  have blocked {input : ServeInput UInt8} {call : ServerCall}
      (made : session.server.place.call input = call) (succeeds : call ≠ .fails)
      (may : session.streams.permits setup.downCapacity call = true) :
      session.server.step room input = none :=
    stuck.server (blockingServer room) _ made succeeds may
  cases place : session.server.place with
  | recv =>
    left
    refine ⟨?_, rfl⟩
    by_contra present
    obtain ⟨byte, more, there⟩ := List.exists_cons_of_ne_nil present
    have call : session.server.place.call (.recv [byte]) = .recv [byte] := by
      rw [place]
      rfl
    have may : session.streams.permits setup.downCapacity (.recv [byte]) = true :=
      decide_eq_true ⟨List.cons_ne_nil byte [], by rw [EchoSession.streams, there]; rfl⟩
    have none := blocked call (fun same => by cases same) may
    simp only [Serving.step, place, Serving.recv, List.length_singleton,
      if_pos (Nat.succ_le_of_lt positive)] at none
    cases none
  | send rest =>
    right
    have pending : rest ≠ [] := fun nothing => by
      have call : session.server.place.call .none = .none := by
        rw [place]
        rfl
      have none := blocked call (fun same => by cases same) rfl
      simp only [Serving.step, place, if_pos nothing] at none
      cases none
    have some := List.length_pos_iff.mpr pending
    refine ⟨some, ?_⟩
    by_contra less
    have one : (rest.take 1).length = 1 := by
      rw [List.length_take]
      omega
    have call : session.server.place.call (.send 1) = .send (rest.take 1) := by
      rw [place, ServePlace.call, if_neg pending]
    have may : session.streams.permits setup.downCapacity (.send (rest.take 1)) = true := by
      refine decide_eq_true ⟨fun nothing => ?_, ?_⟩
      · rw [nothing] at one
        cases one
      · rw [one]
        exact Nat.succ_le_of_lt (Nat.lt_of_not_le less)
    have none := blocked call (fun same => by cases same) may
    simp only [Serving.step, place, if_neg pending, Serving.send,
      if_pos (Nat.succ_le_of_lt some)] at none
    cases none
  | close =>
    rw [place] at serves
    cases serves
  | done =>
    rw [place] at serves
    cases serves

/-- Where the two block each other, the socket buffers are full and the server has more in its
hands, all of it of one message. -/
theorem blocking_overflows [Nonempty Latency]
    (stuck : session.Stuck setup (blockingServer room)) (positive : 0 < room)
    (up : 0 < setup.upCapacity) (down : 0 < setup.downCapacity)
    (reachable : ReachableBy (EchoSession.system Latency setup (blockingServer room))
      (nothingFails (blockingServer room)) session) :
    setup.upCapacity + setup.downCapacity + 1 < setup.message_size := by
  have sound : session.server.place.isServing = true ∨ session.streams.ended = true :=
    (reachable_unbroken (blockingService room setup.downCapacity) reachable).server
  have serves := sound.resolve_right fun ended => stuck.1 (of_decide_eq_true ended)
  have waits := blocking_waits stuck positive serves
  obtain ⟨full, within⟩ := stuck.sending
    (blockingService room setup.downCapacity) reachable (waits.imp_right fun full nothing => by
      have full := full.2
      rw [nothing] at full
      exact Nat.not_le_of_lt down full)
  have held : session.up.length + session.server.place.rest.length + session.down.length <
    setup.message_size := within
  rcases waits with ⟨empty, -⟩ | ⟨some, more⟩
  · rw [empty, List.length_nil] at full
    omega
  · omega

/-- The client is sending, and what the socket buffers do not hold of its bytes the server has in
its hands. -/
structure Filled (session : EchoSession Latency (Serving UInt8)) (place : ServePlace UInt8)
    (up down : Nat) : Prop where
  client : session.client.place = .sendFull (up + place.rest.length + down)
  server : session.server.place = place
  up : session.up.length = up
  down : session.down.length = down

/-- A run without failures can come there. -/
def Fills (Latency : Type) (setup : SessionSetup) (room : Nat) (place : ServePlace UInt8)
    (up down : Nat) : Prop :=
  ∃ session : EchoSession Latency (Serving UInt8),
    ReachableBy (EchoSession.system Latency setup (blockingServer room))
      (nothingFails (blockingServer room)) session ∧ Filled session place up down

variable {place : ServePlace UInt8} {up down : Nat}

theorem fills_start : Fills Latency setup room .recv 0 0 :=
  have taken : (LoadWorker.new.goTo .loop : LoadWorker Latency).step setup.message_size false
      { total_requests := 0, total_errors := 0, total_bytes := 0 } .none =
    some ({ total_requests := 0, total_errors := 0, total_bytes := 0 },
      LoadWorker.new.goTo (.sendFull 0)) := rfl
  ⟨_, reachable_client (blockingServer room) (.start rfl) rfl rfl taken, rfl, rfl, rfl, rfl⟩

/-- The client sends one byte more. -/
theorem Fills.send (fills : Fills Latency setup room place up down)
    (more : up + place.rest.length + down < setup.message_size) (fits : up < setup.upCapacity) :
    Fills Latency setup room place (up + 1) down := by
  obtain ⟨session, reachable, filled⟩ := fills
  have may : session.mayClient setup (.sent 1) = true :=
    decide_eq_true (by rw [filled.up]; exact fits)
  have one : 0 < 1 ∧ 1 ≤ setup.message_size - (up + place.rest.length + down) :=
    ⟨Nat.one_pos, by omega⟩
  have taken : session.client.step setup.message_size false session.stats_ (.sent 1) =
      some (session.stats_, { session.client with sent := session.client.sent + 1 }.goTo
        (.sendFull (up + place.rest.length + down + 1))) := by
    simp only [LoadWorker.step, filled.client, LoadWorker.move, request, List.length_replicate,
      if_pos more, LoadWorker.send, if_pos one, Option.map_some]
  refine ⟨_, reachable_client (blockingServer room) reachable rfl may taken, ?_, filled.server, ?_,
    filled.down⟩
  · exact congrArg LoadPlace.sendFull (by omega)
  · show (session.up ++ session.client.outgoing setup.message_size (.sent 1)).length = up + 1
    simp only [LoadWorker.outgoing, filled.client, request, List.drop_replicate,
      List.take_replicate, List.length_append, List.length_replicate, filled.up]
    omega

/-- The server receives the byte that is there. -/
theorem Fills.recv (fills : Fills Latency setup room .recv 1 down) (positive : 0 < room) :
    ∃ byte, Fills Latency setup room (.send [byte]) 0 down := by
  obtain ⟨session, reachable, filled⟩ := fills
  obtain ⟨byte, there⟩ := List.length_eq_one_iff.mp filled.up
  have call : session.server.place.call (.recv [byte]) = .recv [byte] := by
    rw [filled.server]
    rfl
  have may : session.streams.permits setup.downCapacity (.recv [byte]) = true :=
    decide_eq_true ⟨List.cons_ne_nil byte [], by rw [EchoSession.streams, there]; rfl⟩
  have taken : session.server.step room (.recv [byte]) =
      some (session.server.makes (.read [byte]) (.send [byte])) := by
    simp only [Serving.step, filled.server, Serving.recv, List.length_singleton,
      if_pos (Nat.succ_le_of_lt positive)]
    rfl
  refine ⟨byte, _, reachable_server (blockingServer room) reachable _ call
    (fun same => by cases same) may taken, ?_, rfl, ?_, ?_⟩
  · exact filled.client.trans (congrArg LoadPlace.sendFull (by simp [ServePlace.rest]))
  · show (session.up.drop 1).length = 0
    rw [there]
    rfl
  · show (session.down ++ []).length = down
    rw [List.append_nil, filled.down]

/-- The server sends its byte back, and goes on to receive. -/
theorem Fills.echo {byte : UInt8} (fills : Fills Latency setup room (.send [byte]) 0 down)
    (fits : down < setup.downCapacity) : Fills Latency setup room .recv 0 (down + 1) := by
  obtain ⟨session, reachable, filled⟩ := fills
  have call : session.server.place.call (.send 1) = .send [byte] := by
    rw [filled.server]
    rfl
  have may : session.streams.permits setup.downCapacity (.send [byte]) = true :=
    decide_eq_true ⟨List.cons_ne_nil byte [], by rw [EchoSession.streams, filled.down]; exact fits⟩
  have sends : session.server.step room (.send 1) =
      some (session.server.makes (.write [byte]) (.send [])) := by
    simp only [Serving.step, filled.server]
    rfl
  have sent := reachable_server (blockingServer room) reachable _ call
    (fun same => by cases same) may sends
  have goes : (session.server.makes (.write [byte]) (.send [])).step room .none =
    some { session.server.makes (.write [byte]) (.send []) with place := .recv } := rfl
  refine ⟨_, reachable_server (blockingServer room) sent .none rfl
    (fun same => by cases same) rfl goes, ?_, rfl, ?_, ?_⟩
  · exact filled.client.trans (congrArg LoadPlace.sendFull (by simp [ServePlace.rest]; omega))
  · show ((session.up.drop 0).drop 0).length = 0
    rw [List.drop_zero, List.drop_zero, filled.up]
  · show ((session.down ++ [byte]) ++ []).length = down + 1
    rw [List.append_nil, List.length_append, filled.down]
    rfl

/-- Byte after byte comes back, and the client reads none. -/
theorem fills_down (positive : 0 < room) (some : 0 < setup.upCapacity)
    (fits : down ≤ setup.downCapacity) (more : down ≤ setup.message_size) :
    Fills Latency setup room .recv 0 down := by
  induction down with
  | zero => exact fills_start
  | succ down inductionHypothesis =>
    have fills := inductionHypothesis (Nat.le_of_succ_le fits) (Nat.le_of_succ_le more)
    have sends : Fills Latency setup room .recv 1 down :=
      fills.send (by show 0 + 0 + down < _; omega) some
    obtain ⟨byte, received⟩ := sends.recv positive
    exact received.echo (Nat.lt_of_succ_le fits)

/-- Then byte after byte stays on its way to the server. -/
theorem fills_up {byte : UInt8} (fills : Fills Latency setup room (.send [byte]) 0 down)
    (fits : up ≤ setup.upCapacity) (more : up + 1 + down ≤ setup.message_size) :
    Fills Latency setup room (.send [byte]) up down := by
  induction up with
  | zero => exact fills
  | succ up inductionHypothesis =>
    have before := inductionHypothesis (Nat.le_of_succ_le fits) (by omega)
    exact before.send (by show up + 1 + down < _; omega) (Nat.lt_of_succ_le fits)

/-- When both buffers are full and the message is not sent, neither can move. -/
theorem Filled.stuck {byte : UInt8}
    (filled : Filled session (.send [byte]) setup.upCapacity setup.downCapacity)
    (more : setup.upCapacity + setup.downCapacity + 1 < setup.message_size) :
    session.Stuck setup (blockingServer room) := by
  refine ⟨(fun done => by cases filled.client.symm.trans done), fun event succeeds => ?_⟩
  cases event with
  | client stop_ input =>
    have less : setup.upCapacity + (ServePlace.send [byte]).rest.length + setup.downCapacity <
        setup.message_size := by
      show setup.upCapacity + 1 + setup.downCapacity < _
      omega
    simp only [EchoSession.step]
    split
    · rename_i may
      simp only [LoadWorker.step, filled.client, LoadWorker.move, request, List.length_replicate,
        if_pos less, Option.map_eq_none_iff]
      cases input with
      | sent n =>
        have room : session.up.length + n ≤ setup.upCapacity := of_decide_eq_true may
        rw [filled.up] at room
        exact if_neg fun asked => by omega
      | fails => cases succeeds
      | _ => rfl
    · rfl
  | server input =>
    have call : session.server.place.call input = (ServePlace.send [byte]).call input :=
      congrArg (ServePlace.call · input) filled.server
    simp only [EchoSession.step, call]
    split
    · rename_i may
      rw [Option.map_eq_none_iff]
      show session.server.step room input = none
      simp only [Serving.step, filled.server]
      cases input with
      | send sent =>
        obtain ⟨present, fits⟩ : [byte].take sent ≠ [] ∧
          session.down.length + ([byte].take sent).length ≤ setup.downCapacity :=
            of_decide_eq_true may
        have moves := List.length_pos_iff.mpr present
        rw [filled.down] at fits
        omega
      | fails errno => exact absurd call (of_decide_eq_false succeeds)
      | _ => rfl
    · rfl

/-- The client reads nothing before it has sent its message whole, so client and server can block
each other without any call failing; they can exactly when the message is larger than what the two
socket buffers hold and one byte. -/
theorem session_blocks_iff [Nonempty Latency] (positive : 0 < room) (up : 0 < setup.upCapacity)
    (down : 0 < setup.downCapacity) :
    (∃ session : EchoSession Latency (Serving UInt8),
        ReachableBy (EchoSession.system Latency setup (blockingServer room))
          (nothingFails (blockingServer room)) session ∧
        session.Stuck setup (blockingServer room)) ↔
      setup.upCapacity + setup.downCapacity + 1 < setup.message_size := by
  constructor
  · rintro ⟨session, reachable, stuck⟩
    exact blocking_overflows stuck positive up down reachable
  · intro more
    have lower : Fills Latency setup room .recv 0 setup.downCapacity :=
      fills_down positive up (Nat.le_refl _) (by omega)
    have sends : Fills Latency setup room .recv 1 setup.downCapacity :=
      lower.send (by show 0 + 0 + setup.downCapacity < _; omega) up
    obtain ⟨byte, held⟩ := sends.recv positive
    obtain ⟨session, reachable, filled⟩ := fills_up held (Nat.le_refl _) (by omega)
    exact ⟨session, reachable, filled.stuck more⟩

/-- Four bytes over buffers of one byte each. -/
theorem session_blocks_iff_four : ∃ session : EchoSession Unit (Serving UInt8),
    ReachableBy (EchoSession.system Unit
      { message_size := 4, upCapacity := 1, downCapacity := 1 } (blockingServer 1))
      (nothingFails (blockingServer 1)) session ∧
      session.Stuck { message_size := 4, upCapacity := 1, downCapacity := 1 } (blockingServer 1) :=
  (session_blocks_iff (by decide) (by decide) (by decide)).mpr (by decide)

end Blocking

end MultiReactor
