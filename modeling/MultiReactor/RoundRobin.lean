/-
This file proves that new connections are dealt to the sub loops in turn. The
cursor `next_` is the number of connections ever created modulo the number of
sub loops, so the loop of a connection is decided by its place in the order of
creation, whatever happens to the connections in between: only a round of the
accept loop that creates a connection moves the cursor. Over any run the
numbers two sub loops have been dealt differ by one at most.
-/

import MultiReactor.Confinement

namespace MultiReactor

open Transition

variable {subLoops : Nat} {User : Type}

/-! ### The loops the connections were dealt to -/

/-- The loops of the connections ever created, in the order of creation. -/
def TcpServer.loops (server : TcpServer subLoops) : List (LoopId subLoops) :=
  server.connections.map TcpConnection.loop_

theorem loops_getElem? (server : TcpServer subLoops) (i : Nat) :
    server.loops[i]? = server.loopOf i := by
  rw [TcpServer.loops, List.getElem?_map]
  rfl

/-- What moves no connection to another loop, and creates none, leaves the list alone. -/
theorem loops_eq {server after : TcpServer subLoops}
    (same : ∀ c, after.loopOf c = server.loopOf c) : after.loops = server.loops :=
  List.ext_getElem? fun i => by rw [loops_getElem?, loops_getElem?, same]

theorem release_next (server : TcpServer subLoops) (c : ConnectionId) :
    (server.release c).next_ = server.next_ := by
  unfold TcpServer.release
  dsimp only
  split
  · split <;> rfl
  · rfl

theorem store_next (server : TcpServer subLoops) (fd : Nat) (c : ConnectionId) :
    (server.store fd c).next_ = server.next_ := by
  unfold TcpServer.store
  dsimp only
  split
  · rw [release_next]
    rfl
  · rfl

/-- The turn of the connection with this place in the order of creation: `loops_[i mod n]`. -/
def dealtTo (multi : 0 < subLoops) (i : Nat) : Fin subLoops :=
  ⟨i % subLoops, Nat.mod_lt i multi⟩

/-- How many connections a sub loop has been dealt. -/
def TcpServer.dealt (server : TcpServer subLoops) (i : Fin subLoops) : Nat :=
  server.loops.count (some i)

/-! ### What a step deals -/

/-- A step deals nothing, or it creates one connection on the loop the pool returns. -/
inductive Deals (server after : TcpServer subLoops) : Prop where
  | nothing (next : after.next_ = server.next_) (loops : after.loops = server.loops)
  | created (subLoop : LoopId subLoops) (dealt : TcpServer subLoops)
      (deal : server.getNextLoop = some (subLoop, dealt)) (next : after.next_ = dealt.next_)
      (loops : after.loops = server.loops ++ [subLoop])

theorem Deals.share (server : TcpServer subLoops) (c : ConnectionId) :
    Deals server (server.share c) :=
  .nothing rfl (loops_eq (loopOf_share server c))

theorem Deals.release (server : TcpServer subLoops) (c : ConnectionId) :
    Deals server (server.release c) :=
  .nothing (release_next server c) (loops_eq (loopOf_release server c))

theorem execute_deals {server after : TcpServer subLoops} {body : ServerCode}
    {input : Input subLoops} {calls : List (Call (LoopId subLoops) Functor ServerCode)}
    (executes : ServerExecutes server body input after calls) : Deals server after := by
  cases executes with
  | connection c body input connection outcome found alive executes =>
    exact .nothing rfl
      (loops_eq fun d => loopOf_commit server c d found outcome executes.keeps.loop)
  | listenCallback | listenIgnored | acceptEnds | acceptRefused | removedAlready =>
    exact .nothing rfl rfl
  | accepted fd fresh subLoop dealt deal =>
    obtain ⟨next, rfl⟩ := getNextLoop_eq server deal
    refine .created subLoop _ deal (store_next ..) ?_
    rw [loops_eq fun c => loopOf_store _ _ c fd, TcpServer.loops, List.map_append]
    rfl
  | removeConnection c input connection found alive => exact .share server c
  | removeConnectionInLoop c input connection erased found alive entry =>
    refine .nothing (release_next (server.erase connection.fd_) erased) (loops_eq fun d => ?_)
    rw [loopOf_share, loopOf_release]
    rfl
  | release c input => exact .release server c

theorem step_deals [DecidableEq User] {machine after : ServerMachine subLoops User}
    {event : ServerEvent subLoops User}
    (step : Step (TcpServer.client subLoops User) machine event after) :
    Deals machine.world after.world := by
  cases step with
  | code thread input body rest world calls top executed =>
    exact execute_deals (serverExecute_cases executed)
  | runQueued thread input l cb rest top foreign => exact .share machine.world cb.connection
  | destroy thread input cb rest top => exact .release machine.world cb.connection
  | clear l active input cb rest next idle place => exact .release machine.world cb.connection
  | poll l active input world idle place distinct bounded counted polled =>
    obtain ⟨mask, -, -, rfl⟩ := serverPoll_cases polled
    exact .nothing rfl (loops_eq fun c => loopOf_setRevents machine.world c _ mask)
  | begin thread input world calls idle outside begun =>
    cases serverBegin_cases begun with
    | member t call c body connection made found alive => exact .share machine.world c
    | bound t call l c body connection made found alive => exact .share machine.world c
    | quit t l => exact .nothing rfl rfl
  | _ => exact .nothing rfl rfl

/-! ### The cursor -/

/-- The connections were dealt in turn, and the cursor is where the next turn is. -/
structure InTurn (multi : 0 < subLoops) (server : TcpServer subLoops) : Prop where
  cursor : server.next_ = server.loops.length % subLoops
  turns : server.loops = (List.range server.loops.length).map fun i => some (dealtTo multi i)

theorem InTurn.deals {multi : 0 < subLoops} {server after : TcpServer subLoops}
    (inTurn : InTurn multi server) (deals : Deals server after) : InTurn multi after := by
  cases deals with
  | nothing next loops =>
    exact ⟨by rw [next, loops, inTurn.cursor], by rw [loops]; exact inTurn.turns⟩
  | created subLoop dealt deal next loops =>
    have inBounds : server.next_ < subLoops := by
      rw [inTurn.cursor]
      exact Nat.mod_lt _ multi
    unfold TcpServer.getNextLoop at deal
    rw [if_neg multi.ne', dif_pos inBounds] at deal
    obtain ⟨rfl, rfl⟩ := Prod.mk.inj (Option.some.inj deal)
    have turn : (⟨server.next_, inBounds⟩ : Fin subLoops) = dealtTo multi server.loops.length :=
      Fin.ext inTurn.cursor
    refine ⟨?_, ?_⟩
    · show after.next_ = _
      rw [next, loops, List.length_append, List.length_singleton, inTurn.cursor, Nat.mod_add_mod]
    · rw [loops, List.length_append, List.length_singleton, List.range_succ, List.map_append,
        ← inTurn.turns, turn]
      rfl

/-- The loop of the connection with this place in the order of creation. -/
theorem InTurn.loop {multi : 0 < subLoops} {server : TcpServer subLoops}
    (inTurn : InTurn multi server) {i : Nat} {connection : TcpConnection (LoopId subLoops)}
    (found : server.find i = some connection) :
    connection.loop_ = some (dealtTo multi i) := by
  have here : server.loops[i]? = some connection.loop_ :=
    (loops_getElem? server i).trans (loopOf_eq found)
  obtain ⟨bound, -⟩ := List.getElem?_eq_some_iff.mp here
  rw [inTurn.turns, List.getElem?_map, List.getElem?_range bound] at here
  exact (Option.some.inj here).symm

/-- How often the turn of a sub loop comes in a prefix of the order: every round through the pool
brings it once, and the round under way once more if it has come already. -/
theorem turns_count (multi : 0 < subLoops) (k : Nat) :
    ∃ rounds under, under < subLoops ∧ k = rounds * subLoops + under ∧
      ∀ i : Fin subLoops, ((List.range k).map fun j => some (dealtTo multi j)).count (some i) =
        rounds + if i.val < under then 1 else 0 := by
  induction k with
  | zero => exact ⟨0, 0, multi, by rw [Nat.zero_mul], fun i => rfl⟩
  | succ k inductionHypothesis =>
    obtain ⟨rounds, under, bound, whole, counts⟩ := inductionHypothesis
    have turn (i : Fin subLoops) :
        [some (dealtTo multi k)].count (some i) = if i.val = under then 1 else 0 := by
      have isTurn : dealtTo multi k = ⟨under, bound⟩ := Fin.ext (by
        show k % subLoops = under
        rw [whole, Nat.mul_add_mod_of_lt bound])
      rw [List.count_singleton, isTurn]
      by_cases here : i.val = under
      · subst here
        rw [if_pos rfl, if_pos (beq_self_eq_true _)]
      · have other : (some ⟨under, bound⟩ == some i) = false := by
          simpa [Fin.ext_iff] using Ne.symm here
        rw [if_neg here, other]
        rfl
    have next (i : Fin subLoops) :
        ((List.range (k + 1)).map fun j => some (dealtTo multi j)).count (some i) =
          rounds + (if i.val < under then 1 else 0) + if i.val = under then 1 else 0 := by
      rw [List.range_succ, List.map_append, List.count_append, counts, ← turn]
      rfl
    by_cases last : under + 1 = subLoops
    · refine ⟨rounds + 1, 0, multi, by rw [whole, Nat.succ_mul]; omega, fun i => ?_⟩
      have isIndex := i.isLt
      rw [next, if_neg (Nat.not_lt_zero _)]
      split <;> split <;> omega
    · refine ⟨rounds, under + 1, by omega, by omega, fun i => ?_⟩
      rw [next]
      split <;> split <;> split <;> omega

/-- Two sub loops have been dealt numbers that differ by one at most. -/
theorem InTurn.balanced {multi : 0 < subLoops} {server : TcpServer subLoops}
    (inTurn : InTurn multi server) (i j : Fin subLoops) : server.dealt i ≤ server.dealt j + 1 := by
  obtain ⟨rounds, under, -, -, counts⟩ := turns_count multi server.loops.length
  unfold TcpServer.dealt
  rw [inTurn.turns, counts, counts]
  split <;> split <;> omega

section Reachable

variable [DecidableEq User] {listenFd : Nat} {openFds : Nat → Bool}
  {machine : ServerMachine subLoops User}

theorem reachable_inTurn (multi : 0 < subLoops)
    (reachable : Reachable (TcpServer.system subLoops User listenFd openFds) machine) :
    InTurn multi machine.world := by
  refine reachable.invariant (fun machine => InTurn multi machine.world) ?_ ?_
  · rintro _ rfl
    exact ⟨(Nat.zero_mod subLoops).symm, rfl⟩
  · intro _ _ _ _ inTurn _ step
    exact inTurn.deals (step_deals (step_cases step))

/-- With sub loops, the i-th connection is dealt to the sub loop of index i mod n, the cursor stays
in bounds, a round of the accept loop that creates no connection changes nothing, and the numbers
dealt to two sub loops differ by one at most. -/
theorem round_robin (multi : 0 < subLoops)
    (reachable : Reachable (TcpServer.system subLoops User listenFd openFds) machine) :
    machine.world.next_ < subLoops ∧
      (∀ i connection, machine.world.find i = some connection →
        connection.loop_ = some (dealtTo multi i)) ∧
      (∀ thread rest result after,
        machine.stack thread = .call (.code .handleAccept) :: rest →
        (∀ fd, result ≠ .client fd true) →
        (TcpServer.system subLoops User listenFd openFds).step machine
          (.run thread (.accept result)) = some after → after.world = machine.world) ∧
      ∀ i j : Fin subLoops, machine.world.dealt i ≤ machine.world.dealt j + 1 := by
  have inTurn := reachable_inTurn multi reachable
  refine ⟨?_, fun _ _ => inTurn.loop, fun thread rest result after top other step => ?_,
    inTurn.balanced⟩
  · rw [inTurn.cursor]
    exact Nat.mod_lt _ multi
  · obtain ⟨world, calls, executed, rfl⟩ := step_code top step
    have executed : TcpServer.execute .handleAccept (.accept result) machine.world =
      some (world, calls) := executed
    cases serverExecute_cases executed with
    | acceptEnds | acceptRefused => rfl
    | accepted fd => exact absurd rfl (other fd)

end Reachable

/-- With two sub loops, the base loop accepts fd 7, refuses a client, and accepts fd 8. -/
def acceptTwice : List (ServerEvent 2 Unit) :=
  [moves baseLoop, moves baseLoop, readable baseLoop [.channel .listen], moves baseLoop,
    steps (.loop baseLoop), .run (.loop baseLoop) (.accept (.client 7 true))] ++
  List.replicate 6 (steps (.loop baseLoop)) ++
  [.run (.loop baseLoop) (.accept (.client 9 false)),
    .run (.loop baseLoop) (.accept (.client 8 true))]

/-- The two connections are dealt to the two sub loops. -/
theorem round_robin_twice : ∃ machine : ServerMachine 2 Unit,
    machine.world.connections.length = 2 ∧ machine.world.next_ < 2 ∧
      ∀ i j : Fin 2, machine.world.dealt i ≤ machine.world.dealt j + 1 := by
  have accepted : ∃ machine, Reachable (TcpServer.system 2 Unit 3 fun _ => false) machine ∧
      machine.world.connections.length = 2 := exists_of_replay rfl acceptTwice (by decide)
  obtain ⟨machine, reachable, created⟩ := accepted
  obtain ⟨cursor, -, -, balanced⟩ := round_robin Nat.two_pos reachable
  exact ⟨machine, created, cursor, balanced⟩

end MultiReactor
