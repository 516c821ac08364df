/-
This file models the load-test client (load_test_client.cpp): the workers, each
with a connection of its own, and the thread that calls `run`. A step of a
worker is a test, a system call or the update of one atomic counter, so every
interleaving of the workers and of the stop flag is a run. What `connect`, `send`
and `recv` return is the environment's; a call that succeeds transfers at least
one byte and at most what was asked for. SIGPIPE is taken to be ignored: where it
is not, a `send` that would fail with EPIPE ends the process before anything is
printed. Latencies are of any type.
-/

import Mathlib.Data.List.Basic
import Mathlib.Logic.Function.Basic
import MultiReactor.Transition

namespace MultiReactor

open Transition

/-- `Stats`, the atomic counters. -/
structure Stats where
  total_requests : UInt64
  total_errors : UInt64
  total_bytes : UInt64
  deriving DecidableEq

/-- `stats_.total_requests++`. -/
def Stats.countRequest (stats_ : Stats) : Stats :=
  { stats_ with total_requests := stats_.total_requests + 1 }

/-- `stats_.total_errors++`. -/
def Stats.countError (stats_ : Stats) : Stats :=
  { stats_ with total_errors := stats_.total_errors + 1 }

/-- `stats_.total_bytes += size`. -/
def Stats.countBytes (stats_ : Stats) (size : Nat) : Stats :=
  { stats_ with total_bytes := stats_.total_bytes + UInt64.ofNat size }

/-- Where a worker stands. -/
inductive LoadPlace where
  /-- its thread has not been started -/
  | ready
  /-- at `connectToServer()` -/
  | connect
  /-- at `while(!stop_.load())` -/
  | loop
  /-- at the test of the loop of `sendFull` -/
  | sendFull (sent_total : Nat)
  /-- at the test of the loop of `recvFull` -/
  | recvFull (received : Nat)
  /-- at `if(response == request)` -/
  | compare
  /-- at `stats_.total_requests++` -/
  | total_requests
  /-- at `stats_.total_bytes += ...` -/
  | total_bytes
  /-- at `local_latencies.push_back(elapsed_us)` -/
  | push_back
  /-- at `stats_.total_errors++`, with a connection or without -/
  | total_errors (connected : Bool)
  /-- at `close(fd)` -/
  | close
  | returned
  deriving DecidableEq

/-- What a call of a worker returns. -/
inductive LoadInput (Latency : Type) where
  /-- no call is made -/
  | none
  | connected
  | sent (n : Nat)
  | received (bytes : List UInt8)
  | fails
  | elapsed (elapsed_us : Latency)
  deriving DecidableEq

/-- A worker: where it stands, its local variables, and what has gone over its connection. -/
structure LoadWorker (Latency : Type) where
  place : LoadPlace
  response : List UInt8
  local_latencies : List Latency
  /-- how many bytes `send` has accepted -/
  sent : Nat
  /-- how many bytes `recv` has returned -/
  received : Nat
  /-- how often it has incremented `total_errors` -/
  errors : Nat

/-- Where the thread that calls `run` stands. -/
inductive RunPlace (Latency : Type) where
  /-- at the start of the worker with this number -/
  | start (i : Nat)
  | sleep
  /-- at `stop_.store(true)` -/
  | stop
  /-- at the join of the worker with this number -/
  | join (i : Nat)
  | merge
  /-- the report is printed from the merged latencies -/
  | report (all : List Latency) (total_samples : UInt64)
  deriving DecidableEq

structure LoadTestClient (concurrency : Nat) (Latency : Type) where
  stats_ : Stats
  stop_ : Bool
  workers : Fin concurrency → LoadWorker Latency
  run : RunPlace Latency

/-- What happens next: a worker moves on, or the thread that calls `run`. -/
inductive LoadEvent (concurrency : Nat) (Latency : Type) where
  | worker (w : Fin concurrency) (input : LoadInput Latency)
  | run
  deriving DecidableEq

section Client

variable {concurrency : Nat} {Latency : Type}

/-! ### A worker -/

def LoadWorker.new : LoadWorker Latency :=
  { place := .ready
    response := []
    local_latencies := []
    sent := 0
    received := 0
    errors := 0 }

def LoadWorker.goTo (worker : LoadWorker Latency) (place : LoadPlace) : LoadWorker Latency :=
  { worker with place := place }

/-- `std::string(message_size, 'A')`. -/
def request (message_size : Nat) : List UInt8 :=
  List.replicate message_size 65

/-- `out.resize(message_size)`. -/
def resize (message_size : Nat) (out : List UInt8) : List UInt8 :=
  out.take message_size ++ List.replicate (message_size - out.length) 0

/-- What `recv` writes to `&out[received]`. -/
def overwrite (out : List UInt8) (received : Nat) (bytes : List UInt8) : List UInt8 :=
  out.take received ++ bytes ++ out.drop (received + bytes.length)

def LoadWorker.connectToServer (worker : LoadWorker Latency) :
    LoadInput Latency → Option (LoadWorker Latency)
  | .connected => some (worker.goTo .loop)
  | .fails => some (worker.goTo (.total_errors false))
  | _ => none

/-- The `send` of `sendFull`. -/
def LoadWorker.send (worker : LoadWorker Latency) (message_size sent_total : Nat) :
    LoadInput Latency → Option (LoadWorker Latency)
  | .sent n =>
    if 0 < n ∧ n ≤ message_size - sent_total then
      some ({ worker with sent := worker.sent + n }.goTo (.sendFull (sent_total + n)))
    else none
  | .fails => some (worker.goTo (.total_errors true))
  | _ => none

/-- The `recv` of `recvFull`. -/
def LoadWorker.recv (worker : LoadWorker Latency) (message_size received : Nat) :
    LoadInput Latency → Option (LoadWorker Latency)
  | .received bytes =>
    if 0 < bytes.length ∧ bytes.length ≤ message_size - received then
      some ({ worker with
        response := overwrite worker.response received bytes
        received := worker.received + bytes.length }.goTo (.recvFull (received + bytes.length)))
    else none
  | .fails => some (worker.goTo (.total_errors true))
  | _ => none

def LoadWorker.push_back (worker : LoadWorker Latency) :
    LoadInput Latency → Option (LoadWorker Latency)
  | .elapsed elapsed_us =>
    some ({ worker with local_latencies := worker.local_latencies ++ [elapsed_us] }.goTo .loop)
  | _ => none

/-- A worker moves on where it reads or writes no counter. -/
def LoadWorker.move (worker : LoadWorker Latency) (message_size : Nat) (stop_ : Bool)
    (input : LoadInput Latency) : Option (LoadWorker Latency) :=
  match worker.place with
  | .connect => worker.connectToServer input
  | .loop => some (worker.goTo (if stop_ then .close else .sendFull 0))
  | .sendFull sent_total =>
    if sent_total < (request message_size).length then worker.send message_size sent_total input
    else some ({ worker with response := resize message_size worker.response }.goTo (.recvFull 0))
  | .recvFull received =>
    if received < message_size then worker.recv message_size received input
    else some (worker.goTo .compare)
  | .compare =>
    some (worker.goTo (if worker.response = request message_size then .total_requests
      else .total_errors true))
  | .push_back => worker.push_back input
  | .close => some (worker.goTo .returned)
  | .ready | .total_requests | .total_bytes | .total_errors _ | .returned => none

/-- After an error the worker returns, and closes its connection before. -/
def LoadWorker.fail (worker : LoadWorker Latency) (connected : Bool) : LoadWorker Latency :=
  { worker with errors := worker.errors + 1 }.goTo (if connected then .close else .returned)

/-- A step of `worker`. -/
def LoadWorker.step (worker : LoadWorker Latency) (message_size : Nat) (stop_ : Bool)
    (stats_ : Stats) (input : LoadInput Latency) : Option (Stats × LoadWorker Latency) :=
  match worker.place with
  | .total_requests => some (stats_.countRequest, worker.goTo .total_bytes)
  | .total_bytes =>
    some (stats_.countBytes ((request message_size).length + worker.response.length),
      worker.goTo .push_back)
  | .total_errors connected => some (stats_.countError, worker.fail connected)
  | _ => (worker.move message_size stop_ input).map (stats_, ·)

/-! ### The thread that calls `run` -/

/-- A round of the merging loop, over `all` and `total_samples`. -/
def mergeOne (merged : List Latency × UInt64) (vec : List Latency) : List Latency × UInt64 :=
  (merged.1 ++ vec, merged.2 + UInt64.ofNat vec.length)

/-- The merging loop over `all_latencies`. -/
def mergeLatencies (all_latencies : List (List Latency)) : List Latency × UInt64 :=
  all_latencies.foldl mergeOne ([], 0)

def LoadTestClient.setWorker (client : LoadTestClient concurrency Latency) (w : Fin concurrency)
    (worker : LoadWorker Latency) : LoadTestClient concurrency Latency :=
  { client with workers := Function.update client.workers w worker }

def LoadTestClient.goTo (client : LoadTestClient concurrency Latency) (place : RunPlace Latency) :
    LoadTestClient concurrency Latency :=
  { client with run := place }

/-- `workers.emplace_back(&LoadTestClient::worker, ...)`. -/
def LoadTestClient.start (client : LoadTestClient concurrency Latency) (i : Nat) :
    LoadTestClient concurrency Latency :=
  if bound : i < concurrency then
    (client.setWorker ⟨i, bound⟩ ((client.workers ⟨i, bound⟩).goTo .connect)).goTo (.start (i + 1))
  else client.goTo .sleep

/-- `t.join()`. -/
def LoadTestClient.join (client : LoadTestClient concurrency Latency) (i : Nat) :
    Option (LoadTestClient concurrency Latency) :=
  if bound : i < concurrency then
    if (client.workers ⟨i, bound⟩).place = .returned then some (client.goTo (.join (i + 1)))
    else none
  else some (client.goTo .merge)

/-- `all_latencies`. -/
def LoadTestClient.all_latencies (client : LoadTestClient concurrency Latency) :
    List (List Latency) :=
  (List.finRange concurrency).map fun w => (client.workers w).local_latencies

def LoadTestClient.moveRun (client : LoadTestClient concurrency Latency) :
    Option (LoadTestClient concurrency Latency) :=
  match client.run with
  | .start i => some (client.start i)
  | .sleep => some (client.goTo .stop)
  | .stop => some ({ client with stop_ := true }.goTo (.join 0))
  | .join i => client.join i
  | .merge =>
    some (client.goTo (.report (mergeLatencies client.all_latencies).1
      (mergeLatencies client.all_latencies).2))
  | .report _ _ => none

def LoadTestClient.moveWorker (client : LoadTestClient concurrency Latency) (message_size : Nat)
    (w : Fin concurrency) (input : LoadInput Latency) :
    Option (LoadTestClient concurrency Latency) :=
  ((client.workers w).step message_size client.stop_ client.stats_ input).map fun moved =>
    { client.setWorker w moved.2 with stats_ := moved.1 }

def LoadTestClient.step (message_size : Nat) (client : LoadTestClient concurrency Latency) :
    LoadEvent concurrency Latency → Option (LoadTestClient concurrency Latency)
  | .worker w input => client.moveWorker message_size w input
  | .run => client.moveRun

/-- The client at the start of `run`. -/
def LoadTestClient.new : LoadTestClient concurrency Latency :=
  { stats_ := { total_requests := 0, total_errors := 0, total_bytes := 0 }
    stop_ := false
    workers := fun _ => .new
    run := .start 0 }

/-- The load test as a transition system. -/
def LoadTestClient.system (concurrency : Nat) (Latency : Type) (message_size : Nat) :
    System (LoadTestClient concurrency Latency) (LoadEvent concurrency Latency) where
  initial client := client = .new
  step := LoadTestClient.step message_size

end Client

end MultiReactor
