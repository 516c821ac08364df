/-
This file proves that the load-test client keeps its accounts. Each worker sends
and receives whole messages: wherever it tests the stop flag, as many bytes have
gone each way over its connection as its counted requests have. The counters are
the sums of what the workers have counted, so once all workers have been joined
they agree with the merged latencies.
-/

import Mathlib.Algebra.BigOperators.Fin
import Mathlib.Algebra.BigOperators.Ring.Finset
import MultiReactor.Ledger
import MultiReactor.LoadTestClient

namespace MultiReactor

open Ledger Transition

section Accounting

variable {concurrency message_size : Nat} {Latency : Type}

/-! ### One worker -/

/-- So many bytes of the current request have been sent, and so many of its response received. -/
def LoadWorker.Exchanged (worker : LoadWorker Latency) (message_size sent received : Nat) : Prop :=
  worker.sent = message_size * worker.local_latencies.length + sent ∧
    worker.received = message_size * worker.local_latencies.length + received ∧
    worker.errors = 0

/-- What holds of a worker that stands at a place. -/
def LoadWorker.FramedAt (message_size : Nat) (worker : LoadWorker Latency) : LoadPlace → Prop
  | .ready | .connect | .loop => worker.Exchanged message_size 0 0
  | .sendFull sent_total =>
    sent_total ≤ message_size ∧ worker.Exchanged message_size sent_total 0
  | .recvFull received =>
    received ≤ message_size ∧ worker.response.length = message_size ∧
      worker.Exchanged message_size message_size received
  | .compare | .total_requests | .total_bytes | .push_back =>
    worker.response.length = message_size ∧
      worker.Exchanged message_size message_size message_size
  | .total_errors _ => worker.errors = 0
  | .close | .returned => worker.errors ≤ 1

abbrev LoadWorker.Framed (message_size : Nat) (worker : LoadWorker Latency) : Prop :=
  worker.FramedAt message_size worker.place

/-- The current request is counted before its latency is stored. -/
def LoadPlace.requests : LoadPlace → Nat
  | .total_bytes | .push_back => 1
  | _ => 0

/-- So are its bytes. -/
def LoadPlace.messages : LoadPlace → Nat
  | .push_back => 1
  | _ => 0

/-- How many requests a worker has counted. -/
def LoadWorker.requests (worker : LoadWorker Latency) : Nat :=
  worker.local_latencies.length + worker.place.requests

/-- How many bytes a worker has counted. -/
def LoadWorker.bytes (message_size : Nat) (worker : LoadWorker Latency) : Nat :=
  2 * message_size * (worker.local_latencies.length + worker.place.messages)

/-- A worker has counted what it had counted before. -/
structure LoadWorker.Keeps (worker after : LoadWorker Latency) : Prop where
  requests : after.requests = worker.requests
  messages : after.local_latencies.length + after.place.messages =
    worker.local_latencies.length + worker.place.messages
  errors : after.errors = worker.errors

section Worker

variable {worker after : LoadWorker Latency} {stop_ : Bool} {input : LoadInput Latency}

theorem length_resize (out : List UInt8) : (resize message_size out).length = message_size := by
  simp only [resize, List.length_append, List.length_take, List.length_replicate]
  omega

/-- `recv` writes within the buffer. -/
theorem length_overwrite {out bytes : List UInt8} {received : Nat}
    (within : received + bytes.length ≤ out.length) :
    (overwrite out received bytes).length = out.length := by
  simp only [overwrite, List.length_append, List.length_take, List.length_drop]
  omega

/-- A worker that moves on without storing a latency. -/
theorem keeps_goTo {old next : LoadPlace} (place : worker.place = old)
    (latencies : after.local_latencies = worker.local_latencies)
    (errors : after.errors = worker.errors)
    (requests : next.requests = old.requests) (messages : next.messages = old.messages) :
    worker.Keeps (after.goTo next) where
  requests := by
    rw [LoadWorker.requests, LoadWorker.requests, place, ← requests, ← latencies]
    rfl
  messages := by
    rw [place, ← messages, ← latencies]
    rfl
  errors := errors

theorem connectToServer_framed (place : worker.place = .connect)
    (framed : worker.FramedAt message_size .connect)
    (step : worker.connectToServer input = some after) :
    after.Framed message_size ∧ worker.Keeps after := by
  unfold LoadWorker.connectToServer at step
  split at step
  · cases step
    exact ⟨framed, keeps_goTo place rfl rfl rfl rfl⟩
  · cases step
    exact ⟨framed.2.2, keeps_goTo place rfl rfl rfl rfl⟩
  · cases step

theorem send_framed {sent_total : Nat} (place : worker.place = .sendFull sent_total)
    (framed : worker.FramedAt message_size (.sendFull sent_total))
    (step : worker.send message_size sent_total input = some after) :
    after.Framed message_size ∧ worker.Keeps after := by
  obtain ⟨bound, sent, received, errors⟩ := framed
  unfold LoadWorker.send at step
  split at step
  · split at step
    · rename_i n asked
      cases step
      have total : sent_total + n ≤ message_size := by
        have most := asked.2
        omega
      have counted : worker.sent + n =
          message_size * worker.local_latencies.length + (sent_total + n) := by
        rw [sent, Nat.add_assoc]
      exact ⟨⟨total, counted, received, errors⟩, keeps_goTo place rfl rfl rfl rfl⟩
    · cases step
  · cases step
    exact ⟨errors, keeps_goTo place rfl rfl rfl rfl⟩
  · cases step

theorem recv_framed {received : Nat} (place : worker.place = .recvFull received)
    (framed : worker.FramedAt message_size (.recvFull received))
    (step : worker.recv message_size received input = some after) :
    after.Framed message_size ∧ worker.Keeps after := by
  obtain ⟨bound, length, sent, total, errors⟩ := framed
  unfold LoadWorker.recv at step
  split at step
  · split at step
    · rename_i bytes asked
      cases step
      have within : received + bytes.length ≤ message_size := by
        have most := asked.2
        omega
      have counted : worker.received + bytes.length =
          message_size * worker.local_latencies.length + (received + bytes.length) := by
        rw [total, Nat.add_assoc]
      have written : (overwrite worker.response received bytes).length = message_size :=
        (length_overwrite (length.symm ▸ within)).trans length
      exact ⟨⟨within, written, sent, counted, errors⟩, keeps_goTo place rfl rfl rfl rfl⟩
    · cases step
  · cases step
    exact ⟨errors, keeps_goTo place rfl rfl rfl rfl⟩
  · cases step

/-- A whole request has gone each way once its latency is stored. -/
theorem push_back_framed (place : worker.place = .push_back)
    (framed : worker.FramedAt message_size .push_back)
    (step : worker.push_back input = some after) :
    after.Framed message_size ∧ worker.Keeps after := by
  obtain ⟨-, sent, received, errors⟩ := framed
  unfold LoadWorker.push_back at step
  split at step
  · rename_i elapsed_us
    cases step
    have length : (worker.local_latencies ++ [elapsed_us]).length =
        worker.local_latencies.length + 1 := List.length_append
    refine ⟨⟨?_, ?_, errors⟩, ⟨?_, ?_, rfl⟩⟩
    · show worker.sent = message_size * (worker.local_latencies ++ [elapsed_us]).length + 0
      rw [length, sent, Nat.mul_succ]
      rfl
    · show worker.received = message_size * (worker.local_latencies ++ [elapsed_us]).length + 0
      rw [length, received, Nat.mul_succ]
      rfl
    · rw [LoadWorker.requests, LoadWorker.requests, place]
      exact length
    · rw [place]
      exact length
  · cases step

/-- A step that reads or writes no counter. -/
theorem move_framed (framed : worker.Framed message_size)
    (step : worker.move message_size stop_ input = some after) :
    after.Framed message_size ∧ worker.Keeps after := by
  rw [LoadWorker.Framed] at framed
  unfold LoadWorker.move at step
  split at step <;> rename_i place <;> rw [place] at framed
  · exact connectToServer_framed place framed step
  · cases step
    split
    · exact ⟨Nat.le_succ_of_le framed.2.2.le, keeps_goTo place rfl rfl rfl rfl⟩
    · exact ⟨⟨Nat.zero_le _, framed⟩, keeps_goTo place rfl rfl rfl rfl⟩
  · split at step
    · exact send_framed place framed step
    · rename_i sent_total whole
      cases step
      obtain ⟨bound, exchanged⟩ := framed
      have full : sent_total = message_size := by
        rw [request, List.length_replicate] at whole
        exact Nat.le_antisymm bound (Nat.le_of_not_lt whole)
      exact ⟨⟨Nat.zero_le _, length_resize _, full ▸ exchanged⟩, keeps_goTo place rfl rfl rfl rfl⟩
  · split at step
    · exact recv_framed place framed step
    · rename_i received whole
      cases step
      obtain ⟨bound, length, exchanged⟩ := framed
      have full : received = message_size := Nat.le_antisymm bound (Nat.le_of_not_lt whole)
      exact ⟨⟨length, full ▸ exchanged⟩, keeps_goTo place rfl rfl rfl rfl⟩
  · cases step
    split
    · exact ⟨framed, keeps_goTo place rfl rfl rfl rfl⟩
    · exact ⟨framed.2.2.2, keeps_goTo place rfl rfl rfl rfl⟩
  · exact push_back_framed place framed step
  · cases step
    exact ⟨framed, keeps_goTo place rfl rfl rfl rfl⟩
  all_goals cases step

/-- What a step of a worker adds to the counters is what the worker has counted in it. -/
structure Counts (message_size : Nat) (stats_ updated : Stats) (worker after : LoadWorker Latency) :
    Prop where
  requests : ∃ more, after.requests = worker.requests + more ∧
    updated.total_requests = stats_.total_requests + UInt64.ofNat more
  bytes : ∃ more, after.bytes message_size = worker.bytes message_size + more ∧
    updated.total_bytes = stats_.total_bytes + UInt64.ofNat more
  errors : ∃ more, after.errors = worker.errors + more ∧
    updated.total_errors = stats_.total_errors + UInt64.ofNat more

variable {stats_ updated : Stats}

theorem counts_of_keeps (keeps : worker.Keeps after) :
    Counts message_size stats_ stats_ worker after where
  requests := ⟨0, keeps.requests, (UInt64.add_zero _).symm⟩
  bytes := by
    refine ⟨0, ?_, (UInt64.add_zero _).symm⟩
    rw [LoadWorker.bytes, keeps.messages]
    rfl
  errors := ⟨0, keeps.errors, (UInt64.add_zero _).symm⟩

/-- A step of a worker keeps its framing, and counts what it has done. -/
theorem load_worker_step (framed : worker.Framed message_size)
    (step : worker.step message_size stop_ stats_ input = some (updated, after)) :
    after.Framed message_size ∧ Counts message_size stats_ updated worker after := by
  have nothing (counter : UInt64) : counter = counter + UInt64.ofNat 0 := (UInt64.add_zero _).symm
  unfold LoadWorker.step at step
  split at step
  · rename_i place
    cases step
    rw [LoadWorker.Framed, place] at framed
    refine ⟨framed, ⟨1, ?_, rfl⟩, ⟨0, ?_, nothing _⟩, ⟨0, rfl, nothing _⟩⟩
    · rw [LoadWorker.requests, LoadWorker.requests, place]
      rfl
    · rw [LoadWorker.bytes, LoadWorker.bytes, place]
      rfl
  · rename_i place
    cases step
    rw [LoadWorker.Framed, place] at framed
    refine ⟨framed, ⟨0, ?_, nothing _⟩, ⟨_, ?_, rfl⟩, ⟨0, rfl, nothing _⟩⟩
    · rw [LoadWorker.requests, LoadWorker.requests, place]
      rfl
    · rw [LoadWorker.bytes, LoadWorker.bytes, place, framed.1, request, List.length_replicate,
        ← Nat.two_mul]
      exact Nat.mul_succ _ _
  · rename_i connected place
    cases step
    rw [LoadWorker.Framed, place] at framed
    have errors : worker.errors = 0 := framed
    refine ⟨?_, ⟨0, ?_, nothing _⟩, ⟨0, ?_, nothing _⟩, ⟨1, rfl, rfl⟩⟩
    · have one : worker.errors + 1 ≤ 1 := by rw [errors]
      cases connected <;> exact one
    · rw [LoadWorker.requests, LoadWorker.requests, place]
      cases connected <;> rfl
    · rw [LoadWorker.bytes, LoadWorker.bytes, place]
      cases connected <;> rfl
  · obtain ⟨moved, taken, same⟩ := Option.map_eq_some_iff.mp step
    obtain ⟨rfl, rfl⟩ := Prod.mk.inj same
    obtain ⟨stays, keeps⟩ := move_framed framed taken
    exact ⟨stays, counts_of_keeps keeps⟩

/-- A worker returns after its first error. -/
theorem errors_le_one {place : LoadPlace} (framed : worker.FramedAt message_size place) :
    worker.errors ≤ 1 := by
  have none (errors : worker.errors = 0) : worker.errors ≤ 1 := by
    rw [errors]
    exact Nat.zero_le 1
  cases place with
  | ready | connect | loop => exact none framed.2.2
  | sendFull sent_total => exact none framed.2.2.2
  | recvFull received => exact none framed.2.2.2.2
  | compare | total_requests | total_bytes | push_back => exact none framed.2.2.2
  | total_errors connected => exact none framed
  | close | returned => exact framed

/-- A worker whose thread does not run takes no step. -/
theorem worker_idle (step : worker.step message_size stop_ stats_ input = some (updated, after)) :
    worker.place ≠ .ready ∧ worker.place ≠ .returned := by
  constructor <;> intro place <;>
  · rw [LoadWorker.step, place] at step
    obtain ⟨moved, taken, -⟩ := Option.map_eq_some_iff.mp step
    rw [LoadWorker.move, place] at taken
    cases taken

end Worker

/-! ### The merged latencies -/

theorem mergeLatencies_eq (all_latencies : List (List Latency)) :
    mergeLatencies all_latencies =
      (all_latencies.flatten, UInt64.ofNat all_latencies.flatten.length) := by
  have merged (before : List Latency × UInt64) : all_latencies.foldl mergeOne before =
      (before.1 ++ all_latencies.flatten,
        before.2 + UInt64.ofNat all_latencies.flatten.length) := by
    induction all_latencies generalizing before with
    | nil => simp
    | cons vec rest inductionHypothesis =>
      rw [List.foldl_cons, inductionHypothesis, mergeOne, List.flatten_cons, List.length_append,
        UInt64.ofNat_add, List.append_assoc, UInt64.add_assoc]
  rw [mergeLatencies, merged, List.nil_append, UInt64.zero_add]

/-! ### The whole client -/

/-- What holds of the workers where the thread that calls `run` stands at a place. -/
def LoadTestClient.RunAt (client : LoadTestClient concurrency Latency) : RunPlace Latency → Prop
  | .start i => ∀ w : Fin concurrency, i ≤ w → (client.workers w).place = .ready
  | .sleep | .stop => True
  | .join i => ∀ w : Fin concurrency, w < i → (client.workers w).place = .returned
  | .merge => ∀ w, (client.workers w).place = .returned
  | .report all total_samples => (∀ w, (client.workers w).place = .returned) ∧
    (all, total_samples) = mergeLatencies client.all_latencies

/-- Every worker has framed its messages, and the counters are the sums of what the workers have
counted. -/
structure LoadTestClient.Accounted (message_size : Nat)
    (client : LoadTestClient concurrency Latency) : Prop where
  framed : ∀ w, (client.workers w).Framed message_size
  requests : client.stats_.total_requests = UInt64.ofNat (∑ w, (client.workers w).requests)
  bytes : client.stats_.total_bytes = UInt64.ofNat (∑ w, (client.workers w).bytes message_size)
  errors : client.stats_.total_errors = UInt64.ofNat (∑ w, (client.workers w).errors)
  run : client.RunAt client.run

section Step

variable {client after : LoadTestClient concurrency Latency}

theorem workers_setWorker_self (w : Fin concurrency) (worker : LoadWorker Latency) :
    (client.setWorker w worker).workers w = worker := by
  show Function.update client.workers w worker w = worker
  rw [Function.update_self]

theorem workers_setWorker_other {w v : Fin concurrency} (worker : LoadWorker Latency)
    (different : v ≠ w) : (client.setWorker w worker).workers v = client.workers v := by
  show Function.update client.workers w worker v = client.workers v
  rw [Function.update_of_ne different]

/-- Where one worker is framed, and the others were, all are. -/
theorem framed_setWorker {w : Fin concurrency} {worker : LoadWorker Latency}
    (framed : ∀ v, (client.workers v).Framed message_size) (here : worker.Framed message_size)
    (v : Fin concurrency) : ((client.setWorker w worker).workers v).Framed message_size := by
  by_cases same : v = w
  · rwa [same, workers_setWorker_self]
  · rw [workers_setWorker_other worker same]
    exact framed v

/-- A counter keeps being the sum, when one worker counts more. -/
theorem counter_update {w : Fin concurrency} {worker : LoadWorker Latency}
    (weight : LoadWorker Latency → Nat) {counter updated : UInt64}
    (sums : counter = UInt64.ofNat (∑ other, weight (client.workers other)))
    (counts : ∃ more, weight worker = weight (client.workers w) + more ∧
      updated = counter + UInt64.ofNat more) :
    updated = UInt64.ofNat (∑ other, weight ((client.setWorker w worker).workers other)) := by
  obtain ⟨more, weighs, rfl⟩ := counts
  have total := sum_update (fun _ => weight) client.workers w worker
  rw [weighs] at total
  have sum : ∑ other, weight ((client.setWorker w worker).workers other) =
      (∑ other, weight (client.workers other)) + more := by
    show ∑ other, weight (Function.update client.workers w worker other) = _
    omega
  rw [sum, sums, UInt64.ofNat_add]

/-- The thread that calls `run` waits for every worker, so a worker that moves does not change what
it relies on. -/
theorem runAt_setWorker {w : Fin concurrency} {worker : LoadWorker Latency}
    (started : (client.workers w).place ≠ .ready) (running : (client.workers w).place ≠ .returned)
    {place : RunPlace Latency} (runAt : client.RunAt place) :
    (client.setWorker w worker).RunAt place := by
  have other {old : LoadPlace} {v : Fin concurrency} (moves : (client.workers w).place ≠ old)
      (stands : (client.workers v).place = old) :
      ((client.setWorker w worker).workers v).place = old := by
    have different : v ≠ w := fun same => moves (same ▸ stands)
    rwa [workers_setWorker_other worker different]
  cases place with
  | start i => exact fun v later => other started (runAt v later)
  | sleep | stop => trivial
  | join i => exact fun v earlier => other running (runAt v earlier)
  | merge => exact absurd (runAt w) running
  | report all total_samples => exact absurd (runAt.1 w) running

/-- A step of a worker. -/
theorem accounted_worker {w : Fin concurrency} {input : LoadInput Latency}
    (accounted : client.Accounted message_size)
    (step : client.moveWorker message_size w input = some after) :
    after.Accounted message_size := by
  obtain ⟨⟨updated, worker⟩, taken, rfl⟩ := Option.map_eq_some_iff.mp step
  obtain ⟨framed, counts⟩ := load_worker_step (accounted.framed w) taken
  obtain ⟨started, running⟩ := worker_idle taken
  exact ⟨framed_setWorker accounted.framed framed,
    counter_update _ accounted.requests counts.requests,
    counter_update _ accounted.bytes counts.bytes, counter_update _ accounted.errors counts.errors,
    runAt_setWorker started running accounted.run⟩

/-- The next worker is started. -/
theorem accounted_start {i : Nat} (accounted : client.Accounted message_size)
    (place : client.run = .start i) : (client.start i).Accounted message_size := by
  have ready : client.RunAt (.start i) := place ▸ accounted.run
  unfold LoadTestClient.start
  split
  · rename_i bound
    have stands : (client.workers ⟨i, bound⟩).place = .ready := ready ⟨i, bound⟩ (Nat.le_refl i)
    have framed := accounted.framed ⟨i, bound⟩
    rw [LoadWorker.Framed, stands] at framed
    have keeps : (client.workers ⟨i, bound⟩).Keeps ((client.workers ⟨i, bound⟩).goTo .connect) :=
      keeps_goTo stands rfl rfl rfl rfl
    have counts : Counts message_size client.stats_ client.stats_ _ _ := counts_of_keeps keeps
    refine ⟨framed_setWorker accounted.framed framed,
      counter_update _ accounted.requests counts.requests,
      counter_update _ accounted.bytes counts.bytes,
      counter_update _ accounted.errors counts.errors, fun v later => ?_⟩
    have different : v ≠ ⟨i, bound⟩ := fun same => absurd later (same ▸ Nat.not_succ_le_self i)
    show ((client.setWorker _ _).workers v).place = .ready
    rw [workers_setWorker_other _ different]
    exact ready v (Nat.le_of_succ_le later)
  · exact ⟨accounted.framed, accounted.requests, accounted.bytes, accounted.errors, trivial⟩

theorem accounted_join {i : Nat} (accounted : client.Accounted message_size)
    (place : client.run = .join i) (step : client.join i = some after) :
    after.Accounted message_size := by
  have joined : client.RunAt (.join i) := place ▸ accounted.run
  unfold LoadTestClient.join at step
  split at step
  · rename_i bound
    split at step
    · rename_i returned
      cases step
      refine ⟨accounted.framed, accounted.requests, accounted.bytes, accounted.errors, ?_⟩
      intro w earlier
      rcases Nat.lt_succ_iff_lt_or_eq.mp earlier with before | same
      · exact joined w before
      · obtain rfl : w = ⟨i, bound⟩ := Fin.ext same
        exact returned
    · cases step
  · rename_i last
    cases step
    exact ⟨accounted.framed, accounted.requests, accounted.bytes, accounted.errors,
      fun w => joined w (w.isLt.trans_le (Nat.le_of_not_lt last))⟩

/-- A step of the thread that calls `run`. -/
theorem accounted_run (accounted : client.Accounted message_size)
    (step : client.moveRun = some after) : after.Accounted message_size := by
  have keeps {place : RunPlace Latency} (stands : client.RunAt place) :
      (client.goTo place).Accounted message_size :=
    ⟨accounted.framed, accounted.requests, accounted.bytes, accounted.errors, stands⟩
  unfold LoadTestClient.moveRun at step
  split at step <;> rename_i place
  · cases step
    exact accounted_start accounted place
  · cases step
    exact keeps trivial
  · cases step
    exact ⟨accounted.framed, accounted.requests, accounted.bytes, accounted.errors,
      fun w before => absurd before (Nat.not_lt_zero _)⟩
  · exact accounted_join accounted place step
  · cases step
    have returned : client.RunAt .merge := place ▸ accounted.run
    exact keeps ⟨returned, rfl⟩
  · cases step

theorem accounted_new :
    (LoadTestClient.new : LoadTestClient concurrency Latency).Accounted message_size where
  framed _ := ⟨rfl, rfl, rfl⟩
  requests := congrArg UInt64.ofNat (Ledger.sum_eq_zero _ fun _ => rfl).symm
  bytes := congrArg UInt64.ofNat (Ledger.sum_eq_zero _ fun _ => rfl).symm
  errors := congrArg UInt64.ofNat (Ledger.sum_eq_zero _ fun _ => rfl).symm
  run _ _ := rfl

theorem reachable_accounted
    (reachable : Reachable (LoadTestClient.system concurrency Latency message_size) client) :
    client.Accounted message_size := by
  refine reachable.invariant (LoadTestClient.Accounted message_size) (fun client initial => ?_)
    fun client event after _ accounted _ step => ?_
  · obtain rfl := initial
    exact accounted_new
  · cases event with
    | worker w input => exact accounted_worker accounted step
    | run => exact accounted_run accounted step

/-- Once every worker has returned, the requests that have been counted are the merged samples. -/
theorem sum_requests (returned : ∀ w, (client.workers w).place = .returned) :
    ∑ w, (client.workers w).requests = client.all_latencies.flatten.length := by
  have each (w : Fin concurrency) :
      (client.workers w).requests = (client.workers w).local_latencies.length := by
    rw [LoadWorker.requests, returned w]
    rfl
  rw [Finset.sum_congr rfl fun w _ => each w, Fin.sum_univ_def, List.length_flatten,
    LoadTestClient.all_latencies, List.map_map]
  rfl

/-- So are their bytes. -/
theorem sum_bytes (returned : ∀ w, (client.workers w).place = .returned) :
    ∑ w, (client.workers w).bytes message_size =
      2 * message_size * ∑ w, (client.workers w).requests := by
  rw [Finset.mul_sum]
  refine Finset.sum_congr rfl fun w _ => ?_
  rw [LoadWorker.bytes, LoadWorker.requests, returned w]
  rfl

end Step

/-- In every run: where a worker tests the stop flag, it has sent and received `message_size` bytes
for each request it has counted. When the report is printed, the counters agree with the merged
latencies. Every worker has counted at most one error, and `total_errors` is their sum. -/
theorem load_test_accounts {client : LoadTestClient concurrency Latency}
    (reachable : Reachable (LoadTestClient.system concurrency Latency message_size) client) :
    (∀ w, (client.workers w).place = .loop →
      (client.workers w).sent = message_size * (client.workers w).local_latencies.length ∧
      (client.workers w).received = message_size * (client.workers w).local_latencies.length) ∧
    (∀ all total_samples, client.run = .report all total_samples →
      client.stats_.total_requests = total_samples ∧
      total_samples = UInt64.ofNat all.length ∧
      client.stats_.total_bytes =
        2 * UInt64.ofNat message_size * client.stats_.total_requests) ∧
    client.stats_.total_errors = UInt64.ofNat (∑ w, (client.workers w).errors) ∧
    ∀ w, (client.workers w).errors ≤ 1 := by
  have accounted := reachable_accounted reachable
  refine ⟨fun w place => ?_, fun all total_samples report => ?_, accounted.errors, fun w => ?_⟩
  · have framed := accounted.framed w
    rw [LoadWorker.Framed, place] at framed
    exact ⟨framed.1, framed.2.1⟩
  · have run : client.RunAt (.report all total_samples) := report ▸ accounted.run
    obtain ⟨returned, merged⟩ := run
    rw [mergeLatencies_eq] at merged
    obtain ⟨rfl, rfl⟩ := Prod.mk.inj merged
    have requests := accounted.requests
    have bytes := accounted.bytes
    rw [sum_requests returned] at requests
    rw [sum_bytes returned, sum_requests returned, UInt64.ofNat_mul, UInt64.ofNat_mul] at bytes
    exact ⟨requests, rfl, requests ▸ bytes⟩
  · exact errors_le_one (accounted.framed w)

/-- The response of one worker comes in two parts, and the other one's connection is refused. -/
theorem load_test_accounts_merged : ∃ client : LoadTestClient 2 Nat,
    client.run = .report [7] 1 ∧ client.stats_ = ⟨1, 1, 6⟩ ∧
      client.stats_.total_bytes = 2 * UInt64.ofNat 3 * client.stats_.total_requests := by
  have run : ∃ client, Reachable (LoadTestClient.system 2 Nat 3) client ∧
      client.run = .report [7] 1 ∧ client.stats_ = ⟨1, 1, 6⟩ :=
    exists_of_replay rfl
      [.run, .run, .run, .worker 0 .connected, .worker 1 .fails, .worker 1 .none, .worker 0 .none,
        .worker 0 (.sent 3), .worker 0 .none, .worker 0 (.received [65, 65]),
        .worker 0 (.received [65]), .run, .worker 0 .none, .run, .worker 0 .none, .worker 0 .none,
        .worker 0 .none, .worker 0 (.elapsed 7), .worker 0 .none, .worker 0 .none, .run, .run,
        .run, .run] (by decide)
  obtain ⟨client, reachable, report, stats⟩ := run
  exact ⟨client, report, stats, ((load_test_accounts reachable).2.1 _ _ report).2.2⟩

end Accounting

end MultiReactor
