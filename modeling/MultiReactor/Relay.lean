/-
This file is the library of relays. A relay reads from an endpoint chunk by
chunk and writes each chunk back in pieces before it reads again. Whether a
call that has failed ends it is its policy; a write that has failed loses what
is left of the chunk either way. All that is on record of an endpoint are the
calls made on it with their results, and a record is what some relay does if it
can be run step by step. What a relay has written then comes out of what it has
read, and it closes its endpoint at most once and last.
-/

import Mathlib.Data.List.Basic

namespace Relay

/-- A call on an endpoint, with its result. -/
inductive Call (Byte Error : Type) where
  /-- a read returns a chunk; the empty one is the end of the stream -/
  | read (chunk : List Byte)
  | readFails (error : Error)
  /-- a write accepts these bytes -/
  | write (accepted : List Byte)
  | writeFails (error : Error)
  /-- a call that moves no byte -/
  | control
  | close
  deriving DecidableEq

/-- Which errors end a relay. -/
structure Policy (Error : Type) where
  readEnds : Error → Bool
  writeEnds : Error → Bool

/-- Where a relay stands. -/
inductive Place (Byte : Type) where
  /-- it has got the endpoint and not decided to use it -/
  | fresh
  | reading
  /-- it writes, with something of the chunk left -/
  | writing (rest : List Byte)
  /-- nothing is left but to close -/
  | ending
  | closed

section Relay

variable {Byte Error : Type}

/-! ### Relays and their records -/

/-- Where a relay stands that has this much of a chunk left. -/
def Place.holding : List Byte → Place Byte
  | [] => .reading
  | byte :: rest => .writing (byte :: rest)

/-- What is left of the chunk. -/
def Place.rest : Place Byte → List Byte
  | .writing rest => rest
  | .fresh | .reading | .ending | .closed => []

/-- One call of a relay. -/
inductive Step (policy : Policy Error) : Place Byte → Call Byte Error → Place Byte → Prop where
  | begins : Step policy .fresh .control .reading
  | declines : Step policy .fresh .control .ending
  | refuses : Step policy .fresh .close .closed
  | reads (chunk : List Byte) (nonempty : chunk ≠ []) :
      Step policy .reading (.read chunk) (.writing chunk)
  | ends : Step policy .reading (.read []) .ending
  | readFails (error : Error) :
      Step policy .reading (.readFails error)
        (if policy.readEnds error then .ending else .reading)
  | writes (accepted rest : List Byte) :
      Step policy (.writing (accepted ++ rest)) (.write accepted) (.holding rest)
  | writeFails (rest : List Byte) (error : Error) :
      Step policy (.writing rest) (.writeFails error)
        (if policy.writeEnds error then .ending else .reading)
  | controls : Step policy .ending .control .ending
  | closes : Step policy .ending .close .closed

/-- A relay that began at one place has made these calls and is at another. -/
inductive Run (policy : Policy Error) (first : Place Byte) :
    List (Call Byte Error) → Place Byte → Prop where
  | start : Run policy first [] first
  | next {calls : List (Call Byte Error)} {call : Call Byte Error} {place after : Place Byte}
      (before : Run policy first calls place) (step : Step policy place call after) :
      Run policy first (calls ++ [call]) after

/-- What a call has read. -/
def Call.received : Call Byte Error → List Byte
  | .read chunk => chunk
  | .readFails _ | .write _ | .writeFails _ | .control | .close => []

/-- What a call has written. -/
def Call.accepted : Call Byte Error → List Byte
  | .write accepted => accepted
  | .read _ | .readFails _ | .writeFails _ | .control | .close => []

/-- What has been read, by the record. -/
def received (calls : List (Call Byte Error)) : List Byte :=
  calls.flatMap Call.received

/-- What has been written, by the record. -/
def accepted (calls : List (Call Byte Error)) : List Byte :=
  calls.flatMap Call.accepted

@[simp] theorem received_nil : received ([] : List (Call Byte Error)) = [] := rfl

@[simp] theorem accepted_nil : accepted ([] : List (Call Byte Error)) = [] := rfl

@[simp] theorem received_append (first second : List (Call Byte Error)) :
    received (first ++ second) = received first ++ received second :=
  List.flatMap_append

@[simp] theorem accepted_append (first second : List (Call Byte Error)) :
    accepted (first ++ second) = accepted first ++ accepted second :=
  List.flatMap_append

@[simp] theorem received_singleton (call : Call Byte Error) : received [call] = call.received :=
  List.flatMap_singleton ..

@[simp] theorem accepted_singleton (call : Call Byte Error) : accepted [call] = call.accepted :=
  List.flatMap_singleton ..

@[simp] theorem rest_holding (rest : List Byte) : (Place.holding rest).rest = rest := by
  cases rest <;> rfl

/-! ### What a relay has written -/

variable {policy : Policy Error} {first place after : Place Byte} {calls : List (Call Byte Error)}
  {call : Call Byte Error}

/-- A step that fails no write keeps every byte. -/
theorem Step.keeps (step : Step policy place call after)
    (succeeds : ∀ error, call ≠ .writeFails error) :
    call.accepted ++ after.rest = place.rest ++ call.received := by
  cases step with
  | writes accepted rest =>
    rw [rest_holding]
    exact (List.append_nil _).symm
  | readFails error => split <;> rfl
  | writeFails rest error => exact absurd rfl (succeeds error)
  | _ => rfl

/-- A step keeps the order of the bytes, whether or not it loses some. -/
theorem Step.orders (step : Step policy place call after) :
    (call.accepted ++ after.rest).Sublist (place.rest ++ call.received) := by
  by_cases fails : ∃ error, call = .writeFails error
  · obtain ⟨error, rfl⟩ := fails
    cases step with
    | writeFails rest =>
      split <;> exact List.nil_sublist _
  · rw [step.keeps fun error same => fails ⟨error, same⟩]

/-- What a relay has written, and what it has left to write, comes out of what it has read in the
same order. -/
theorem Run.ordered (run : Run policy first calls place) (quiet : first.rest = []) :
    (accepted calls ++ place.rest).Sublist (received calls) := by
  induction run with
  | start => rw [quiet]; exact List.Sublist.refl _
  | @next calls call place after _ step inductionHypothesis =>
    rw [accepted_append, received_append, accepted_singleton, received_singleton,
      List.append_assoc]
    calc (accepted calls ++ (call.accepted ++ after.rest)).Sublist
          (accepted calls ++ (place.rest ++ call.received)) := step.orders.append_left _
      _ = ((accepted calls ++ place.rest) ++ call.received) := (List.append_assoc ..).symm
      List.Sublist _ (received calls ++ call.received) := inductionHypothesis.append_right _

/-- As long as no write has failed, a relay has written what it has read, but for what it has left
to write. -/
theorem Run.faithful (run : Run policy first calls place) (quiet : first.rest = [])
    (succeeds : ∀ error, .writeFails error ∉ calls) :
    accepted calls ++ place.rest = received calls := by
  induction run with
  | start => rw [quiet]; rfl
  | @next calls call place after _ step inductionHypothesis =>
    have before : accepted calls ++ place.rest = received calls :=
      inductionHypothesis fun error failed => succeeds error (List.mem_append_left _ failed)
    have keeps := step.keeps fun error same =>
      succeeds error (List.mem_append_right _ (List.mem_singleton.mpr same.symm))
    rw [accepted_append, received_append, accepted_singleton, received_singleton,
      List.append_assoc, keeps, ← before, List.append_assoc]

/-! ### Closing -/

/-- A closed endpoint is not used. -/
theorem Step.not_closed (step : Step policy place call after) : place ≠ .closed := by
  rintro rfl
  cases step

/-- Closing leads to the closed place, and nothing else does. -/
theorem Step.close_iff (step : Step policy place call after) : call = .close ↔ after = .closed := by
  cases step with
  | readFails error => split <;> simp
  | writeFails rest error => split <;> simp
  | writes accepted rest => cases rest <;> simp [Place.holding]
  | _ => simp

/-- The endpoint has been closed where the relay is at its end, and no earlier. -/
theorem Run.close_mem_iff (run : Run policy first calls place) (isOpen : first ≠ .closed) :
    .close ∈ calls ↔ place = .closed := by
  induction run with
  | start => simp [isOpen]
  | next _ step inductionHypothesis =>
    rw [List.mem_append, inductionHypothesis, List.mem_singleton, eq_comm (a := Call.close),
      step.close_iff]
    exact ⟨Or.rec (fun closed => absurd closed step.not_closed) id, .inr⟩

/-- The endpoint is closed at most once, and no call is made on it after that. -/
theorem Run.close_last (run : Run policy first calls place) (isOpen : first ≠ .closed) :
    .close ∉ calls.dropLast := by
  cases run with
  | start => exact List.not_mem_nil
  | next before step =>
    rw [List.dropLast_concat, before.close_mem_iff isOpen]
    exact step.not_closed

/-- A write whose failure ends the relay is followed by the closing only. -/
theorem Run.failure_ends (run : Run policy first calls place) {error : Error}
    (ends : policy.writeEnds error = true) (failed : .writeFails error ∈ calls) :
    place = .ending ∨ place = .closed := by
  induction run with
  | start => cases failed
  | next _ step inductionHypothesis =>
    rcases List.mem_append.mp failed with before | now
    · rcases inductionHypothesis before with rfl | rfl
      · cases step with
        | controls => exact .inl rfl
        | closes => exact .inr rfl
      · exact absurd rfl step.not_closed
    · obtain rfl := List.mem_singleton.mp now
      cases step
      rw [if_pos ends]
      exact .inl rfl

end Relay

end Relay
