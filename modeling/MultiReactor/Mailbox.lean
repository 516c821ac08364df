/-
This file is a library about many senders and one owner of a mailbox. A message
is carried by its sender until it is posted at the back of the queue. The owner
takes messages from the front and delivers each before it takes the next; a
message of its own it does not post but takes at once, past everything queued.
Whatever the interleaving, every message is in exactly one place, and the
messages of one sender are delivered in the order in which it submitted them.
-/

import Mathlib.Logic.Function.Basic

namespace Mailbox

variable {Sender Message : Type} [DecidableEq Sender]

/-! ### The mailbox -/

/-- The messages submitted so far, each with its sender, and where they are. -/
@[ext] structure State (Sender Message : Type) where
  submitted : List (Sender × Message)
  carried : Sender → List Message
  queued : List Message
  /-- taken by the owner and not delivered yet -/
  held : List Message
  delivered : List Message

/-- A mailbox nothing has been submitted to. -/
def State.empty : State Sender Message :=
  { submitted := [], carried := fun _ => [], queued := [], held := [], delivered := [] }

/-- What can happen to the mailbox of an owner. -/
inductive Moves (owner : Sender) (mailbox : State Sender Message) :
    State Sender Message → Prop where
  | stay : Moves owner mailbox mailbox
  | submit (sender : Sender) (msg : Message) (free : mailbox.carried sender = []) :
      Moves owner mailbox { mailbox with
        submitted := mailbox.submitted ++ [(sender, msg)]
        carried := Function.update mailbox.carried sender [msg] }
  | post (sender : Sender) (msg : Message) (foreign : sender ≠ owner)
      (carries : mailbox.carried sender = [msg]) :
      Moves owner mailbox { mailbox with
        carried := Function.update mailbox.carried sender []
        queued := mailbox.queued ++ [msg] }
  | keep (msg : Message) (carries : mailbox.carried owner = [msg]) (free : mailbox.held = []) :
      Moves owner mailbox { mailbox with
        carried := Function.update mailbox.carried owner []
        held := [msg] }
  | take (msg : Message) (rest : List Message) (front : mailbox.queued = msg :: rest)
      (free : mailbox.held = []) :
      Moves owner mailbox { mailbox with queued := rest, held := [msg] }
  | deliver (msg : Message) (holds : mailbox.held = [msg]) :
      Moves owner mailbox { mailbox with held := [], delivered := mailbox.delivered ++ [msg] }

/-- A move to a mailbox with the same contents. -/
theorem Moves.trans_eq {owner : Sender} {mailbox after same : State Sender Message}
    (moves : Moves owner mailbox after) (equal : same = after) : Moves owner mailbox same :=
  equal ▸ moves

/-! ### Order -/

/-- The messages of one sender, in order. -/
def sentBy (sender : Sender) (messages : List (Sender × Message)) : List Message :=
  (messages.filter fun message => message.1 = sender).map Prod.snd

@[simp] theorem sentBy_nil (sender : Sender) :
    sentBy sender ([] : List (Sender × Message)) = [] := rfl

@[simp] theorem sentBy_append (sender : Sender) (front back : List (Sender × Message)) :
    sentBy sender (front ++ back) = sentBy sender front ++ sentBy sender back := by
  rw [sentBy, List.filter_append, List.map_append]
  rfl

@[simp] theorem sentBy_singleton_self (sender : Sender) (msg : Message) :
    sentBy sender [(sender, msg)] = [msg] := by
  simp [sentBy]

theorem sentBy_singleton_of_ne {sender other : Sender} (different : other ≠ sender)
    (msg : Message) : sentBy sender [(other, msg)] = [] := by
  simp [sentBy, different]

theorem sentBy_eq_nil {sender : Sender} {messages : List (Sender × Message)}
    (none : ∀ message ∈ messages, message.1 ≠ sender) : sentBy sender messages = [] := by
  rw [sentBy, List.map_eq_nil_iff, List.filter_eq_nil_iff]
  exact fun message member => by simpa using none message member

/-- Every message can be attributed to a sender so that, sender by sender, what has been delivered,
what the owner holds, what is queued and what the sender carries is what it submitted. -/
def Ordered (owner : Sender) (mailbox : State Sender Message) : Prop :=
  ∃ delivered held queued : List (Sender × Message),
    delivered.map Prod.snd = mailbox.delivered ∧ held.map Prod.snd = mailbox.held ∧
      queued.map Prod.snd = mailbox.queued ∧ (∀ message ∈ queued, message.1 ≠ owner) ∧
      ∀ sender, sentBy sender (delivered ++ held ++ queued) ++ mailbox.carried sender =
        sentBy sender mailbox.submitted

/-- Nothing is held of what has not been submitted. -/
theorem Ordered.unheld {owner : Sender} {mailbox : State Sender Message}
    (ordered : Ordered owner mailbox) (none : mailbox.submitted = []) : mailbox.held = [] := by
  obtain ⟨delivered, held, queued, -, isHeld, -, -, order⟩ := ordered
  rw [← isHeld, List.map_eq_nil_iff, List.eq_nil_iff_forall_not_mem]
  intro message member
  have nothing := order message.1
  rw [none, sentBy_nil, sentBy_append, sentBy_append] at nothing
  have sent : message.2 ∈ sentBy message.1 held :=
    List.mem_map_of_mem (List.mem_filter.mpr ⟨member, by simp⟩)
  simp only [List.append_eq_nil_iff] at nothing
  rw [nothing.1.1.2] at sent
  cases sent

theorem ordered_empty (owner : Sender) :
    Ordered owner (State.empty : State Sender Message) :=
  ⟨[], [], [], rfl, rfl, rfl, nofun, fun _ => rfl⟩

/-- No move changes the order of a sender's messages. -/
theorem Ordered.moves {owner : Sender} {mailbox after : State Sender Message}
    (ordered : Ordered owner mailbox) (moves : Moves owner mailbox after) :
    Ordered owner after := by
  obtain ⟨delivered, held, queued, isDelivered, isHeld, isQueued, foreign, order⟩ := ordered
  cases moves with
  | stay => exact ⟨delivered, held, queued, isDelivered, isHeld, isQueued, foreign, order⟩
  | submit sender msg free =>
    refine ⟨delivered, held, queued, isDelivered, isHeld, isQueued, foreign, fun other => ?_⟩
    show _ ++ Function.update mailbox.carried sender [msg] other = _
    rw [sentBy_append other mailbox.submitted, ← order other]
    by_cases same : other = sender
    · subst same
      rw [Function.update_self, free, List.append_nil, sentBy_singleton_self]
    · rw [Function.update_of_ne same, sentBy_singleton_of_ne (Ne.symm same), List.append_nil]
  | post sender msg away carries =>
    refine ⟨delivered, held, queued ++ [(sender, msg)], isDelivered, isHeld, ?_, ?_,
      fun other => ?_⟩
    · rw [List.map_append, isQueued]
      rfl
    · intro message member
      rcases List.mem_append.mp member with before | new
      · exact foreign message before
      · rw [List.mem_singleton.mp new]
        exact away
    · show _ ++ Function.update mailbox.carried sender [] other = _
      rw [← order other, ← List.append_assoc, sentBy_append]
      by_cases same : other = sender
      · subst same
        rw [Function.update_self, carries, List.append_nil, sentBy_singleton_self]
      · rw [Function.update_of_ne same, sentBy_singleton_of_ne (Ne.symm same), List.append_nil]
  | keep msg carries free =>
    obtain rfl := List.map_eq_nil_iff.mp (isHeld.trans free)
    refine ⟨delivered, [(owner, msg)], queued, isDelivered, rfl, isQueued, foreign,
      fun other => ?_⟩
    show _ ++ Function.update mailbox.carried owner [] other = _
    rw [← order other, List.append_nil, sentBy_append, sentBy_append, sentBy_append]
    by_cases same : other = owner
    · subst same
      rw [Function.update_self, carries, sentBy_eq_nil foreign, sentBy_singleton_self,
        List.append_nil, List.append_nil, List.append_nil]
    · rw [Function.update_of_ne same, sentBy_singleton_of_ne (Ne.symm same), List.append_nil]
  | take msg rest front free =>
    obtain rfl := List.map_eq_nil_iff.mp (isHeld.trans free)
    obtain ⟨message, others, rfl, rfl, isRest⟩ := List.map_eq_cons_iff.mp (isQueued.trans front)
    refine ⟨delivered, [message], others, isDelivered, rfl, isRest,
      fun each member => foreign each (List.mem_cons_of_mem _ member), fun other => ?_⟩
    rw [← order other, List.append_nil, List.append_assoc]
    rfl
  | deliver msg holds =>
    refine ⟨delivered ++ held, [], queued, ?_, rfl, isQueued, foreign, fun other => ?_⟩
    · rw [List.map_append, isDelivered, isHeld, holds]
    · rw [← order other, List.append_nil]

end Mailbox
