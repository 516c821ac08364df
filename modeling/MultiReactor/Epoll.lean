/-
This file models `Channel` (Channel.h) and `Epoll::updateChannel`,
`Epoll::removeChannel` and `Epoll::update` (Epoll.cpp), next to the kernel's
side: the interest list of an epoll instance, keyed by fd, and what `epoll_ctl`
does to it. An operation the kernel refuses leaves the list as it is and is
only logged, so `update` has no result the callers could look at.
-/

import Mathlib.Logic.Function.Basic

namespace MultiReactor

/-! ### Channels -/

/-- The bits of an event mask the code sets or tests. -/
structure Events where
  epollin : Bool
  epollout : Bool
  epollerr : Bool
  epollhup : Bool
  deriving DecidableEq

/-- The mask 0. -/
def Events.none : Events :=
  { epollin := false, epollout := false, epollerr := false, epollhup := false }

/-- The data members of `Channel`. `index_` is -1 for a channel not added to epoll and 1 for one
that is. -/
structure Channel where
  fd_ : Nat
  index_ : Int
  events_ : Events
  revents_ : Events
  deriving DecidableEq

/-- `Channel::Channel`. -/
def Channel.new (fd : Nat) : Channel :=
  { fd_ := fd, index_ := -1, events_ := .none, revents_ := .none }

def Channel.enableReading (channel : Channel) : Channel :=
  { channel with events_ := { channel.events_ with epollin := true } }

def Channel.enableWriting (channel : Channel) : Channel :=
  { channel with events_ := { channel.events_ with epollout := true } }

def Channel.disableWriting (channel : Channel) : Channel :=
  { channel with events_ := { channel.events_ with epollout := false } }

def Channel.disableAll (channel : Channel) : Channel :=
  { channel with events_ := .none }

def Channel.isWriting (channel : Channel) : Bool :=
  channel.events_.epollout

def Channel.setRevents (channel : Channel) (revents : Events) : Channel :=
  { channel with revents_ := revents }

def Channel.setIndex (channel : Channel) (index : Int) : Channel :=
  { channel with index_ := index }

/-! ### The interest list -/

inductive CtlOp where
  | add
  | mod
  | del
  deriving DecidableEq

/-- An `epoll_ctl` call: the operation and `ev.events`. The fd and `ev.data.ptr` are the
channel's. -/
structure EpollCtl where
  op : CtlOp
  events : Events
  deriving DecidableEq

/-- The kernel's interest list: what each fd is registered for, and `ev.data.ptr`. -/
abbrev Interest (Pointer : Type) := Nat → Option (Events × Pointer)

/-- `epoll_ctl` succeeding: ADD of a registered fd fails with EEXIST, MOD and DEL of an
unregistered one with ENOENT. -/
def Interest.ctl {Pointer : Type} (interest : Interest Pointer) (fd : Nat) (pointer : Pointer)
    (call : EpollCtl) : Option (Interest Pointer) :=
  match call.op, interest fd with
  | .add, none => some (Function.update interest fd (some (call.events, pointer)))
  | .mod, some _ => some (Function.update interest fd (some (call.events, pointer)))
  | .del, some _ => some (Function.update interest fd none)
  | _, _ => none

/-- `Epoll::update`: the call is made if there is one to make, and a failure is only logged. -/
def Interest.update {Pointer : Type} (interest : Interest Pointer) (fd : Nat) (pointer : Pointer) :
    Option EpollCtl → Interest Pointer
  | none => interest
  | some call => (interest.ctl fd pointer call).getD interest

/-- Closing an fd takes it out of every interest list. -/
def Interest.close {Pointer : Type} (interest : Interest Pointer) (fd : Nat) : Interest Pointer :=
  Function.update interest fd none

/-- `Epoll::updateChannel`: the channel afterwards, and the `epoll_ctl` call it makes. -/
def Epoll.updateChannel (channel : Channel) : Channel × Option EpollCtl :=
  if channel.events_ = .none then
    if channel.index_ = 1 then
      (channel.setIndex (-1), some { op := .del, events := channel.events_ })
    else (channel, none)
  else if channel.index_ = -1 then
    (channel.setIndex 1, some { op := .add, events := channel.events_ })
  else (channel, some { op := .mod, events := channel.events_ })

/-- `Epoll::removeChannel`: the channel afterwards, and the `epoll_ctl` call it makes. -/
def Epoll.removeChannel (channel : Channel) : Channel × Option EpollCtl :=
  if channel.index_ = 1 then
    (channel.setIndex (-1), some { op := .del, events := channel.events_ })
  else (channel, none)

end MultiReactor
