/-! # Cancel tokens

A cancel token is shared by any number of tasks. A task that cancels sets the flag, and the one that
finds it clear wakes all who wait. A task that waits takes a ticket first and looks at the flag
afterwards, so a cancellation that comes between the two still wakes it.

How tickets are kept and called is up to a notifier. Each task is a small machine whose steps may be
interleaved in every way with those of the others.
-/

namespace Notebook.Run

/-- A token: whether it is cancelled. -/
structure Token where
  isCancelled : Bool
  deriving DecidableEq, Repr

namespace Token

/-- A token that is not cancelled. -/
def new : Token := ⟨false⟩

/-- Sets the flag; tells whether it was clear before. -/
def raise (token : Token) : Token × Bool :=
  (⟨true⟩, !token.isCancelled)

/-- Cancels a token for which nobody waits. -/
def cancel (token : Token) : Token :=
  token.raise.1

end Token

/-- What wakes tasks: a task takes a ticket before it waits, and goes on once the ticket has been
called. -/
structure Notifier where
  State : Type
  Ticket : Type
  /-- No ticket has been taken. -/
  new : State
  register : State → State × Ticket
  /-- Calls the tickets that have been taken. -/
  wake : State → State
  isWoken : State → Ticket → Bool

/-- A notifier that counts its wakes; a ticket holds the count at the time it was taken. -/
abbrev Notifier.counting : Notifier where
  State := Nat
  Ticket := Nat
  new := 0
  register wakes := (wakes, wakes)
  wake wakes := wakes + 1
  isWoken wakes ticket := decide (ticket < wakes)

/-- What the tasks of a token share. -/
structure Shared (notifier : Notifier) where
  token : Token
  calls : notifier.State

/-- A task that waits until a token is cancelled. -/
inductive Waiter (notifier : Notifier) where
  /-- About to take a ticket. -/
  | starting
  /-- Has a ticket, and is about to look at the flag. -/
  | registered (ticket : notifier.Ticket)
  /-- Has found the flag clear, and sleeps until the ticket is called. -/
  | asleep (ticket : notifier.Ticket)
  | returned

/-- A task that cancels a token. -/
inductive Canceller where
  | starting
  /-- Has set the flag first, and is about to wake those who wait. -/
  | raised
  /-- Is done, after it set the flag first and woke those who wait, or found the flag set. -/
  | finished (wasFirst : Bool)
  deriving DecidableEq, Repr

section Steps

variable {notifier : Notifier}

/-- The next step of a waiter, and what is shared after it. There is none for one that sleeps and
has not been woken, nor after the last. -/
def Waiter.step? (shared : Shared notifier) :
    Waiter notifier → Option (Shared notifier × Waiter notifier)
  | .starting =>
    let (calls, ticket) := notifier.register shared.calls
    some ({ shared with calls }, .registered ticket)
  | .registered ticket =>
    some (shared, if shared.token.isCancelled then .returned else .asleep ticket)
  | .asleep ticket =>
    if notifier.isWoken shared.calls ticket then some (shared, .starting) else none
  | .returned => none

/-- The next step of a canceller, and what is shared after it. -/
def Canceller.step? (shared : Shared notifier) :
    Canceller → Option (Shared notifier × Canceller)
  | .starting =>
    let (token, isFirst) := shared.token.raise
    some ({ shared with token }, if isFirst then .raised else .finished false)
  | .raised => some ({ shared with calls := notifier.wake shared.calls }, .finished true)
  | .finished _ => none

end Steps

/-- A token with the tasks that share it. -/
structure Sharing (notifier : Notifier) where
  shared : Shared notifier
  waiters : List (Waiter notifier)
  cancellers : List Canceller

namespace Sharing

variable {notifier : Notifier}

/-- Tasks that share a new token, before their first steps. -/
def start (waiters cancellers : Nat) : Sharing notifier :=
  ⟨⟨.new, notifier.new⟩, List.replicate waiters .starting, List.replicate cancellers .starting⟩

/-- One of the tasks takes a step. -/
inductive Step : Sharing notifier → Sharing notifier → Prop where
  | wait {sharing : Sharing notifier} {index : Nat} {waiter next : Waiter notifier}
      {shared : Shared notifier} (present : sharing.waiters[index]? = some waiter)
      (moved : waiter.step? sharing.shared = some (shared, next)) :
      Step sharing { sharing with shared, waiters := sharing.waiters.set index next }
  | cancel {sharing : Sharing notifier} {index : Nat} {canceller next : Canceller}
      {shared : Shared notifier} (present : sharing.cancellers[index]? = some canceller)
      (moved : canceller.step? sharing.shared = some (shared, next)) :
      Step sharing { sharing with shared, cancellers := sharing.cancellers.set index next }

/-- What any number of tasks can bring a new token to. -/
inductive Reachable : Sharing notifier → Prop where
  | start (waiters cancellers : Nat) : Reachable (start waiters cancellers)
  | step {before after : Sharing notifier} (reached : Reachable before)
      (moved : Step before after) : Reachable after

end Sharing

end Notebook.Run
