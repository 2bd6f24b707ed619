import Mathlib.Logic.Relation
import Mathlib.Tactic.ByContra
import Mathlib.Tactic.SplitIfs
import Notebook.Run.Token

/-! # No cancellation is lost

A waiter takes its ticket before it looks at the flag. If it finds the flag clear and goes to sleep,
nobody has raised the flag yet, so the wake that follows the first raise comes after the ticket and
calls it. Of all cancellers one raises the flag first, and that one alone wakes.
-/

namespace Notebook.Run

/-! ## Tickets -/

namespace Notifier

variable {notifier : Notifier}

/-- A task has taken a ticket or has woken those who wait. -/
def Step (state later : notifier.State) : Prop :=
  later = (notifier.register state).1 ∨ later = notifier.wake state

/-- Tasks can bring a notifier from one state to another. -/
def Leads : notifier.State → notifier.State → Prop :=
  Relation.ReflTransGen Step

/-- The ticket has been taken. -/
def IsTaken (state : notifier.State) (ticket : notifier.Ticket) : Prop :=
  ∃ before, Leads notifier.new before ∧ Leads (notifier.register before).1 state ∧
    (notifier.register before).2 = ticket

/-- A wake has come after the ticket was taken. -/
def IsCalled (state : notifier.State) (ticket : notifier.Ticket) : Prop :=
  ∃ before, IsTaken before ticket ∧ Leads (notifier.wake before) state

/-- A ticket is woken by every wake that comes after it was taken. -/
def WakesCalled (notifier : Notifier) : Prop :=
  ∀ (state : notifier.State) (ticket : notifier.Ticket),
    IsCalled state ticket → notifier.isWoken state ticket = true

variable {state later : notifier.State} {ticket : notifier.Ticket}

theorem leads_register : Leads state (notifier.register state).1 :=
  .single (.inl rfl)

theorem leads_wake : Leads state (notifier.wake state) :=
  .single (.inr rfl)

theorem IsTaken.of_leads (taken : IsTaken state ticket) (leads : Leads state later) :
    IsTaken later ticket := by
  obtain ⟨before, begun, since, same⟩ := taken
  exact ⟨before, begun, since.trans leads, same⟩

theorem IsCalled.of_leads (called : IsCalled state ticket) (leads : Leads state later) :
    IsCalled later ticket := by
  obtain ⟨before, taken, since⟩ := called
  exact ⟨before, taken, since.trans leads⟩

theorem isTaken_register (begun : Leads notifier.new state) :
    IsTaken (notifier.register state).1 (notifier.register state).2 :=
  ⟨state, begun, .refl, rfl⟩

theorem IsTaken.isCalled_wake (taken : IsTaken state ticket) :
    IsCalled (notifier.wake state) ticket :=
  ⟨state, taken, .refl⟩

theorem le_of_leads_counting {wakes later : counting.State} (leads : Leads wakes later) :
    wakes ≤ later := by
  induction leads with
  | refl => exact Nat.le_refl wakes
  | tail _ step ih =>
    rcases step with rfl | rfl
    · exact ih
    · exact Nat.le_succ_of_le ih

/-- To count the wakes is enough to call every ticket. -/
theorem wakesCalled_counting : counting.WakesCalled := by
  rintro wakes ticket ⟨before, ⟨first, _, taken, rfl⟩, woken⟩
  have since := le_of_leads_counting taken
  have called := le_of_leads_counting woken
  exact decide_eq_true (Nat.lt_of_le_of_lt since called)

end Notifier

/-! ## One step of a task -/

section Steps

variable {notifier : Notifier} {shared after : Shared notifier}

/-- The ticket that a waiter holds. -/
def Waiter.ticket? : Waiter notifier → Option notifier.Ticket
  | .starting | .returned => none
  | .registered ticket | .asleep ticket => some ticket

/-- How many steps of its own a waiter is away from its end, once the flag is set. -/
def Waiter.stepsLeft : Waiter notifier → Nat
  | .returned => 0
  | .registered _ => 1
  | .starting => 2
  | .asleep _ => 3

/-- The canceller has set the flag first. -/
def Canceller.wasFirst : Canceller → Bool
  | .starting => false
  | .raised => true
  | .finished wasFirst => wasFirst

/-- A waiter takes a ticket, looks at the flag or is woken, and leaves the flag as it is. -/
theorem Waiter.step?_cases {waiter next : Waiter notifier}
    (moved : waiter.step? shared = some (after, next)) :
    (waiter = .starting ∧ after = { shared with calls := (notifier.register shared.calls).1 } ∧
      next = .registered (notifier.register shared.calls).2) ∨
    (∃ ticket, waiter = .registered ticket ∧ after = shared ∧
      next = if shared.token.isCancelled then .returned else .asleep ticket) ∨
    (∃ ticket, waiter = .asleep ticket ∧ after = shared ∧ next = .starting) := by
  cases waiter with
  | starting =>
    obtain ⟨rfl, rfl⟩ := Prod.mk.inj (Option.some.inj moved)
    exact .inl ⟨rfl, rfl, rfl⟩
  | registered ticket =>
    obtain ⟨rfl, rfl⟩ := Prod.mk.inj (Option.some.inj moved)
    exact .inr (.inl ⟨ticket, rfl, rfl, rfl⟩)
  | asleep ticket =>
    rw [Waiter.step?] at moved
    split_ifs at moved
    obtain ⟨rfl, rfl⟩ := Prod.mk.inj (Option.some.inj moved)
    exact .inr (.inr ⟨ticket, rfl, rfl, rfl⟩)
  | returned => cases moved

/-- A canceller sets the flag, and is first if it was clear; the first one goes on to wake. -/
theorem Canceller.step?_cases {canceller next : Canceller}
    (moved : canceller.step? shared = some (after, next)) :
    (canceller = .starting ∧ after = { shared with token := shared.token.cancel } ∧
      next = if shared.token.isCancelled then .finished false else .raised) ∨
    (canceller = .raised ∧ after = { shared with calls := notifier.wake shared.calls } ∧
      next = .finished true) := by
  cases canceller with
  | starting =>
    obtain ⟨rfl, rfl⟩ := Prod.mk.inj (Option.some.inj moved)
    refine .inl ⟨rfl, rfl, ?_⟩
    cases shared.token.isCancelled <;> rfl
  | raised =>
    obtain ⟨rfl, rfl⟩ := Prod.mk.inj (Option.some.inj moved)
    exact .inr ⟨rfl, rfl, rfl⟩
  | finished => cases moved

/-- Once the flag is set, each step of a waiter brings it closer to its end. -/
theorem Waiter.stepsLeft_lt {waiter next : Waiter notifier}
    (cancelled : shared.token.isCancelled = true)
    (moved : waiter.step? shared = some (after, next)) : next.stepsLeft < waiter.stepsLeft := by
  obtain ⟨rfl, _, rfl⟩ | ⟨ticket, rfl, _, rfl⟩ | ⟨ticket, rfl, _, rfl⟩ := Waiter.step?_cases moved
  · exact Nat.lt_succ_self 1
  · rw [if_pos cancelled]
    exact Nat.zero_lt_one
  · exact Nat.lt_succ_self 2

end Steps

/-! ## All tasks -/

namespace Sharing

open Notifier

variable {notifier : Notifier} {sharing : Sharing notifier}

/-- What holds however the steps of the tasks are interleaved. -/
structure Sound (sharing : Sharing notifier) : Prop where
  begun : Leads notifier.new sharing.shared.calls
  /-- The flag is set if and only if a canceller was first, and there is no second one. -/
  first : sharing.cancellers.countP Canceller.wasFirst = sharing.shared.token.isCancelled.toNat
  taken : ∀ waiter ∈ sharing.waiters, ∀ ticket ∈ waiter.ticket?,
    IsTaken sharing.shared.calls ticket
  called : .finished true ∈ sharing.cancellers →
    ∀ ticket, .asleep ticket ∈ sharing.waiters → IsCalled sharing.shared.calls ticket
  returned : .returned ∈ sharing.waiters → sharing.shared.token.isCancelled = true

theorem sound_start (waiters cancellers : Nat) :
    Sound (start waiters cancellers : Sharing notifier) where
  begun := .refl
  first := by simp [start, Token.new, Canceller.wasFirst, List.countP_replicate]
  taken waiter member ticket holds := by
    rw [List.eq_of_mem_replicate member] at holds
    cases holds
  called done := by
    cases List.eq_of_mem_replicate done
  returned member := by
    cases List.eq_of_mem_replicate member

namespace Sound

theorem isCancelled_of_mem (sound : sharing.Sound) {canceller : Canceller}
    (member : canceller ∈ sharing.cancellers) (first : canceller.wasFirst = true) :
    sharing.shared.token.isCancelled = true := by
  have positive := List.countP_pos_iff.mpr ⟨canceller, member, first⟩
  rw [sound.first] at positive
  exact Bool.toNat_eq_one.mp (Nat.le_antisymm (Bool.toNat_le _) positive)

theorem wait (sound : sharing.Sound) {index : Nat} {waiter next : Waiter notifier}
    {shared : Shared notifier} (present : sharing.waiters[index]? = some waiter)
    (moved : waiter.step? sharing.shared = some (shared, next)) :
    Sound { sharing with shared, waiters := sharing.waiters.set index next } := by
  have member := List.mem_of_getElem? present
  obtain ⟨flag, leads, holds, sleeps, returns⟩ : shared.token = sharing.shared.token ∧
      Leads sharing.shared.calls shared.calls ∧
      (∀ ticket ∈ next.ticket?, IsTaken shared.calls ticket) ∧
      (∀ ticket, next = .asleep ticket → sharing.shared.token.isCancelled = false) ∧
      (next = .returned → sharing.shared.token.isCancelled = true) := by
    obtain ⟨rfl, rfl, rfl⟩ | ⟨ticket, rfl, rfl, rfl⟩ | ⟨ticket, rfl, rfl, rfl⟩ :=
      Waiter.step?_cases moved
    · refine ⟨rfl, leads_register, fun ticket holds => ?_, nofun, nofun⟩
      obtain rfl := Option.some_inj.mp holds
      exact isTaken_register sound.begun
    · have held := sound.taken _ member
      cases sharing.shared.token.isCancelled with
      | true => exact ⟨rfl, .refl, nofun, nofun, fun _ => rfl⟩
      | false => exact ⟨rfl, .refl, held, fun _ _ => rfl, nofun⟩
    · exact ⟨rfl, .refl, nofun, nofun, nofun⟩
  exact {
    begun := sound.begun.trans leads
    first := flag ▸ sound.first
    taken := by
      intro other inside ticket held
      obtain before | rfl := List.mem_or_eq_of_mem_set inside
      · exact (sound.taken other before ticket held).of_leads leads
      · exact holds ticket held
    called := by
      intro done ticket inside
      obtain before | same := List.mem_or_eq_of_mem_set inside
      · exact (sound.called done ticket before).of_leads leads
      · -- Who falls asleep has found the flag clear, so that nobody can have woken yet.
        have set := sound.isCancelled_of_mem done rfl
        rw [sleeps ticket same.symm] at set
        cases set
    returned := by
      intro inside
      obtain before | same := List.mem_or_eq_of_mem_set inside
      · exact flag ▸ sound.returned before
      · exact flag ▸ returns same.symm }

theorem cancel (sound : sharing.Sound) {index : Nat} {canceller next : Canceller}
    {shared : Shared notifier} (present : sharing.cancellers[index]? = some canceller)
    (moved : canceller.step? sharing.shared = some (shared, next)) :
    Sound { sharing with shared, cancellers := sharing.cancellers.set index next } := by
  obtain ⟨inside, isCanceller⟩ := List.getElem?_eq_some_iff.mp present
  have counted := List.countP_set (p := Canceller.wasFirst) (a := next) inside
  rw [isCanceller, sound.first] at counted
  obtain ⟨rfl, rfl, same⟩ | ⟨rfl, rfl, rfl⟩ := Canceller.step?_cases moved
  · have unfinished : next ≠ .finished true := by
      rw [same]
      split_ifs <;> exact nofun
    exact {
      begun := sound.begun
      first := by
        rw [counted, same]
        cases sharing.shared.token.isCancelled <;> rfl
      taken := sound.taken
      called := fun done => sound.called
        ((List.mem_or_eq_of_mem_set done).resolve_right unfinished.symm)
      returned := fun _ => rfl }
  · have set := sound.isCancelled_of_mem (List.mem_of_getElem? present) rfl
    exact {
      begun := sound.begun.trans leads_wake
      first := by
        rw [counted, set]
        rfl
      taken := fun waiter member ticket held =>
        (sound.taken waiter member ticket held).of_leads leads_wake
      called := fun _ ticket sleeps => (sound.taken _ sleeps ticket rfl).isCalled_wake
      returned := sound.returned }

end Sound

theorem Reachable.sound (reached : sharing.Reachable) : sharing.Sound := by
  induction reached with
  | start waiters cancellers => exact sound_start waiters cancellers
  | step _ moved sound =>
    cases moved with
    | wait present moved => exact sound.wait present moved
    | cancel present moved => exact sound.cancel present moved

/-- However the steps of any number of waiters and cancellers are interleaved, those who wait are
woken once at most, and a waiter returns only if the flag is set. Once the canceller that set it
first is done, the ticket of every waiter that sleeps is called, and each waiter has returned or can
take a step that brings it closer to its end. -/
theorem cancellation_reaches_waiters (wakes : notifier.WakesCalled) (reached : sharing.Reachable) :
    sharing.cancellers.count (.finished true) ≤ 1 ∧
      (.returned ∈ sharing.waiters → sharing.shared.token.isCancelled = true) ∧
      (.finished true ∈ sharing.cancellers →
        (∀ ticket, .asleep ticket ∈ sharing.waiters →
          notifier.isWoken sharing.shared.calls ticket = true) ∧
        ∀ waiter ∈ sharing.waiters, waiter = .returned ∨
          ∃ shared next, waiter.step? sharing.shared = some (shared, next) ∧
            next.stepsLeft < waiter.stepsLeft) := by
  have sound := reached.sound
  refine ⟨?_, sound.returned, fun done => ⟨fun ticket sleeps => ?_, fun waiter member => ?_⟩⟩
  · calc sharing.cancellers.count (.finished true)
        ≤ sharing.cancellers.countP Canceller.wasFirst :=
          List.countP_mono_left fun canceller _ same => by rw [beq_iff_eq.mp same]; rfl
      _ = sharing.shared.token.isCancelled.toNat := sound.first
      _ ≤ 1 := Bool.toNat_le _
  · exact wakes _ ticket (sound.called done ticket sleeps)
  · have cancelled := sound.isCancelled_of_mem done rfl
    have moves {shared : Shared notifier} {next : Waiter notifier}
        (moved : waiter.step? sharing.shared = some (shared, next)) :
        ∃ shared next, waiter.step? sharing.shared = some (shared, next) ∧
          next.stepsLeft < waiter.stepsLeft :=
      ⟨shared, next, moved, Waiter.stepsLeft_lt cancelled moved⟩
    cases waiter with
    | starting => exact .inr (moves rfl)
    | registered ticket => exact .inr (moves rfl)
    | asleep ticket =>
      have woken := wakes _ ticket (sound.called done ticket member)
      exact .inr (moves (if_pos woken))
    | returned => exact .inl rfl

/-- The first of two waiters is asleep and the second has not yet looked at the flag when two
cancellers come. -/
theorem cancellation_reaches_waiters_asleep :
    let sharing : Sharing .counting :=
      ⟨⟨⟨true⟩, 1⟩, [.asleep 0, .returned], [.finished true, .finished false]⟩
    Notifier.counting.WakesCalled ∧ sharing.Reachable ∧
      sharing.cancellers.count (.finished true) ≤ 1 ∧ sharing.shared.token.isCancelled = true ∧
      Notifier.counting.isWoken sharing.shared.calls 0 = true ∧
      ∃ shared next, Waiter.step? sharing.shared (.asleep 0) = some (shared, next) ∧
        next.stepsLeft < (.asleep 0 : Waiter .counting).stepsLeft := by
  intro sharing
  have registered : Reachable (⟨⟨⟨false⟩, 0⟩, [.registered 0, .registered 0],
      [.starting, .starting]⟩ : Sharing .counting) :=
    .step (.step (.start 2 2) (@Step.wait _ _ 0 _ _ _ rfl rfl)) (@Step.wait _ _ 1 _ _ _ rfl rfl)
  have raised : Reachable (⟨⟨⟨true⟩, 0⟩, [.asleep 0, .registered 0],
      [.raised, .starting]⟩ : Sharing .counting) :=
    .step (.step registered (@Step.wait _ _ 0 _ _ _ rfl rfl)) (@Step.cancel _ _ 0 _ _ _ rfl rfl)
  have observed : Reachable (⟨⟨⟨true⟩, 0⟩, [.asleep 0, .returned],
      [.raised, .finished false]⟩ : Sharing .counting) :=
    .step (.step raised (@Step.cancel _ _ 1 _ _ _ rfl rfl)) (@Step.wait _ _ 1 _ _ _ rfl rfl)
  have reached : sharing.Reachable := .step observed (@Step.cancel _ _ 0 _ _ _ rfl rfl)
  obtain ⟨once, returned, woken⟩ :=
    cancellation_reaches_waiters Notifier.wakesCalled_counting reached
  obtain ⟨called, moves⟩ := woken (List.mem_cons_self ..)
  exact ⟨Notifier.wakesCalled_counting, reached, once, returned (by simp [sharing]),
    called 0 (List.mem_cons_self ..), (moves _ (List.mem_cons_self ..)).resolve_left nofun⟩

end Sharing

end Notebook.Run
