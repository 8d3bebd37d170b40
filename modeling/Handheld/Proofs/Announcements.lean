import Handheld.Machine.Basic

/-!
# What events announce

Two kinds of events announce what comes next: the acceptance of an interrupt, and the
execution of an instruction.  All others tell of effects.  The announcements of a step, in
their order, say what it consists of, and nothing that an instruction does to the machine
adds to them.
-/

namespace Handheld.Event

/-- Whether an event announces an acceptance or an execution. -/
def announces : Event → Bool
  | accepting _ | executing _ => true
  | _ => false

/-- The announcements among events, in their order. -/
def announcements (events : List Event) : List Event :=
  events.filter announces

@[simp] theorem announcements_append (events later : List Event) :
    announcements (events ++ later) = announcements events ++ announcements later :=
  List.filter_append events later

theorem mem_announcements {event : Event} {events : List Event} :
    event ∈ announcements events ↔ event ∈ events ∧ event.announces = true :=
  List.mem_filter

/-- Whether an event announces an acceptance. -/
def isAcceptance : Event → Bool
  | accepting _ => true
  | _ => false

theorem countP_isAcceptance_announcements (events : List Event) :
    (announcements events).countP isAcceptance = events.countP isAcceptance := by
  rw [announcements, List.countP_filter]
  congr 1
  funext event
  cases event <;> rfl

/-- The interrupts whose acceptance the events announce, in their order. -/
def acceptances (events : List Event) : List Interrupt :=
  events.filterMap fun
    | accepting k => some k
    | _ => none

theorem acceptances_announcements (events : List Event) :
    acceptances (announcements events) = acceptances events := by
  rw [announcements, acceptances, List.filterMap_filter]
  congr 1
  funext event
  cases event <;> rfl

@[simp] theorem announcements_writeEvents (bus : Bus) (address : Word) (v : Byte) :
    announcements (bus.writeEvents address v) = [] := by
  unfold Bus.writeEvents
  split
  · rfl
  · split <;> rfl
  · rfl

@[simp] theorem announcements_writeAllEvents (bus : Bus) (writes : List (Word × Byte)) :
    announcements (bus.writeAllEvents writes) = [] := by
  induction writes generalizing bus with
  | nil => rfl
  | cons w writes ih =>
      rw [Bus.writeAllEvents, announcements_append, announcements_writeEvents, ih]
      rfl

@[simp] theorem announcements_tickEvents (bus : Bus) (ticks : Nat) :
    announcements (bus.tickEvents ticks) = [] := by
  unfold Bus.tickEvents
  split <;> rfl

end Handheld.Event
