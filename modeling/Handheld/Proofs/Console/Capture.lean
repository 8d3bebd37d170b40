import Handheld.Proofs.Bus.Transfers
import Handheld.Proofs.Console.Regular
import Handheld.Proofs.Console.Sent

/-!
# The output is complete and in order

Whatever is done to a bus, its output afterwards is the output before and then one byte for each
transfer that was started, in their order, each of them the byte that had been written last to the
data cell.  A console does nothing else to its bus than write to it and let time pass, so what it
has sent before a call, before a request from outside and before any step of a run is the
beginning of what it has sent afterwards.
-/

namespace Handheld.Console

open Bus (Operation captured)

variable {c : Console}

/-! ## Calls and requests -/

theorem sendsOn_next (c : Console) : c.machine.bus.SendsOn c.next.machine.bus :=
  sendsOn_step c

/-- Every call sends on, since all its steps do. -/
theorem sendsOn_perform (c : Console) (call : Call) :
    c.machine.bus.SendsOn (c.perform call).machine.bus := by
  have hnext : ∀ c' : Console, c.machine.bus.SendsOn c'.machine.bus →
      c.machine.bus.SendsOn c'.next.machine.bus := by
    intro c' hsent
    exact hsent.trans (sendsOn_next c')
  exact perform_of_next hnext (.of_eq rfl) call

theorem sendsOn_respond (c : Console) (stimulus : Stimulus) :
    c.machine.bus.SendsOn (c.respond stimulus).machine.bus := by
  cases stimulus with
  | call call => exact sendsOn_perform c call
  | request k => exact .of_eq rfl

theorem sendsOn_respondAll (c : Console) (stimuli : List Stimulus) :
    c.machine.bus.SendsOn (c.respondAll stimuli).machine.bus := by
  induction stimuli generalizing c with
  | nil => exact .of_eq rfl
  | cons stimulus stimuli ih => exact (sendsOn_respond c stimulus).trans (ih _)

/-! ## The law -/

/-- A sequence of operations on a bus adds to its output one byte for each write of 0x81 to 0xFF02
and none for any other write: in their order, the bytes that were written last to 0xFF01 before
these writes, and where none was, what 0xFF01 read as at the start.  More steps of a console, and
more calls and requests, only append to what has been sent. -/
theorem transfers_are_captured_in_order (bus : Bus) (ops : List Operation) :
    (bus.performAll ops).sent.toList =
        bus.sent.toList ++ captured (bus.read 0xFF01) (ops.flatMap Operation.writes) ∧
      (bus.performAll ops).sent.size =
        bus.sent.size + (ops.flatMap Operation.writes).count (0xFF02, 0x81) ∧
      ∀ c : Console,
        (∀ k more, (steps k c).state.machine.bus.sent.toList <+:
          (steps (k + more) c).state.machine.bus.sent.toList) ∧
        ∀ stimuli more, (c.respondAll stimuli).machine.bus.sent.toList <+:
          (c.respondAll (stimuli ++ more)).machine.bus.sent.toList := by
  have hsent : (bus.performAll ops).sent.toList =
      bus.sent.toList ++ captured (bus.read 0xFF01) (ops.flatMap Operation.writes) :=
    bus.toList_sent_performAll ops
  refine ⟨hsent, ?_, fun c => ⟨?_, ?_⟩⟩
  · rw [← Array.length_toList, hsent, List.length_append, Bus.length_captured,
      Array.length_toList]
  · intro k more
    exact sendsOn_steps_of_le c (Nat.le_add_right k more)
  · intro stimuli more
    rw [respondAll, respondAll, List.foldl_append]
    exact sendsOn_respondAll _ more

/-- A word that covers both serial addresses sends its low byte, and the transfer that follows
sends it again. -/
example : captured 0x00 ([.writeWord 0xFF01 0x8141, .write 0xFF02 0x01, .tick 4,
    .write 0xFF02 0x81] |>.flatMap Operation.writes) = [0x41, 0x41] := by
  decide

end Handheld.Console
