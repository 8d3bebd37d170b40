import Mathlib.Data.List.Count
import Mathlib.Data.List.Induction
import Handheld.Proofs.Bus.ReadBack

/-!
# What transfers send

A transfer is started by one write only, that of 0x81 to the serial control address, and it sends
the byte that stands in the cell before.  So the bytes that a sequence of operations sends can be
read off its writes: there is one for each place at which the starting write stands, and it is the
last byte that was written to the data cell before that place (`captured`).  The two halves of a
word are writes in their own right, the low one first, and ticks are none.
-/

namespace Handheld.Bus

/-! ## Operations -/

/-- What can be done to a bus. -/
inductive Operation where
  | write (address : Word) (v : Byte)
  | writeWord (address v : Word)
  | tick (ticks : Nat)

/-- The writes of bytes that an operation comes to. -/
def Operation.writes : Operation → List (Word × Byte)
  | write address v => [(address, v)]
  | writeWord address v => [(address, Word.low v), (address + 1, Word.high v)]
  | tick _ => []

def perform (bus : Bus) : Operation → Bus
  | .write address v => bus.write address v
  | .writeWord address v => bus.writeWord address v
  | .tick ticks => bus.tick ticks

/-- The bus after a sequence of operations, the first one first. -/
def performAll (bus : Bus) (ops : List Operation) : Bus :=
  ops.foldl perform bus

theorem performAll_cons (bus : Bus) (op : Operation) (ops : List Operation) :
    bus.performAll (op :: ops) = (bus.perform op).performAll ops := rfl

/-! ## What is to be sent -/

/-- The byte written last to the serial data address, or the first one if there is none. -/
def lastData (first : Byte) (writes : List (Word × Byte)) : Byte :=
  ((writes.filter fun w => w.1 = 0xFF01).map Prod.snd).getLastD first

/-- A byte for each place at which the writes start a transfer: the last one that was written to
the serial data address before that place. -/
def captured (first : Byte) (writes : List (Word × Byte)) : List Byte :=
  (writes.idxsOf (0xFF02, 0x81)).map fun i => lastData first (writes.take i)

section Writes

variable (first : Byte) (writes later : List (Word × Byte))

theorem lastData_append :
    lastData first (writes ++ later) = lastData (lastData first writes) later := by
  rw [lastData, List.filter_append, List.map_append, lastData, lastData]
  generalize (writes.filter _).map Prod.snd = before
  cases h : (later.filter _).map Prod.snd using List.reverseRecOn with
  | nil => rw [List.append_nil]; rfl
  | append_singleton after v _ => rw [← List.append_assoc, List.getLastD_concat, List.getLastD_concat]

/-- Between them, two sequences of writes send what the first sends, and then what the second sends
with the data that the first has left. -/
theorem captured_append :
    captured first (writes ++ later) =
      captured first writes ++ captured (lastData first writes) later := by
  have hbefore : ∀ i ∈ writes.idxsOf (0xFF02, 0x81),
      lastData first ((writes ++ later).take i) = lastData first (writes.take i) := by
    intro i hi
    have hlt := List.lt_add_of_mem_idxsOf i hi
    rw [List.take_append_of_le_length hlt.le]
  have hafter : ∀ i, lastData first ((writes ++ later).take (i + writes.length)) =
      lastData (lastData first writes) (later.take i) := by
    intro i
    rw [Nat.add_comm, List.take_length_add_append, lastData_append]
  have hshift : later.idxsOf (0xFF02, 0x81) writes.length =
      (later.idxsOf (0xFF02, 0x81)).map (· + writes.length) := List.idxsOf_start
  rw [captured, List.idxsOf_append, Nat.zero_add, List.map_append, List.map_congr_left hbefore,
    hshift, List.map_map]
  simp only [Function.comp_def, hafter]
  rfl

theorem length_captured :
    (captured first writes).length = writes.count (0xFF02, 0x81) := by
  rw [captured, List.length_map, List.length_idxsOf]

end Writes

/-! ## What is sent -/

variable (bus : Bus) (writes : List (Word × Byte)) (op : Operation) (ops : List Operation)

theorem serialData_write (address : Word) (v : Byte) :
    (bus.write address v).serialData = lastData bus.serialData [(address, v)] := by
  by_cases haddress : address = serialDataAddress
  · subst haddress
    exact read_write_self bus serialDataAddress v
  · have hskip : lastData bus.serialData [(address, v)] = bus.serialData := by
      have hother : ¬ address = 0xFF01 := haddress
      rw [lastData, List.filter_cons_of_neg (by simpa using hother)]
      rfl
    rw [hskip]
    exact read_memory_write_of_ne bus v (Ne.symm haddress)

theorem toList_sent_write (address : Word) (v : Byte) :
    (bus.write address v).sent.toList =
      bus.sent.toList ++ captured bus.serialData [(address, v)] := by
  rw [sent_write]
  by_cases hstart : address = serialControlAddress ∧ v = transferStart
  · obtain ⟨rfl, rfl⟩ := hstart
    rw [if_pos ⟨rfl, rfl⟩, Array.toList_push]
    rfl
  · have hnone : captured bus.serialData [(address, v)] = [] := by
      have hne : ((address, v) == (0xFF02, 0x81)) = false := by
        rw [beq_eq_false_iff_ne]
        exact fun h => hstart (Prod.mk.inj h)
      rw [captured, List.idxsOf_cons, hne]
      rfl
    rw [if_neg hstart, hnone, List.append_nil]

theorem serialData_writeAll :
    (bus.writeAll writes).serialData = lastData bus.serialData writes := by
  induction writes generalizing bus with
  | nil => rfl
  | cons w writes ih =>
      rw [← List.singleton_append, lastData_append, ← serialData_write, ← ih]
      rfl

theorem toList_sent_writeAll :
    (bus.writeAll writes).sent.toList = bus.sent.toList ++ captured bus.serialData writes := by
  induction writes generalizing bus with
  | nil => exact (List.append_nil _).symm
  | cons w writes ih =>
      rw [writeAll_cons, ih, toList_sent_write, serialData_write, List.append_assoc,
        ← captured_append, List.singleton_append]

/-! ## Operations in a sequence -/

/-- Time sends nothing and leaves the data as they are. -/
theorem perform_eq_writeAll :
    (bus.perform op).memory = (bus.writeAll op.writes).memory ∧
      (bus.perform op).sent = (bus.writeAll op.writes).sent := by
  cases op with
  | write address v | writeWord address v | tick ticks => exact ⟨rfl, rfl⟩

theorem serialData_perform :
    (bus.perform op).serialData = lastData bus.serialData op.writes := by
  rw [serialData, (perform_eq_writeAll bus op).1]
  exact serialData_writeAll bus op.writes

theorem toList_sent_perform :
    (bus.perform op).sent.toList = bus.sent.toList ++ captured bus.serialData op.writes := by
  rw [(perform_eq_writeAll bus op).2, toList_sent_writeAll]

/-- A sequence of operations sends what its writes call for.  The induction goes from the front,
as each operation leaves the data for those that follow it. -/
theorem toList_sent_performAll :
    (bus.performAll ops).sent.toList =
      bus.sent.toList ++ captured bus.serialData (ops.flatMap Operation.writes) := by
  induction ops generalizing bus with
  | nil => exact (List.append_nil _).symm
  | cons op ops ih =>
      rw [performAll_cons, ih, toList_sent_perform, serialData_perform, List.append_assoc,
        ← captured_append, List.flatMap_cons]

end Handheld.Bus
