import Handheld.Word

/-!
# Memory

A cell for each of the 65536 addresses.
-/

namespace Handheld

structure Memory where
  cells : Vector Byte 0x10000
  deriving DecidableEq

namespace Memory

def zero : Memory :=
  ⟨Vector.replicate 0x10000 0⟩

def read (m : Memory) (address : Word) : Byte :=
  have : address.toNat < 0x10000 := address.toNat_lt
  m.cells[address.toNat]

def write (m : Memory) (address : Word) (v : Byte) : Memory :=
  ⟨m.cells.set address.toNat v address.toNat_lt⟩

/-- Writes bytes to consecutive cells.  Address 0 follows the last one. -/
def writeAll (m : Memory) (start : Word) : List Byte → Memory
  | [] => m
  | v :: rest => (m.write start v).writeAll (start + 1) rest

/-- Writes bytes to the cells from address 0 on, as far as there are cells. -/
def overlay (m : Memory) (bytes : Array Byte) : Memory :=
  ⟨Vector.ofFn fun i => bytes.getD i.val m.cells[i]⟩

theorem ext_read {m m' : Memory} (h : ∀ a, m.read a = m'.read a) : m = m' := by
  rcases m with ⟨cells⟩
  rcases m' with ⟨cells'⟩
  congr 1
  apply Vector.ext
  intro i hi
  have hmod : i % 65536 = i := Nat.mod_eq_of_lt hi
  have := h (UInt16.ofNat i)
  simpa only [read, UInt16.toNat_ofNat', Nat.reducePow, hmod] using this

@[simp] theorem read_write_self (m : Memory) (a : Word) (v : Byte) :
    (m.write a v).read a = v := by
  simp [read, write]

theorem read_write_of_ne (m : Memory) {a b : Word} (v : Byte) (h : b ≠ a) :
    (m.write a v).read b = m.read b := by
  have : a.toNat ≠ b.toNat := fun e => h (UInt16.toNat_inj.mp e.symm)
  simp [read, write, this]

theorem write_comm (m : Memory) {a b : Word} (v w : Byte) (h : a ≠ b) :
    (m.write a v).write b w = (m.write b w).write a v := by
  apply ext_read
  intro c
  by_cases ha : c = a
  · subst ha
    rw [read_write_of_ne _ _ h, read_write_self, read_write_self]
  · by_cases hb : c = b
    · subst hb
      rw [read_write_self, read_write_of_ne _ _ ha, read_write_self]
    · rw [read_write_of_ne _ _ hb, read_write_of_ne _ _ ha, read_write_of_ne _ _ ha,
        read_write_of_ne _ _ hb]

theorem read_overlay (m : Memory) (bytes : Array Byte) (a : Word) :
    (m.overlay bytes).read a = bytes.getD a.toNat (m.read a) := by
  simp [read, overlay]

end Memory

end Handheld
