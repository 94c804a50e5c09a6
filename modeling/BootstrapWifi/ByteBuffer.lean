import Mathlib.Data.List.Basic
import Mathlib.Data.List.TakeDrop

namespace ByteBuffer

structure Buffer (n : ℕ) where
  bytes : List UInt8
  length_eq : bytes.length = n
deriving DecidableEq

namespace Buffer

variable {n : ℕ}

@[ext] theorem ext {b c : Buffer n} (h : b.bytes = c.bytes) : b = c := by
  cases b
  cases c
  simpa using h

@[simp] theorem length_bytes (b : Buffer n) : b.bytes.length = n := b.length_eq

def zero (n : ℕ) : Buffer n := ⟨List.replicate n 0, List.length_replicate⟩

/-- Copy `src` to offset `off`; the part that does not fit is not stored. -/
def writeAt (b : Buffer n) (off : ℕ) (src : List UInt8) : Buffer n :=
  ⟨(b.bytes.take off ++ src ++ b.bytes.drop (off + src.length)).take n, by
    simp only [List.length_take, List.length_append, List.length_drop, length_bytes]
    omega⟩

def write (b : Buffer n) (src : List UInt8) : Buffer n := b.writeAt 0 src

theorem writeAt_bytes (b : Buffer n) {off : ℕ} {src : List UInt8} (h : off + src.length ≤ n) :
    (b.writeAt off src).bytes = b.bytes.take off ++ src ++ b.bytes.drop (off + src.length) := by
  refine List.take_of_length_le ?_
  simp only [List.length_take, List.length_append, List.length_drop, length_bytes]
  omega

theorem write_bytes (b : Buffer n) {src : List UInt8} (h : src.length ≤ n) :
    (b.write src).bytes = src ++ b.bytes.drop src.length := by
  have h' : 0 + src.length ≤ n := by omega
  simpa [write] using b.writeAt_bytes h'

theorem write_full (b : Buffer n) {src : List UInt8} (h : src.length = n) :
    (b.write src).bytes = src := by
  rw [b.write_bytes (Nat.le_of_eq h), List.drop_of_length_le (by simp [h]), List.append_nil]

theorem take_write (b : Buffer n) {src : List UInt8} (h : src.length ≤ n) :
    (b.write src).bytes.take src.length = src := by
  rw [b.write_bytes h, List.take_left]

end Buffer

end ByteBuffer
