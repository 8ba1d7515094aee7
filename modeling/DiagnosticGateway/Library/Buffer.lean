import Mathlib.Data.List.Basic

/-! Blocks written into an array of fixed size, and what a reader of its first
elements sees.
-/

set_option autoImplicit false

namespace Buffer

variable {α : Type} {size : Nat}

/-- Write the elements one after the other from `offset` on. -/
def writeBlock (buffer : Vector α size) (offset : Nat) : List α → Vector α size
  | [] => buffer
  | value :: rest => writeBlock (buffer.setIfInBounds offset value) (offset + 1) rest

def readPrefix (buffer : Vector α size) (count : Nat) : List α := buffer.toList.take count

@[simp] theorem readPrefix_zero (buffer : Vector α size) : readPrefix buffer 0 = [] := rfl

theorem readPrefix_length (buffer : Vector α size) {count : Nat} (fits : count ≤ size) :
    (readPrefix buffer count).length = count := by
  simp [readPrefix, fits]

theorem readPrefix_set (buffer : Vector α size) {offset : Nat} (value : α) (fits : offset < size) :
    readPrefix (buffer.setIfInBounds offset value) (offset + 1) = readPrefix buffer offset ++ [value] := by
  have long : offset < (buffer.toList.set offset value).length := by simp [fits]
  have same : (buffer.setIfInBounds offset value).toList = buffer.toList.set offset value := by simp
  rw [readPrefix, same, List.take_succ_eq_append_getElem long, List.getElem_set_self, List.take_set_of_le (Nat.le_refl _)]
  rfl

theorem readPrefix_writeBlock (buffer : Vector α size) (offset : Nat) (block : List α)
    (fits : offset + block.length ≤ size) :
    readPrefix (writeBlock buffer offset block) (offset + block.length) = readPrefix buffer offset ++ block := by
  induction block generalizing buffer offset with
  | nil => simp [writeBlock]
  | cons value rest ih =>
    simp only [List.length_cons] at fits
    have next := ih (buffer.setIfInBounds offset value) (offset + 1) (by omega)
    rw [readPrefix_set buffer value (by omega)] at next
    rw [writeBlock, List.length_cons, show offset + (rest.length + 1) = offset + 1 + rest.length by omega, next,
      List.append_assoc, List.singleton_append]

end Buffer
