/-
Sliding windows.

A window drops its oldest elements and takes in new ones, by whole moves: the
oldest are moved out where they are wanted, the rest slides to the front, and
the new elements are moved in behind.
-/

import TensorGraph.Kernel.Vector

namespace TensorGraph.Kernel

variable {m : Type → Type} [Kernel m]

def checkPacked (name : String) (vector : Vector) : m Unit :=
  if vector.increment ≠ 1 then
    fail (.invalidArgument (name ++ " must be contiguous, has increment " ++
      toString vector.increment))
  else
    pure ()

/-- Position of the first element, from the base of the value. -/
def firstPosition (vector : Vector) : m Nat :=
  ofExcept (do (← vector.value.layout).flatOffset [0])

/-- Drops the oldest elements of `buffer`, as many as `newest` has, moves them to
`dropped?` when given, and appends `newest`. -/
def shift (buffer newest : Vector) (dropped? : Option Vector) : m Unit := do
  let count := buffer.size
  let step := newest.size
  if step > count then
    abort ("shift_and_update: shift " ++ toString step ++ " exceeds buffer size " ++
      toString count)
  if newest.dtype ≠ buffer.dtype then
    fail (.dtypes buffer.dtype newest.dtype)
  checkPacked "buffer" buffer
  checkPacked "new data" newest
  let bufferStart ← firstPosition buffer
  let newestStart ← firstPosition newest
  if let some dropped := dropped? then
    if dropped.dtype ≠ buffer.dtype then
      fail (.dtypes buffer.dtype dropped.dtype)
    if dropped.size < step then
      fail (.sizeMismatch [step] [dropped.size])
    checkPacked "shifted-out buffer" dropped
    move dropped.value (← firstPosition dropped) buffer.value bufferStart step
  move buffer.value bufferStart buffer.value (bufferStart + step) (count - step)
  move buffer.value (bufferStart + count - step) newest.value newestStart step

end TensorGraph.Kernel
