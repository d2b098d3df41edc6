import Lwip.Std.Endian
import Lwip.Std.Loop

/-! `NonBlockingInterface::process_io` of `interface/non_blocking_interface.cpp`; the class of the
same name in `interface/network_interface.cpp` has the same function. The descriptor stands for a
device that holds frames, of which a `read` takes the next. -/

namespace Lwip

/-- `MAX_FRAME_SIZE` -/
def maxFrameSize : Nat := 1518

/-- `v.resize(n)` -/
def resize (v : Bytes) (n : Nat) : Bytes := v.take n ++ List.replicate (n - v.length) 0

/-- What `read` returns, what is in the buffer then, and the frames left. The frame is cut off where
the buffer ends. -/
def readFrame (buffer : Bytes) : List Bytes → Int × Bytes × List Bytes
  | [] => (-1, buffer, [])
  | frame :: frames =>
    let data := frame.take buffer.length
    (data.length, data ++ buffer.drop data.length, frames)

namespace NonBlockingInterface

/-- The variables of the loop, the frames in the device and the calls of `on_frame_received`,
oldest first. -/
structure Processing where
  buffer : Bytes
  frames : List Bytes
  received : List Bytes
  deriving DecidableEq, Repr

/-- One turn of `while ((n = read(..)) > 0)`. -/
def processTurn (s : Processing) : Turn Processing Processing :=
  let (n, buffer, frames) := readFrame s.buffer s.frames
  if n > 0 then
    let buffer := resize buffer n.toNat
    .again ⟨buffer, frames, s.received ++ [buffer]⟩
  else .done ⟨buffer, frames, s.received⟩

/-- `none` when `fuel` turns of the loop do not suffice. -/
def processIo (frames : List Bytes) (fuel : Nat) : Option Processing :=
  Loop.run processTurn fuel ⟨List.replicate maxFrameSize 0, frames, []⟩

end NonBlockingInterface

end Lwip
