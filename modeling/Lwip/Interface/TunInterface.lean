import Lwip.Interface.NonBlockingInterface

/-! `TunInterface` of `interface/network_interface.hpp` and `interface/network_interface.cpp`. A
function is given what the system calls return, and gives the calls that it makes, in their order.
`system` runs other processes and is left out; of an `ioctl` the structure it is given is. -/

namespace Lwip

inductive IoctlRequest where
  | tunSetIff
  | siocSifAddr
  | siocSifNetmask
  | siocGifFlags
  | siocSifFlags

/-- A system call; `open` of the device and `socket` with the descriptor they return, negative when
they fail. -/
inductive Syscall where
  | openTun (fd : Int)
  | socket (fd : Int)
  | ioctl (fd : Int) (request : IoctlRequest)
  | read (fd : Int)
  | write (fd : Int) (data : Bytes)
  | close (fd : Int)

/-- What the system calls of `init` return. -/
structure InitAnswers where
  openTun : Int
  socket : Int
  ioctl : IoctlRequest → Int

structure TunInterface where
  fd : Int := -1

namespace TunInterface

/-- The result, the object and the system calls. -/
def init (_ : TunInterface) (answers : InitAnswers) : Bool × TunInterface × List Syscall :=
  let fd := answers.openTun
  let t : TunInterface := { fd }
  let calls : List Syscall := [.openTun fd]
  if fd < 0 then (false, t, calls) else
  let calls := calls ++ [.ioctl fd .tunSetIff]
  if answers.ioctl .tunSetIff < 0 then (false, t, calls ++ [.close fd]) else
  let sock := answers.socket
  let calls := calls ++ [.socket sock]
  if sock < 0 then (false, t, calls ++ [.close fd]) else
  let calls := calls ++ [.ioctl sock .siocSifAddr]
  if answers.ioctl .siocSifAddr < 0 then (false, t, calls ++ [.close sock, .close fd]) else
  let calls := calls ++ [.ioctl sock .siocSifNetmask]
  if answers.ioctl .siocSifNetmask < 0 then (false, t, calls ++ [.close sock, .close fd]) else
  let calls := calls ++ [.ioctl sock .siocGifFlags]
  if answers.ioctl .siocGifFlags < 0 then (false, t, calls ++ [.close sock, .close fd]) else
  let calls := calls ++ [.ioctl sock .siocSifFlags]
  if answers.ioctl .siocSifFlags < 0 then (false, t, calls ++ [.close sock, .close fd]) else
  (true, t, calls ++ [.close sock])

def shutdown (t : TunInterface) : TunInterface × List Syscall :=
  if t.fd ≥ 0 then ({ t with fd := -1 }, [.close t.fd]) else (t, [])

/-- `TunInterface::~TunInterface` -/
def destroy (t : TunInterface) : List Syscall :=
  if t.fd ≥ 0 then [.close t.fd] else []

/-- `written` is what `write` returns. -/
def sendFrame (t : TunInterface) (data : Bytes) (written : Int) : Bool × List Syscall :=
  if t.fd < 0 then (false, []) else (written == data.length, [.write t.fd data])

/-- The result, the argument as the call leaves it, the frames left in the device and the system
calls. -/
def receiveFrame (t : TunInterface) (data : Bytes) (frames : List Bytes) :
    Bool × Bytes × List Bytes × List Syscall :=
  if t.fd < 0 then (false, data, frames, []) else
  let (n, data, frames) := readFrame (resize data maxFrameSize) frames
  if n > 0 then (true, resize data n.toNat, frames, [.read t.fd])
  else (false, data, frames, [.read t.fd])

end TunInterface

end Lwip
