import Puppy.Process.Pool
import Puppy.Lock.Processes
import Puppy.Cli.Autodetect
import Puppy.Cli.Options

/-!
# The kernel around the lock file

The system calls that `puppy_open`, `puppy_done` and `main` of `puppy.c` make, and
what the kernel does about them.  Every process has a table of descriptors; a
lock of `flock` belongs to an open description, and conflicts with the locks of
all other descriptions of the same file.  The kernel may fail any call.
-/

namespace Puppy.Lock

open Process

universe u

/-- The messages printed to `stderr`.  Where the text ends in `strerror(errno)`
the error is left out. -/
inductive Notice where
  /-- "ERROR: Can not open lock file /tmp/puppy: %s\n" -/
  | canNotOpenLockFile
  /-- "ERROR: Can not obtain shared lock on /tmp/puppy: %s\n" -/
  | canNotObtainSharedLock
  /-- "ERROR: Can not open %s for read/write: %s\n" -/
  | canNotOpen (devPath : CString)
  /-- "ERROR: Can not get exclusive lock on %s\n" -/
  | canNotGetExclusiveLock (devPath : CString)
  /-- "Can not read device descriptor\n" -/
  | canNotReadDescriptor
  /-- "ERROR: Could not find a Topfield TF5000PVRt\n" -/
  | couldNotFind
  /-- "ERROR: Can not reset device: %s\n" -/
  | canNotReset
  /-- "ERROR: Can not claim interface 0: %s\n" -/
  | canNotClaim
  /-- "ERROR: Can not set interface zero: %s\n" -/
  | canNotSet
  /-- "Failed to initialize puppy\n" -/
  | failedToInitialize
  /-- `usage` of `puppy.c` -/
  | usage
  /-- The messages of `findToppy` -/
  | scan (error : Cli.ScanError)
  /-- The messages of `parseArgs` about operands -/
  | missing (operands : Tool.Missing)
  /-- "BUG: Command 0x%08x not implemented\n" -/
  | notImplemented (cmd : UInt32)
  deriving DecidableEq

/-- Any message but the one about a command that is not implemented. -/
def Notice.Known : Notice → Prop
  | .notImplemented _ => False
  | .canNotOpenLockFile | .canNotObtainSharedLock | .canNotOpen _ | .canNotGetExclusiveLock _
  | .canNotReadDescriptor | .couldNotFind | .canNotReset | .canNotClaim | .canNotSet
  | .failedToInitialize | .usage | .scan _ | .missing _ => True

/-- The `ioctl` requests besides the bulk transfers. -/
inductive Control where
  /-- `USBDEVFS_RESET` -/
  | reset
  /-- `USBDEVFS_CLAIMINTERFACE` with interface 0 -/
  | claimInterface
  /-- `USBDEVFS_SETINTERFACE` with interface 0 and alternate setting 0 -/
  | setInterface
  /-- `USBDEVFS_RELEASEINTERFACE` with interface 0 -/
  | releaseInterface
  deriving DecidableEq, Repr

/-- The system calls, and the library calls that read something from outside. -/
inductive SysCall where
  /-- `open(PUPPY_LOCKFILE, O_CREAT, S_IRUSR | S_IWUSR)` -/
  | openLockFile
  /-- `open(path, O_RDWR)` -/
  | openDevice (path : CString)
  /-- `flock`, with `LOCK_NB` -/
  | flock (fd : Int) (mode : LockMode)
  /-- `read(fd, desc, USB_DT_DEVICE_SIZE)` -/
  | read (fd : Int)
  | ioctl (fd : Int) (control : Control)
  /-- `ioctl` with `USBDEVFS_BULK`, in either direction -/
  | bulk (fd : Int) (bytes : List UInt8)
  | close (fd : Int)
  /-- `unlink(PUPPY_LOCKFILE)` -/
  | unlinkLockFile
  /-- `getenv("PUPPY")` -/
  | getenv
  /-- The contents of `/proc/bus/usb/devices` -/
  | devices
  | print (notice : Notice)
  /-- Any other call, about neither the lock file nor the device.  The
  descriptors such calls may open are not followed here. -/
  | other (request : List UInt8)

namespace SysCall

/-- The type of a call's results. -/
abbrev Answer : SysCall → Type
  | openLockFile | openDevice _ | flock _ _ | ioctl _ _ | close _ | unlinkLockFile => Int
  | read _ | bulk _ _ => Option (List UInt8)
  | getenv => Option CString
  | devices => Except Usb.Errno (List UInt8)
  | print _ => Unit
  | other _ => List UInt8

/-- The descriptor of a call that exchanges something with what it refers to. -/
def talksTo : SysCall → Option Int
  | read fd | ioctl fd _ | bulk fd _ => some fd
  | openLockFile | openDevice _ | flock _ _ | close _ | unlinkLockFile | getenv | devices
  | print _ | other _ => none

/-- Any call but the message about a command that is not implemented. -/
def Known : SysCall → Prop
  | print notice => notice.Known
  | openLockFile | openDevice _ | flock _ _ | read _ | ioctl _ _ | bulk _ _ | close _
  | unlinkLockFile | getenv | devices | other _ => True

/-- The descriptor a call is about. -/
def descriptor : SysCall → Option Int
  | flock fd _ | read fd | ioctl fd _ | bulk fd _ | close fd => some fd
  | openLockFile | openDevice _ | unlinkLockFile | getenv | devices | print _ | other _ => none

end SysCall

/-- Programs that make system calls. -/
abbrev Sys (α : Type) := Script SysCall SysCall.Answer α

/-- What a descriptor refers to. -/
inductive File where
  /-- A file that is or was `/tmp/puppy` -/
  | lockFile (inode : Nat)
  /-- Any other file, such as a device -/
  | node (number : Nat)
  deriving DecidableEq, Repr

/-- An open description. -/
structure Description where
  file : File
  lock : Option LockMode
  deriving DecidableEq, Repr

/-- Where the paths lead that a process may be given. -/
structure Paths where
  /-- The file a path leads to; `none` for those that lead to the lock file. -/
  node : CString → Option Nat
  /-- `getenv("PUPPY")` -/
  puppy : Option CString

/-- The name of the lock file, and the descriptors of all processes. -/
structure Kernel (ι : Type u) where
  /-- The inode `/tmp/puppy` stands for. -/
  name : Option Nat
  table : ι → Nat → Option Description

namespace Kernel

variable {ι : Type u} [DecidableEq ι]

omit [DecidableEq ι] in
/-- What a descriptor refers to; a negative one is never open. -/
def lookup (kernel : Kernel ι) (i : ι) : Int → Option Description
  | .ofNat fd => kernel.table i fd
  | .negSucc _ => none

/-- A process gets another entry in its table. -/
def set (kernel : Kernel ι) (i : ι) (fd : Nat) (entry : Option Description) : Kernel ι :=
  { kernel with
    table := Function.update kernel.table i (Function.update (kernel.table i) fd entry) }

omit [DecidableEq ι] in
/-- `flock` grants a lock when no other description of the file has a
conflicting one. -/
def Grants (kernel : Kernel ι) (i : ι) (fd : Nat) (file : File) (mode : LockMode) : Prop :=
  ∀ j k description, (j ≠ i ∨ k ≠ fd) → kernel.table j k = some description →
    description.file = file →
    description.lock = none ∨ mode = .shared ∧ description.lock = some .shared

/-- The calls of a process are answered. -/
inductive Serves (paths : ι → Paths) :
    Kernel ι → ι → (request : SysCall) → request.Answer → Kernel ι → Prop
  | openLockFileFails {kernel : Kernel ι} {i : ι} : Serves paths kernel i .openLockFile (-1) kernel
  | openNamed {kernel : Kernel ι} {i : ι} {fd inode : Nat} (named : kernel.name = some inode)
      (unused : kernel.table i fd = none) :
      Serves paths kernel i .openLockFile (fd : Int)
        (kernel.set i fd (some ⟨.lockFile inode, none⟩))
  | openCreates {kernel : Kernel ι} {i : ι} {fd inode : Nat} (absent : kernel.name = none)
      (fresh : ∀ j k description, kernel.table j k = some description →
        description.file ≠ .lockFile inode)
      (unused : kernel.table i fd = none) :
      Serves paths kernel i .openLockFile (fd : Int)
        { kernel.set i fd (some ⟨.lockFile inode, none⟩) with name := some inode }
  | openDeviceFails {kernel : Kernel ι} {i : ι} {path : CString} :
      Serves paths kernel i (.openDevice path) (-1) kernel
  | openDevice {kernel : Kernel ι} {i : ι} {path : CString} {fd number : Nat}
      (leads : (paths i).node path = some number) (unused : kernel.table i fd = none) :
      Serves paths kernel i (.openDevice path) (fd : Int)
        (kernel.set i fd (some ⟨.node number, none⟩))
  | openDeviceNamed {kernel : Kernel ι} {i : ι} {path : CString} {fd inode : Nat}
      (leads : (paths i).node path = none) (named : kernel.name = some inode)
      (unused : kernel.table i fd = none) :
      Serves paths kernel i (.openDevice path) (fd : Int)
        (kernel.set i fd (some ⟨.lockFile inode, none⟩))
  | flockFails {kernel : Kernel ι} {i : ι} {fd : Int} {mode : LockMode} :
      Serves paths kernel i (.flock fd mode) (-1) kernel
  | flock {kernel : Kernel ι} {i : ι} {fd : Nat} {mode : LockMode} {description : Description}
      (isOpen : kernel.table i fd = some description)
      (converted : description.lock = none ∨ description.lock = some mode)
      (granted : kernel.Grants i fd description.file mode) :
      Serves paths kernel i (.flock fd mode) 0
        (kernel.set i fd (some { description with lock := some mode }))
  | read {kernel : Kernel ι} {i : ι} {fd : Int} {answer : Option (List UInt8)}
      (closed : kernel.lookup i fd = none → answer = none) :
      Serves paths kernel i (.read fd) answer kernel
  | ioctl {kernel : Kernel ι} {i : ι} {fd : Int} {control : Control} {answer : Int}
      (closed : kernel.lookup i fd = none → answer = -1) :
      Serves paths kernel i (.ioctl fd control) answer kernel
  | bulk {kernel : Kernel ι} {i : ι} {fd : Int} {bytes : List UInt8}
      {answer : Option (List UInt8)} (closed : kernel.lookup i fd = none → answer = none) :
      Serves paths kernel i (.bulk fd bytes) answer kernel
  | closeClosed {kernel : Kernel ι} {i : ι} {fd : Int} (closed : kernel.lookup i fd = none) :
      Serves paths kernel i (.close fd) (-1) kernel
  /-- The descriptor is gone whatever `close` returns. -/
  | close {kernel : Kernel ι} {i : ι} {fd : Nat} {description : Description} {answer : Int}
      (isOpen : kernel.table i fd = some description) :
      Serves paths kernel i (.close fd) answer (kernel.set i fd none)
  | unlinkFails {kernel : Kernel ι} {i : ι} : Serves paths kernel i .unlinkLockFile (-1) kernel
  | unlink {kernel : Kernel ι} {i : ι} {inode : Nat} (named : kernel.name = some inode) :
      Serves paths kernel i .unlinkLockFile 0 { kernel with name := none }
  | getenv {kernel : Kernel ι} {i : ι} : Serves paths kernel i .getenv (paths i).puppy kernel
  | devices {kernel : Kernel ι} {i : ι} {answer : Except Usb.Errno (List UInt8)} :
      Serves paths kernel i .devices answer kernel
  | print {kernel : Kernel ι} {i : ι} {notice : Notice} :
      Serves paths kernel i (.print notice) () kernel
  | other {kernel : Kernel ι} {i : ι} {request answer : List UInt8} :
      Serves paths kernel i (.other request) answer kernel

/-- A lock of another mode is given up before the new one is tried. -/
inductive Prepares : Kernel ι → ι → SysCall → Kernel ι → Prop
  | flock {kernel : Kernel ι} {i : ι} {fd : Nat} {mode held : LockMode} {file : File}
      (isOpen : kernel.table i fd = some ⟨file, some held⟩) (differs : held ≠ mode) :
      Prepares kernel i (.flock fd mode) (kernel.set i fd (some ⟨file, none⟩))

/-- The process is gone, and its descriptors with it. -/
inductive Ends : Kernel ι → ι → Kernel ι → Prop
  | exit {kernel : Kernel ι} {i : ι} :
      Ends kernel i { kernel with table := Function.update kernel.table i fun _ => none }

/-- All a kernel does. -/
def spec (paths : ι → Paths) : KernelSpec (Kernel ι) ι SysCall SysCall.Answer where
  Serves := Serves paths
  Prepares := Prepares
  Ends := Ends

end Kernel

end Puppy.Lock
