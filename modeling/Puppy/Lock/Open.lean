import Puppy.Lock.Kernel

/-!
# Opening and closing the device

`puppy_open` and `puppy_done` of `libpuppy.c`, and the course that the programs
over the library take around them.
-/

namespace Puppy.Lock

open Process

/-- Make a system call. -/
def call (request : SysCall) : Sys request.Answer := Script.make request

/-! ## Descriptors -/

/-- `sizeof(struct usb_device_descriptor)` -/
def USB_DT_DEVICE_SIZE : Nat := 18

/-- `read_device_descriptor`: the descriptor, or `none` for -1. -/
def readDeviceDescriptor (fd : Int) : Sys (Option (List UInt8)) := do
  match ← call (.read fd) with
  | some desc =>
      if desc.length ≠ USB_DT_DEVICE_SIZE then do
        call (.print .canNotReadDescriptor)
        return none
      else return some desc
  | none => do
      call (.print .canNotReadDescriptor)
      return none

/-- `desc->idVendor` -/
def idVendor (desc : List UInt8) : Nat := (desc.getD 9 0).toNat * 2 ^ 8 + (desc.getD 8 0).toNat

/-- `desc->idProduct` -/
def idProduct (desc : List UInt8) : Nat := (desc.getD 11 0).toNat * 2 ^ 8 + (desc.getD 10 0).toNat

def isToppy (desc : List UInt8) : Prop := idVendor desc = 0x11db ∧ idProduct desc = 0x1000

instance (desc : List UInt8) : Decidable (isToppy desc) :=
  inferInstanceAs (Decidable (_ ∧ _))

/-! ## The library -/

def E_INVALID_ARGS : Int := 1
def E_READ_DEVICE : Int := 2
def E_NOT_TF5000PVR : Int := 3
def E_SET_INTERFACE : Int := 4
def E_CLAIM_INTERFACE : Int := 5
def E_DEVICE_LOCK : Int := 6
def E_LOCK_FILE : Int := 7
def E_GLOBAL_LOCK : Int := 8
def E_RESET_DEVICE : Int := 9

/-- `struct puppy` -/
structure Handle where
  lockFd : Int
  fd : Int
  error : Int
  deriving DecidableEq

/-- `puppy_ok` -/
def puppyOk (p : Handle) : Bool := p.error = 0

/-- The common end of the later failures in `puppy_open`. -/
def Handle.abandon (p : Handle) (error : Int) : Sys Handle := do
  let _ ← call (.close p.lockFd)
  let _ ← call (.close p.fd)
  return { lockFd := -1, fd := -1, error }

/-- "/dev/puppy" -/
def defaultDevice : CString where
  bytes := "/dev/puppy".toUTF8.toList
  noNul byte member := by
    have nonzero : ("/dev/puppy".toUTF8.toList.all fun byte => byte != 0) = true := by
      decide +kernel
    exact bne_iff_ne.mp (List.all_eq_true.mp nonzero byte member)

/-- `devPath` behind the two defaults of `puppy_open` -/
def chooseDevice (devPath : Option CString) : Sys CString :=
  match devPath with
  | some path => return path
  | none => do
      match ← call .getenv with
      | some path => return path
      | none => return defaultDevice

/-- `puppy_open` claims interface 0, and goes on when that fails. -/
def claimInterface (p : Handle) : Sys Handle := do
  let r ← call (.ioctl p.fd .claimInterface)
  if r < 0 then do
    call (.print .canNotClaim)
    p.abandon E_CLAIM_INTERFACE
  else return p

/-- The end of `puppy_open`. -/
def setInterface (p : Handle) : Sys Handle := do
  let r ← call (.ioctl p.fd .setInterface)
  if r < 0 then do
    call (.print .canNotSet)
    p.abandon E_SET_INTERFACE
  else return p

/-- `puppy_open` behind the exclusive lock on the device. -/
def setUpDevice (p : Handle) : Sys Handle := do
  match ← readDeviceDescriptor p.fd with
  | none => p.abandon E_READ_DEVICE
  | some desc =>
      if ¬ isToppy desc then do
        call (.print .couldNotFind)
        p.abandon E_NOT_TF5000PVR
      else do
        let r ← call (.ioctl p.fd .reset)
        if r < 0 then do
          call (.print .canNotReset)
          p.abandon E_RESET_DEVICE
        else do
          let p ← claimInterface p
          setInterface p

/-- `puppy_open`.  `devPath` is not `NULL` when `findToppy` would be asked. -/
def puppyOpen (devPath : Option CString) : Sys Handle := do
  let devPath ← chooseDevice devPath
  let lockFd ← call .openLockFile
  if lockFd < 0 then do
    call (.print .canNotOpenLockFile)
    return { lockFd, fd := -1, error := E_LOCK_FILE }
  else do
    let r ← call (.flock lockFd .shared)
    if r ≠ 0 then do
      call (.print .canNotObtainSharedLock)
      let _ ← call (.close lockFd)
      return { lockFd := -1, fd := -1, error := E_GLOBAL_LOCK }
    else do
      let fd ← call (.openDevice devPath)
      if fd < 0 then do
        let _ ← call (.close lockFd)
        call (.print (.canNotOpen devPath))
        return { lockFd := -1, fd, error := E_READ_DEVICE }
      else do
        let p : Handle := { lockFd, fd, error := 0 }
        let r ← call (.flock fd .exclusive)
        if r ≠ 0 then do
          let p ← p.abandon E_DEVICE_LOCK
          call (.print (.canNotGetExclusiveLock devPath))
          return p
        else setUpDevice p

/-- `puppy_done`; that the handle is freed is left out. -/
def puppyDone (p : Handle) : Sys Unit := do
  if p.fd > -1 then do
    let _ ← call (.ioctl p.fd .releaseInterface)
    let _ ← call (.close p.fd)
    let _ ← call .unlinkLockFile
    let _ ← call (.close p.lockFd)
    return ()
  else return ()

/-- The programs over the library: open the device, do some work with it if that
went well, and close it.  `work` returns the exit status. -/
def puppySession (devPath : Option CString) (work : Handle → Sys Int) : Sys Int := do
  let p ← puppyOpen devPath
  if puppyOk p then do
    let status ← work p
    puppyDone p
    return status
  else do
    call (.print .failedToInitialize)
    puppyDone p
    return 0

end Puppy.Lock
