import Puppy.Listing.Dir

/-!
# Directory entries as the tools read them

The command line tools over the library look at the fields of a
`puppy_dir_entry_t` and at its name up to the NUL.
-/

namespace Puppy.Cli

open Puppy.Listing Puppy.Usb

/-- A `puppy_dir_entry_t` with its name read as a string. -/
structure Entry where
  ftype : UInt32
  time : Int
  size : Int
  name : CString

/-- `sizeof(((puppy_dir_entry_t *)0)->name)` -/
def NAME_SIZE : Nat := 95

/-- What a tool reads of an element of the array. -/
def Entry.ofDirEntry (entry : DirEntry) : Entry where
  ftype := entry.ftype
  time := entry.time
  size := entry.size
  name := CString.ofMemory entry.name 0 NAME_SIZE

end Puppy.Cli
