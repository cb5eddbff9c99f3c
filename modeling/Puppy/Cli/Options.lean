import Puppy.Text.Getopt
import Puppy.Text.Stdio
import Puppy.Memory.CString
import Puppy.Wire.Packet
import Puppy.Transfer.Put

/-!
# The command line of puppy

The options and operands of `puppy.c`.  `parseArgs` keeps the command in two
variables, `cmd` and `sendDirection`, which options set one after the other; the
file shows that together they stand for the last command that was recognised,
and that `main` is left with an operation for every command line `parseArgs`
accepts.
-/

namespace Puppy.Tool

open Getopt Stdio
open Puppy.Wire Puppy.Transfer

/-- The bytes of a string up to the first NUL. -/
def upToNul (bytes : List UInt8) : CString where
  bytes := bytes.takeWhile fun byte => byte != 0
  noNul byte member := by
    have kept : (byte != 0) = true :=
      List.mem_takeWhile_imp (p := fun byte => byte != 0) member
    exact bne_iff_ne.mp kept

@[simp]
theorem upToNul_bytes (string : CString) : upToNul string.bytes = string := by
  rw [CString.eq_iff_bytes]
  refine List.takeWhile_eq_self_iff.mpr ?_
  intro byte member
  exact bne_iff_ne.mpr (string.noNul byte member)

/-! ## Options -/

/-- The global variables that the options of `parseArgs` set. -/
structure Options where
  ignoreCrc : Bool
  verbose : Nat
  packetTrace : Nat
  quiet : Bool
  devPath : Option CString
  cmd : UInt32
  sendDirection : UInt8
  xml : Bool

/-- The values they start with. -/
def Options.initial : Options where
  ignoreCrc := false
  verbose := 0
  packetTrace := 0
  quiet := false
  devPath := none
  cmd := 0
  sendDirection := GET
  xml := false

/-- "ipPqvd:c:x" -/
def optstring : Optstring UInt8 where
  dash := 0x2D
  takes char :=
    if char ∈ word "ipPqvx" then some false
    else if char ∈ word "dc" then some true
    else none

/-- `tolower` -/
def tolower (byte : UInt8) : UInt8 := if 65 ≤ byte ∧ byte ≤ 90 then byte + 32 else byte

/-- `!strcasecmp(first, second)` -/
def sameIgnoringCase (first second : List UInt8) : Bool :=
  first.map tolower = second.map tolower

/-- The option `-c` -/
def setCommand (optarg : List UInt8) (options : Options) : Options :=
  if sameIgnoringCase optarg (word "dir") then { options with cmd := CMD_HDD_DIR }
  else if sameIgnoringCase optarg (word "cancel") then { options with cmd := CANCEL }
  else if sameIgnoringCase optarg (word "size") then { options with cmd := CMD_HDD_SIZE }
  else if sameIgnoringCase optarg (word "reboot") then { options with cmd := CMD_RESET }
  else if sameIgnoringCase optarg (word "put") then
    { options with cmd := CMD_HDD_FILE_SEND, sendDirection := PUT }
  else if sameIgnoringCase optarg (word "get") then
    { options with cmd := CMD_HDD_FILE_SEND, sendDirection := GET }
  else if sameIgnoringCase optarg (word "delete") then { options with cmd := CMD_HDD_DEL }
  else if sameIgnoringCase optarg (word "rename") then { options with cmd := CMD_HDD_RENAME }
  else if sameIgnoringCase optarg (word "mkdir") then { options with cmd := CMD_HDD_CREATE_DIR }
  else if sameIgnoringCase optarg (word "turbo") then { options with cmd := CMD_TURBO }
  else options

/-- One result of `getopt`; `none` where `usage` is called. -/
def readOption (options : Options) : Opt UInt8 → Option Options
  | .plain char =>
      if char = 0x69 then some { options with ignoreCrc := true }
      else if char = 0x76 then some { options with verbose := options.verbose + 1 }
      else if char = 0x70 then some { options with packetTrace := 1 }
      else if char = 0x50 then some { options with packetTrace := 2 }
      else if char = 0x71 then some { options with quiet := true }
      else if char = 0x78 then some { options with xml := true }
      else none
  | .withArgument char optarg =>
      if char = 0x64 then some { options with devPath := some (upToNul optarg) }
      else if char = 0x63 then some (setCommand optarg options)
      else none
  | .unknown => none

/-- The loop over the options. -/
def readOptions (results : List (Opt UInt8)) (options : Options) : Option Options :=
  results.foldlM readOption options

/-! ## The command -/

/-- The commands behind `-c`. -/
inductive Verb where
  | dir
  | cancel
  | size
  | reboot
  | put
  | get
  | delete
  | rename
  | mkdir
  | turbo
  deriving DecidableEq, Repr

namespace Verb

/-- All of them, in the order in which `parseArgs` tries them. -/
def all : List Verb := [dir, cancel, size, reboot, put, get, delete, rename, mkdir, turbo]

def name : Verb → List UInt8
  | dir => word "dir"
  | cancel => word "cancel"
  | size => word "size"
  | reboot => word "reboot"
  | put => word "put"
  | get => word "get"
  | delete => word "delete"
  | rename => word "rename"
  | mkdir => word "mkdir"
  | turbo => word "turbo"

/-- The value of `cmd`. -/
def cmd : Verb → UInt32
  | dir => CMD_HDD_DIR
  | cancel => CANCEL
  | size => CMD_HDD_SIZE
  | reboot => CMD_RESET
  | put | get => CMD_HDD_FILE_SEND
  | delete => CMD_HDD_DEL
  | rename => CMD_HDD_RENAME
  | mkdir => CMD_HDD_CREATE_DIR
  | turbo => CMD_TURBO

/-- The command with a name. -/
def named (optarg : List UInt8) : Option Verb :=
  all.find? fun verb => sameIgnoringCase optarg verb.name

end Verb

/-- What `parseArgs` stores for a command. -/
def Verb.store (options : Options) : Verb → Options
  | put => { options with cmd := CMD_HDD_FILE_SEND, sendDirection := PUT }
  | get => { options with cmd := CMD_HDD_FILE_SEND, sendDirection := GET }
  | verb => { options with cmd := verb.cmd }

/-- One comparison of the option `-c`. -/
private theorem store_cons {optarg : List UInt8} (verb : Verb) {verbs : List Verb}
    {options chosen others : Options} (here : chosen = verb.store options)
    (rest : others = (verbs.find? fun verb => sameIgnoringCase optarg verb.name).elim options
      (Verb.store options)) :
    (if sameIgnoringCase optarg verb.name = true then chosen else others) =
      ((verb :: verbs).find? fun verb => sameIgnoringCase optarg verb.name).elim options
        (Verb.store options) := by
  rw [List.find?_cons]
  cases sameIgnoringCase optarg verb.name with
  | true => exact here
  | false => exact rest

theorem setCommand_eq (optarg : List UInt8) (options : Options) :
    setCommand optarg options = (Verb.named optarg).elim options (Verb.store options) := by
  unfold setCommand Verb.named Verb.all
  refine store_cons .dir rfl ?_
  refine store_cons .cancel rfl ?_
  refine store_cons .size rfl ?_
  refine store_cons .reboot rfl ?_
  refine store_cons .put rfl ?_
  refine store_cons .get rfl ?_
  refine store_cons .delete rfl ?_
  refine store_cons .rename rfl ?_
  refine store_cons .mkdir rfl ?_
  refine store_cons .turbo rfl ?_
  rfl

/-- The two variables stand for a command. -/
structure Stands (verb : Option Verb) (options : Options) : Prop where
  cmd : options.cmd = (verb.map Verb.cmd).getD 0
  put : verb = some .put → options.sendDirection = PUT
  get : verb = some .get → options.sendDirection = GET

theorem stands_store (verb : Verb) (options : Options) :
    Stands (some verb) (verb.store options) := by
  constructor
  · cases verb <;> rfl
  · rintro ⟨⟩
    rfl
  · rintro ⟨⟩
    rfl

/-- A command replaces the one before it, and anything else leaves it as it is. -/
theorem Stands.setCommand {verb : Option Verb} {options : Options}
    (stands : Stands verb options) (optarg : List UInt8) :
    Stands ((Verb.named optarg).or verb) (setCommand optarg options) := by
  rw [setCommand_eq]
  cases Verb.named optarg with
  | none => exact stands
  | some found => exact stands_store found options

/-- Options that are about something else. -/
theorem Stands.other {verb : Option Verb} {options after : Options} (stands : Stands verb options)
    (cmd : after.cmd = options.cmd) (sendDirection : after.sendDirection = options.sendDirection) :
    Stands verb after := by
  constructor
  · rw [cmd]
    exact stands.cmd
  · intro put
    rw [sendDirection]
    exact stands.put put
  · intro get
    rw [sendDirection]
    exact stands.get get

/-- The command behind one more option. -/
def Verb.next (before : Option Verb) : Opt UInt8 → Option Verb
  | .withArgument char optarg => if char = 0x63 then (named optarg).or before else before
  | .plain _ | .unknown => before

theorem Stands.readOption {verb : Option Verb} {options after : Options} {result : Opt UInt8}
    (stands : Stands verb options) (read : readOption options result = some after) :
    Stands (Verb.next verb result) after := by
  cases result with
  | plain char =>
      simp only [Tool.readOption] at read
      split_ifs at read
      all_goals
        cases read
        exact stands.other rfl rfl
  | withArgument char optarg =>
      simp only [Tool.readOption] at read
      rw [Verb.next]
      split_ifs at read with device command
      · cases read
        rw [device, if_neg (by decide)]
        exact stands.other rfl rfl
      · cases read
        rw [if_pos command]
        exact stands.setCommand optarg
  | unknown => cases read

/-- The last command among the options that has been recognised. -/
def Verb.last (results : List (Opt UInt8)) : Option Verb := results.foldl Verb.next none

/-- Behind the loop the variables stand for the last command. -/
theorem stands_readOptions {results : List (Opt UInt8)} {options : Options}
    (read : readOptions results .initial = some options) :
    Stands (Verb.last results) options := by
  have loop : ∀ (results : List (Opt UInt8)) (verb : Option Verb) (before after : Options),
      Stands verb before → results.foldlM readOption before = some after →
      Stands (results.foldl Verb.next verb) after := by
    intro results
    induction results with
    | nil =>
        rintro verb before after stands ⟨⟩
        exact stands
    | cons result results ih =>
        intro verb before after stands read
        rw [List.foldlM_cons, Option.bind_eq_bind, Option.bind_eq_some_iff] at read
        obtain ⟨middle, first, rest⟩ := read
        exact ih _ _ _ (stands.readOption first) rest
  apply loop results none .initial options _ read
  exact ⟨rfl, by rintro ⟨⟩, by rintro ⟨⟩⟩

/-- The device behind one more option. -/
def nextDevice (before : Option CString) : Opt UInt8 → Option CString
  | .withArgument char optarg => if char = 0x64 then some (upToNul optarg) else before
  | .plain _ | .unknown => before

/-- The last device among the options. -/
def lastDevice (results : List (Opt UInt8)) : Option CString := results.foldl nextDevice none

/-- Every option of the string has its branch. -/
theorem readOption_of_known {result : Opt UInt8} (known : result.Known optstring)
    (options : Options) :
    ∃ after, readOption options result = some after ∧
      after.devPath = nextDevice options.devPath result := by
  cases result with
  | plain char =>
      obtain ⟨_, takes⟩ := known
      have member : char ∈ word "ipPqvx" := by
        by_contra other
        simp only [optstring, if_neg other] at takes
        split at takes <;> cases takes
      have chars : word "ipPqvx" = [0x69, 0x70, 0x50, 0x71, 0x76, 0x78] := rfl
      rw [chars] at member
      simp only [List.mem_cons, List.not_mem_nil, or_false] at member
      rcases member with rfl | rfl | rfl | rfl | rfl | rfl
      all_goals exact ⟨_, rfl, rfl⟩
  | withArgument char optarg =>
      obtain ⟨_, takes⟩ := known
      have member : char ∈ word "dc" := by
        by_contra other
        simp only [optstring, if_neg other] at takes
        split at takes <;> cases takes
      have chars : word "dc" = [0x64, 0x63] := rfl
      rw [chars] at member
      simp only [List.mem_cons, List.not_mem_nil, or_false] at member
      rcases member with rfl | rfl
      · exact ⟨_, rfl, rfl⟩
      · refine ⟨_, rfl, ?_⟩
        rw [setCommand_eq]
        cases Verb.named optarg with
        | none => rfl
        | some verb => cases verb <;> rfl
  | unknown => exact known.elim

/-- Options that are all known are read to the end. -/
theorem readOptions_of_known {results : List (Opt UInt8)} :
    ∀ {options : Options}, (∀ result ∈ results, result.Known optstring) →
      ∃ after, readOptions results options = some after ∧
        after.devPath = results.foldl nextDevice options.devPath := by
  induction results with
  | nil =>
      intro options _
      exact ⟨options, rfl, rfl⟩
  | cons result results ih =>
      intro options known
      rw [List.forall_mem_cons] at known
      obtain ⟨middle, first, device⟩ := readOption_of_known known.1 options
      obtain ⟨after, rest, devices⟩ := @ih middle known.2
      refine ⟨after, ?_, ?_⟩
      · rw [readOptions, List.foldlM_cons, first]
        exact rest
      · rw [devices, device]
        rfl

/-! ## Operands -/

/-- The messages for operands that are missing. -/
inductive Missing where
  /-- "ERROR: Need both source and destination names.\n" -/
  | bothNames
  /-- "ERROR: Specify name of file or directory to delete.\n" -/
  | nameToDelete
  /-- "ERROR: Specify both source and destination paths for rename.\n" -/
  | pathsForRename
  /-- "ERROR: Specify name of directory to create.\n" -/
  | nameToCreate
  /-- "ERROR: Specify 0=OFF or 1=ON.\n" -/
  | onOrOff
  deriving DecidableEq, Repr

/-- `arg1` and `arg2`, which may be `NULL`. -/
structure Operands where
  arg1 : Option CString
  arg2 : Option CString

/-- "\\" -/
def rootPath : CString := CString.single 0x5C (by decide)

/-- The end of `parseArgs`: the operands each command needs. -/
def takeOperands (cmd : UInt32) (operands : List CString) : Except Missing Operands :=
  if cmd = CMD_HDD_DIR then
    match operands with
    | path :: _ => .ok { arg1 := some path, arg2 := none }
    | [] => .ok { arg1 := some rootPath, arg2 := none }
  else if cmd = CMD_HDD_FILE_SEND then
    match operands with
    | srcPath :: dstPath :: _ => .ok { arg1 := some srcPath, arg2 := some dstPath }
    | _ => .error .bothNames
  else if cmd = CMD_HDD_DEL then
    match operands with
    | path :: _ => .ok { arg1 := some path, arg2 := none }
    | [] => .error .nameToDelete
  else if cmd = CMD_HDD_RENAME then
    match operands with
    | srcPath :: dstPath :: _ => .ok { arg1 := some srcPath, arg2 := some dstPath }
    | _ => .error .pathsForRename
  else if cmd = CMD_HDD_CREATE_DIR then
    match operands with
    | path :: _ => .ok { arg1 := some path, arg2 := none }
    | [] => .error .nameToCreate
  else if cmd = CMD_TURBO then
    match operands with
    | state :: _ => .ok { arg1 := some state, arg2 := none }
    | [] => .error .onOrOff
  else .ok { arg1 := none, arg2 := none }

/-! ## The operation -/

/-- The functions `main` chooses from, with the pointers it passes. -/
inductive Operation where
  /-- `do_cancel` -/
  | cancel
  /-- `do_cmd_reset` -/
  | reset
  /-- `do_hdd_size` -/
  | size
  /-- `do_hdd_dir` -/
  | dir (path : Option CString)
  /-- `do_hdd_file_put` -/
  | filePut (srcPath dstPath : Option CString)
  /-- `do_hdd_file_get` -/
  | fileGet (srcPath dstPath : Option CString)
  /-- `do_hdd_del` -/
  | del (path : Option CString)
  /-- `do_hdd_rename` -/
  | rename (srcPath dstPath : Option CString)
  /-- `do_hdd_mkdir` -/
  | mkdir (path : Option CString)
  /-- `do_cmd_turbo` -/
  | turbo (state : Option CString)
  deriving DecidableEq

/-- The `switch` in `main`; `none` for the branch that reports a bug. -/
def chooseOperation (cmd : UInt32) (sendDirection : UInt8) (operands : Operands) :
    Option Operation :=
  if cmd = CANCEL then some .cancel
  else if cmd = CMD_RESET then some .reset
  else if cmd = CMD_HDD_SIZE then some .size
  else if cmd = CMD_HDD_DIR then some (.dir operands.arg1)
  else if cmd = CMD_HDD_FILE_SEND then
    if sendDirection = PUT then some (.filePut operands.arg1 operands.arg2)
    else some (.fileGet operands.arg1 operands.arg2)
  else if cmd = CMD_HDD_DEL then some (.del operands.arg1)
  else if cmd = CMD_HDD_RENAME then some (.rename operands.arg1 operands.arg2)
  else if cmd = CMD_HDD_CREATE_DIR then some (.mkdir operands.arg1)
  else if cmd = CMD_TURBO then some (.turbo operands.arg1)
  else none

/-- What a command is to do with its operands: `none` when some are missing. -/
def Verb.operation : Verb → List CString → Option Operation
  | .cancel, _ => some .cancel
  | .reboot, _ => some .reset
  | .size, _ => some .size
  | .dir, [] => some (.dir (some rootPath))
  | .dir, path :: _ => some (.dir (some path))
  | .put, srcPath :: dstPath :: _ => some (.filePut (some srcPath) (some dstPath))
  | .get, srcPath :: dstPath :: _ => some (.fileGet (some srcPath) (some dstPath))
  | .delete, path :: _ => some (.del (some path))
  | .rename, srcPath :: dstPath :: _ => some (.rename (some srcPath) (some dstPath))
  | .mkdir, path :: _ => some (.mkdir (some path))
  | .turbo, state :: _ => some (.turbo (some state))
  | _, _ => none

/-- Variables that stand for a command lead to the operation of that command, or
to a message when operands are missing. -/
theorem Stands.operation {verb : Verb} {options : Options} (stands : Stands (some verb) options)
    (operands : List CString) :
    (∃ taken operation, takeOperands options.cmd operands = .ok taken ∧
      verb.operation operands = some operation ∧
      chooseOperation options.cmd options.sendDirection taken = some operation) ∨
    ∃ missing, takeOperands options.cmd operands = .error missing ∧
      verb.operation operands = none := by
  rw [stands.cmd]
  cases verb with
  | put =>
      rw [stands.put rfl]
      rcases operands with _ | ⟨srcPath, _ | ⟨dstPath, rest⟩⟩
      · exact Or.inr ⟨_, rfl, rfl⟩
      · exact Or.inr ⟨_, rfl, rfl⟩
      · exact Or.inl ⟨_, _, rfl, rfl, rfl⟩
  | get =>
      rw [stands.get rfl]
      rcases operands with _ | ⟨srcPath, _ | ⟨dstPath, rest⟩⟩
      · exact Or.inr ⟨_, rfl, rfl⟩
      · exact Or.inr ⟨_, rfl, rfl⟩
      · exact Or.inl ⟨_, _, rfl, rfl, rfl⟩
  | rename =>
      rcases operands with _ | ⟨srcPath, _ | ⟨dstPath, rest⟩⟩
      · exact Or.inr ⟨_, rfl, rfl⟩
      · exact Or.inr ⟨_, rfl, rfl⟩
      · exact Or.inl ⟨_, _, rfl, rfl, rfl⟩
  | delete | mkdir | turbo =>
      cases operands with
      | nil => exact Or.inr ⟨_, rfl, rfl⟩
      | cons path rest => exact Or.inl ⟨_, _, rfl, rfl, rfl⟩
  | dir =>
      cases operands with
      | nil => exact Or.inl ⟨_, _, rfl, rfl, rfl⟩
      | cons path rest => exact Or.inl ⟨_, _, rfl, rfl, rfl⟩
  | cancel | size | reboot => exact Or.inl ⟨_, _, rfl, rfl, rfl⟩

end Puppy.Tool
