import Puppy.Text.Stdio
import Puppy.Usb.Bulk

/-!
# Finding the device

`findToppy` of `puppy.c` and of `libpuppy.c`.  The file with the USB devices is
read line by line: a topology line stores where a device is, and a product line
behind it tells whether it is a Topfield.  The variables the lines are scanned
into keep their values from line to line, and start out uninitialised.
-/

namespace Puppy.Cli

open Transition Stdio
open Puppy.Usb

/-- The messages of a `findToppy` that returns `NULL`. -/
inductive ScanError where
  /-- "ERROR: Can not scan for devices while another instance of puppy is
  running.\n" -/
  | anotherInstance
  /-- "ERROR: Can not perform autodetection.\nERROR: /proc/bus/usb/devices can
  not be open for reading.\nERROR: %s\n" -/
  | canNotOpenDevices (errno : Int)
  /-- "ERROR: Multiple Topfield devices recognised.\nERROR: Please use the -d
  option to specify a device.\n" -/
  | multipleDevices
  /-- "ERROR: Can not autodetect a Topfield TF5000PVRt\n" -/
  | canNotAutodetect
  deriving DecidableEq

def MAX_DEVICES_LINE_SIZE : Nat := 128

/-- "T: Bus=%d Lev=%*d Prnt=%*d Port=%*d Cnt=%*d Dev#=%d" -/
def topologyFormat : List Directive :=
  literals "T:" ++ .space :: literals "Bus=" ++ .integer .decimal true ::
  .space :: literals "Lev=" ++ .integer .decimal false ::
  .space :: literals "Prnt=" ++ .integer .decimal false ::
  .space :: literals "Port=" ++ .integer .decimal false ::
  .space :: literals "Cnt=" ++ .integer .decimal false ::
  .space :: literals "Dev#=" ++ [.integer .decimal true]

/-- "P: Vendor=%x ProdID=%x" -/
def productFormat : List Directive :=
  literals "P:" ++ .space :: literals "Vendor=" ++ .integer .hexadecimal true ::
  .space :: literals "ProdID=" ++ [.integer .hexadecimal true]

/-- The kernel's topology lines spell their format. -/
theorem spells_topologyFormat (bus lev prnt port cnt device : Numeral .decimal)
    (rest : List UInt8) (ends : Ends .decimal rest) :
    Spells topologyFormat
      (word "T:" ++ (word "  " ++ (word "Bus=" ++ (bus.text ++ (word " " ++ (word "Lev=" ++
        (lev.text ++ (word " " ++ (word "Prnt=" ++ (prnt.text ++ (word " " ++ (word "Port=" ++
        (port.text ++ (word " " ++ (word "Cnt=" ++ (cnt.text ++ (word " " ++ (word "Dev#=" ++
        (device.text ++ rest)))))))))))))))))))
      [(bus.value : Int), (device.value : Int)] := by
  have stops (text : List UInt8) : Ends .decimal (word " " ++ text) := by
    rintro byte ⟨⟩
    exact ⟨rfl, fun other => Radix.noConfusion other⟩
  apply Spells.literals "T:"
  apply Spells.key "  " "Bus=" rfl rfl
  apply bus.spells true (stops _)
  apply Spells.key " " "Lev=" rfl rfl
  apply lev.spells false (stops _)
  apply Spells.key " " "Prnt=" rfl rfl
  apply prnt.spells false (stops _)
  apply Spells.key " " "Port=" rfl rfl
  apply port.spells false (stops _)
  apply Spells.key " " "Cnt=" rfl rfl
  apply cnt.spells false (stops _)
  have last := Spells.key " " "Dev#=" rfl rfl (device.spells true ends (.done rest))
  exact last

/-- The kernel's product lines spell their format. -/
theorem spells_productFormat (vendor prodid : Numeral .hexadecimal) (rest : List UInt8)
    (ends : Ends .hexadecimal rest) :
    Spells productFormat
      (word "P:" ++ (word "  " ++ (word "Vendor=" ++ (vendor.text ++ (word " " ++
        (word "ProdID=" ++ (prodid.text ++ rest)))))))
      [(vendor.value : Int), (prodid.value : Int)] := by
  have stops (text : List UInt8) : Ends .hexadecimal (word " " ++ text) := by
    rintro byte ⟨⟩
    exact ⟨rfl, fun _ => by decide⟩
  apply Spells.literals "P:"
  apply Spells.key "  " "Vendor=" rfl rfl
  apply vendor.spells true (stops _)
  have last := Spells.key " " "ProdID=" rfl rfl (prodid.spells true ends (.done rest))
  exact last

/-- The variables of `findToppy`, and what is left of the file. -/
structure Finder where
  toppy : List UInt8
  bus : Int32
  device : Int32
  vendor : UInt32
  prodid : UInt32
  found : Bool
  pathBuffer : List UInt8

namespace Finder

/-- The values of a topology line that were scanned.  C leaves a number open that
does not fit its variable; here it wraps. -/
def storeTopology (values : List Int) (finder : Finder) : Finder :=
  match values with
  | [] => finder
  | [bus] => { finder with bus := .ofInt bus }
  | bus :: device :: _ => { finder with bus := .ofInt bus, device := .ofInt device }

/-- The values of a product line that were scanned. -/
def storeProduct (values : List Int) (finder : Finder) : Finder :=
  match values with
  | [] => finder
  | [vendor] => { finder with vendor := .ofInt vendor }
  | vendor :: prodid :: _ => { finder with vendor := .ofInt vendor, prodid := .ofInt prodid }

@[simp]
theorem toppy_storeTopology (values : List Int) (finder : Finder) :
    (finder.storeTopology values).toppy = finder.toppy := by
  rcases values with _ | ⟨bus, _ | ⟨device, rest⟩⟩ <;> rfl

@[simp]
theorem toppy_storeProduct (values : List Int) (finder : Finder) :
    (finder.storeProduct values).toppy = finder.toppy := by
  rcases values with _ | ⟨vendor, _ | ⟨prodid, rest⟩⟩ <;> rfl

/-- "/proc/bus/usb/%03d/%03d" -/
def devicePath (bus device : Int) : List UInt8 :=
  "/proc/bus/usb/".toUTF8.toList ++ zeroPadded 3 bus ++ [0x2F] ++ zeroPadded 3 device

/-- One pass of the loop in `findToppy`. -/
def body : Body Finder (Except ScanError (List UInt8)) := fun finder =>
  match fgets MAX_DEVICES_LINE_SIZE finder.toppy with
  | none =>
      .leave (if finder.found = true then .ok finder.pathBuffer else .error .canNotAutodetect)
  | some (buffer, toppy) =>
      let text := buffer.takeWhile (· ≠ 0)
      let topology := sscanf topologyFormat text
      let finder := { finder with toppy }.storeTopology topology.values
      if topology.ret ≠ 0 then .again finder
      else
        let product := sscanf productFormat text
        let finder := finder.storeProduct product.values
        if product.ret ≠ 0 ∧ finder.vendor = 0x11db ∧ finder.prodid = 0x1000 then
          if finder.found = true then .leave (.error .multipleDevices)
          else
            .again { finder with
              found := true
              pathBuffer := devicePath finder.bus.toInt finder.device.toInt }
        else .again finder

end Finder

/-- `findToppy` of `libpuppy.c`, with the contents of the devices file or the
`errno` of its `fopen`, and what its variables hold before.  Every pass reads
some of the file. -/
def scanDevices (devices : Except Errno (List UInt8)) (stack : Finder) :
    Pass Finder (Except ScanError (List UInt8)) :=
  match devices with
  | .error errno => .leave (.error (.canNotOpenDevices errno))
  | .ok file =>
      run Finder.body (file.length + 1) { stack with toppy := file, found := false }

/-- `findToppy` of `puppy.c`, with the outcome of its `flock`. -/
def findToppy (flock : Option Errno) (devices : Except Errno (List UInt8)) (stack : Finder) :
    Pass Finder (Except ScanError (List UInt8)) :=
  if flock.isSome = true then .leave (.error .anotherInstance) else scanDevices devices stack

/-! ## Devices files -/

/-- A line of a devices file that fits the buffer together with its newline. -/
structure DevicesLine where
  bytes : List UInt8
  noNewline : newline ∉ bytes
  noNul : 0 ∉ bytes
  short : bytes.length + 1 < MAX_DEVICES_LINE_SIZE

namespace DevicesLine

def text (line : DevicesLine) : List UInt8 := line.bytes ++ [newline]

/-- Neither a topology line nor a product line. -/
def Other (line : DevicesLine) : Prop :=
  ¬ [0x54, 0x3A] <+: line.bytes ∧ ¬ [0x50, 0x3A] <+: line.bytes

theorem fgets_text (line : DevicesLine) (rest : List UInt8) :
    fgets MAX_DEVICES_LINE_SIZE (line.text ++ rest) = some (line.text, rest) := by
  rw [text, List.append_assoc, List.singleton_append]
  exact fgets_line line.noNewline line.short rest

theorem takeWhile_text (line : DevicesLine) : line.text.takeWhile (· ≠ 0) = line.text := by
  rw [List.takeWhile_eq_self_iff]
  intro byte member
  rcases List.mem_append.mp member with inside | last
  · exact decide_eq_true fun zero => line.noNul (zero ▸ inside)
  · rw [List.mem_singleton.mp last]
    decide

/-- Neither format matches any part of another line. -/
theorem Other.sscanf {line : DevicesLine} (other : line.Other) :
    Stdio.sscanf topologyFormat line.text = .stop [] ∧
      Stdio.sscanf productFormat line.text = .stop [] :=
  ⟨sscanf_of_ne ⟨by decide, by decide⟩ other.1, sscanf_of_ne ⟨by decide, by decide⟩ other.2⟩

end DevicesLine

/-- The lines about one device: a topology line, a product line, and other lines
around the latter. -/
structure DeviceRecord where
  topology : DevicesLine
  bus : Nat
  device : Nat
  spellsTopology : Spells topologyFormat topology.text [(bus : Int), (device : Int)]
  busShort : bus < 1000
  deviceShort : device < 1000
  before : List DevicesLine
  product : DevicesLine
  vendor : UInt32
  prodid : UInt32
  spellsProduct : Spells productFormat product.text [(vendor.toNat : Int), (prodid.toNat : Int)]
  after : List DevicesLine
  others : ∀ line ∈ before ++ after, line.Other

/-- The lines the kernel prints about a Topfield. -/
example : ∃ record : DeviceRecord, record.bus = 3 ∧ record.device = 12 ∧
    record.vendor = 0x11db ∧ record.prodid = 0x1000 :=
  let number (radix : Radix) (blanks digits : List UInt8) (blank : blanks.all isSpace = true)
      (nonempty : digits ≠ []) (each : digits.all (isDigit radix) = true) : Numeral radix :=
    ⟨blanks, digits, List.all_eq_true.mp blank, nonempty, List.all_eq_true.mp each⟩
  let one := number .decimal [] (word "01") rfl (by decide) (by decide)
  ⟨{ topology :=
      ⟨word "T:  Bus=03 Lev=01 Prnt=01 Port=01 Cnt=01 Dev#= 12 Spd=480", by decide, by decide,
        by decide⟩
     bus := 3
     device := 12
     spellsTopology := spells_topologyFormat
       (number .decimal [] (word "03") rfl (by decide) (by decide)) one one one one
       (number .decimal (word " ") (word "12") (by decide) (by decide) (by decide))
       (word " Spd=480\n")
       (by rintro byte ⟨⟩; exact ⟨rfl, fun other => Radix.noConfusion other⟩)
     busShort := by decide
     deviceShort := by decide
     before := []
     product :=
      ⟨word "P:  Vendor=11db ProdID=1000 Rev= 1.00", by decide, by decide, by decide⟩
     vendor := 0x11db
     prodid := 0x1000
     spellsProduct := spells_productFormat
       (number .hexadecimal [] (word "11db") rfl (by decide) (by decide))
       (number .hexadecimal [] (word "1000") rfl (by decide) (by decide)) (word " Rev= 1.00\n")
       (by rintro byte ⟨⟩; exact ⟨rfl, fun _ => by decide⟩)
     after := []
     others := List.forall_mem_nil _ }, rfl, rfl, rfl, rfl⟩

namespace DeviceRecord

def text (record : DeviceRecord) : List UInt8 :=
  record.topology.text ++ (record.before.flatMap DevicesLine.text ++
    (record.product.text ++ record.after.flatMap DevicesLine.text))

/-- The record of a Topfield. -/
def isToppy (record : DeviceRecord) : Bool := record.vendor = 0x11db ∧ record.prodid = 0x1000

/-- The path of the device. -/
def path (record : DeviceRecord) : List UInt8 :=
  "/proc/bus/usb/".toUTF8.toList ++ threeDigits record.bus ++ [0x2F] ++ threeDigits record.device

end DeviceRecord

/-! ## One line -/

namespace Finder

/-- Another line changes nothing. -/
theorem body_other (finder : Finder) {line : DevicesLine} (other : line.Other)
    (rest : List UInt8) :
    body { finder with toppy := line.text ++ rest } = .again { finder with toppy := rest } := by
  simp only [body, line.fgets_text rest, line.takeWhile_text, other.sscanf]
  rfl

/-- A topology line says where the device is. -/
theorem body_topology (finder : Finder) (record : DeviceRecord) (rest : List UInt8) :
    body { finder with toppy := record.topology.text ++ rest } =
      .again { finder with
        toppy := rest
        bus := .ofInt record.bus
        device := .ofInt record.device } := by
  simp only [body, record.topology.fgets_text rest, record.topology.takeWhile_text,
    sscanf_of_spells record.spellsTopology]
  rfl

/-- A topology format does not match a product line. -/
theorem sscanf_topologyFormat_product (record : DeviceRecord) :
    sscanf topologyFormat record.product.text = .stop [] := by
  have spells := record.spellsProduct
  rw [productFormat] at spells
  generalize record.product.text = text at spells ⊢
  cases spells with
  | literal byte next =>
      have different : ¬ (0x50 : UInt8) = 0x54 := by decide
      change scanFrom (.literal 0x54 :: _) (0x50 :: _) [] = _
      rw [scanFrom, if_neg different]

/-- A product line tells what the device is. -/
theorem body_product (finder : Finder) (record : DeviceRecord) (rest : List UInt8) :
    body { finder with toppy := record.product.text ++ rest } =
      if record.isToppy = true then
        if finder.found = true then .leave (.error .multipleDevices)
        else
          .again { finder with
            toppy := rest
            vendor := record.vendor
            prodid := record.prodid
            found := true
            pathBuffer := devicePath finder.bus.toInt finder.device.toInt }
      else
        .again { finder with
          toppy := rest
          vendor := record.vendor
          prodid := record.prodid } := by
  have kept (val : UInt32) : UInt32.ofInt val.toNat = val := by
    have bound := UInt32.toNat_lt val
    apply UInt32.toNat_inj.mp
    rw [UInt32.ofInt, UInt32.toNat_ofNat']
    omega
  simp only [body, record.product.fgets_text rest, record.product.takeWhile_text,
    sscanf_topologyFormat_product, sscanf_of_spells record.spellsProduct, Scanned.values_stop,
    storeTopology, storeProduct, kept, DeviceRecord.isToppy]
  simp

/-! ## The whole file -/

/-- The path found so far. -/
def candidate (finder : Finder) : Option (List UInt8) :=
  if finder.found = true then some finder.pathBuffer else none

theorem leaves_others {lines : List DevicesLine} (others : ∀ line ∈ lines, line.Other)
    (finder : Finder) {rest : List UInt8} {result : Except ScanError (List UInt8)}
    (leaves : Leaves body { finder with toppy := rest } result) :
    Leaves body { finder with toppy := lines.flatMap DevicesLine.text ++ rest } result := by
  induction lines with
  | nil => exact leaves
  | cons line lines ih =>
      rw [List.forall_mem_cons] at others
      rw [List.flatMap_cons, List.append_assoc]
      exact leaves_of_again (finder.body_other others.1 _) (ih others.2)

/-- The path that is printed for a record. -/
theorem devicePath_record (record : DeviceRecord) :
    devicePath (Int32.ofInt record.bus).toInt (Int32.ofInt record.device).toInt = record.path := by
  have kept {n : Nat} (small : n < 1000) : (Int32.ofInt n).toInt = n :=
    Int32.toInt_ofInt_of_le (by omega) (by omega)
  rw [devicePath, kept record.busShort, kept record.deviceShort,
    zeroPadded_three record.busShort, zeroPadded_three record.deviceShort, DeviceRecord.path]

end Finder

/-- What comes of the records that are left, with the path found so far. -/
def outcome : Option (List UInt8) → List DeviceRecord → Except ScanError (List UInt8)
  | some path, [] => .ok path
  | none, [] => .error .canNotAutodetect
  | found, record :: records =>
      if record.isToppy = true then
        match found with
        | some _ => .error .multipleDevices
        | none => outcome (some record.path) records
      else outcome found records

theorem outcome_of_other (found : Option (List UInt8)) {record : DeviceRecord}
    (other : record.isToppy = false) (records : List DeviceRecord) :
    outcome found (record :: records) = outcome found records := by
  cases found <;> simp [outcome, other]

theorem outcome_of_toppy (found : Option (List UInt8)) {record : DeviceRecord}
    (toppy : record.isToppy = true) (records : List DeviceRecord) :
    outcome found (record :: records) =
      match found with
      | some _ => .error .multipleDevices
      | none => outcome (some record.path) records := by
  cases found <;> simp [outcome, toppy]

namespace Finder

/-- The loop gets through the records, pairing each product line with the
topology line of its own record. -/
theorem leaves_records (records : List DeviceRecord) :
    ∀ finder : Finder,
      Leaves body { finder with toppy := records.flatMap DeviceRecord.text }
        (outcome finder.candidate records) := by
  induction records with
  | nil =>
      intro finder
      apply leaves_of_leave
      cases found : finder.found <;> simp [body, fgets, candidate, outcome, found]
  | cons record records ih =>
      intro finder
      rw [List.flatMap_cons, DeviceRecord.text, List.append_assoc, List.append_assoc,
        List.append_assoc]
      have others := List.forall_mem_append.mp record.others
      apply leaves_of_again (finder.body_topology record _)
      let placed : Finder :=
        { finder with bus := .ofInt record.bus, device := .ofInt record.device }
      let told : Finder := { placed with vendor := record.vendor, prodid := record.prodid }
      have behind (next : Finder) := leaves_others others.2 next (ih next)
      have pass := body_product placed record
        (record.after.flatMap DevicesLine.text ++ records.flatMap DeviceRecord.text)
      simp only [placed, devicePath_record] at pass
      apply leaves_others others.1 placed
      cases toppy : record.isToppy with
      | false =>
          rw [if_neg (by rw [toppy]; decide)] at pass
          rw [outcome_of_other _ toppy]
          exact leaves_of_again pass (behind told)
      | true =>
          rw [if_pos toppy] at pass
          rw [outcome_of_toppy _ toppy]
          by_cases found : finder.found = true
          · rw [if_pos found] at pass
            rw [candidate, if_pos found]
            exact leaves_of_leave pass
          · rw [if_neg found] at pass
            rw [candidate, if_neg found]
            exact leaves_of_again pass
              (behind { told with found := true, pathBuffer := record.path })

/-- Every pass that goes round again has read something. -/
theorem body_shorter {finder next : Finder} (pass : body finder = .again next) :
    next.toppy.length < finder.toppy.length := by
  simp only [body] at pass
  split at pass
  · cases pass
  · rename_i buffer toppy read
    have shorter := fgets_shorter (by decide) read
    have kept : next.toppy = toppy := by
      split at pass
      · cases pass
        simp
      · split at pass
        · split at pass
          · cases pass
          · cases pass
            simp
        · cases pass
          simp
    rw [kept]
    exact shorter

/-- The passes of `scanDevices` are never used up. -/
theorem run_body_of_leaves {finder : Finder} {result : Except ScanError (List UInt8)}
    (leaves : Leaves body finder result) :
    run body (finder.toppy.length + 1) finder = .leave result := by
  have initial : (fun _ : Finder => True) finder := trivial
  obtain ⟨n, other, bound, exit, -⟩ := run_leaves_of_measure body (fun _ => True)
    (fun _ => True) (fun finder => finder.toppy.length)
    (fun state _ => by
      cases pass : body state with
      | again next => exact Or.inr ⟨next, rfl, trivial, body_shorter pass⟩
      | leave other => exact Or.inl ⟨other, rfl, trivial⟩)
    initial
  have full := run_add_of_leave exit (finder.toppy.length + 1 - n)
  rw [Nat.add_sub_cancel' bound] at full
  rw [full, leaves.unique ⟨n, exit⟩]

end Finder

/-! ## The path that is returned -/

/-- A path comes out when it is the only one: that found so far and those of the
records that are left. -/
theorem outcome_eq_ok_iff {path : List UInt8} {records : List DeviceRecord} :
    ∀ {found : Option (List UInt8)}, outcome found records = .ok path ↔
      found.toList ++ (records.filter DeviceRecord.isToppy).map DeviceRecord.path = [path] := by
  induction records with
  | nil =>
      intro found
      cases found <;> simp [outcome]
  | cons record records ih =>
      intro found
      cases toppy : record.isToppy with
      | false =>
          rw [outcome_of_other _ toppy, ih, List.filter_cons_of_neg (by rw [toppy]; decide)]
      | true =>
          rw [outcome_of_toppy _ toppy, List.filter_cons_of_pos toppy, List.map_cons]
          cases found with
          | none => exact ih
          | some _ => simp

/-- A devices file: any number of records, possibly behind other lines. -/
structure DevicesFile where
  header : List DevicesLine
  others : ∀ line ∈ header, line.Other
  records : List DeviceRecord

def DevicesFile.text (file : DevicesFile) : List UInt8 :=
  file.header.flatMap DevicesLine.text ++ file.records.flatMap DeviceRecord.text

/-- What the loop makes of a devices file. -/
theorem scanDevices_text (file : DevicesFile) (stack : Finder) :
    scanDevices (.ok file.text) stack = .leave (outcome none file.records) := by
  have leaves := Finder.leaves_others file.others { stack with found := false }
    (Finder.leaves_records file.records { stack with found := false })
  exact Finder.run_body_of_leaves leaves

/-- With the lock obtained, `findToppy` ends, and it returns a path exactly when
one record is that of a Topfield: the path with the bus and device numbers of
this record. -/
theorem findToppy_path_iff (file : DevicesFile) (stack : Finder) :
    (∃ result, findToppy none (.ok file.text) stack = .leave result) ∧
      ∀ path, findToppy none (.ok file.text) stack = .leave (.ok path) ↔
        ∃ record, file.records.filter DeviceRecord.isToppy = [record] ∧ path = record.path := by
  have found : findToppy none (.ok file.text) stack = .leave (outcome none file.records) :=
    scanDevices_text file stack
  constructor
  · exact ⟨_, found⟩
  · intro path
    rw [found, Pass.leave.injEq, outcome_eq_ok_iff, Option.toList_none, List.nil_append,
      List.map_eq_singleton_iff]
    simp only [eq_comm]

end Puppy.Cli
