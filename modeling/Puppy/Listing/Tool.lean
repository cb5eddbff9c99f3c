import Puppy.Listing.Dir

/-!
# Listing a directory with the command line tool

`do_hdd_dir`, `decode_dir` and `quote_xml` of `puppy.c`.  Standard output is a
list of the `printf` calls with the values they show.
-/

namespace Puppy.Listing

open Transition
open Puppy.Wire Puppy.Usb Puppy.Time

universe u

variable {σ : Type u}

/-- The option `-x` and the C library function that prints a time. -/
structure Tool where
  xml : Bool
  ctime : Int → CString

/-- The `printf` calls of `decode_dir`. -/
inductive Output where
  /-- "<?xml version=\"1.0\" encoding=\"ISO-8859-15\"?>\r\n\r\n" -/
  | xmlDeclaration
  /-- "<contents>\n" -/
  | contentsBegin
  /-- "<file type=\"%s\" size=\"%llu\" time=\"%04d-%02d-%02d %d:%02d:%02d\"
  name=\"%W\"/>\n" -/
  | xmlFile (type : String) (size : UInt64) (year mon mday hour min sec : Int)
      (name : List UInt8)
  /-- "</contents>\n" -/
  | contentsEnd
  /-- "%c %20llu %24.24s %s\n" -/
  | line (type : Char) (size : UInt64) (time : List UInt8) (name : List UInt8)
  deriving DecidableEq

/-! ## Quoting -/

/-- `valid_chars` -/
def validChars : String := "abcdefghijklmnopqrstuvwxyzABCDEFGHIJKLMNOPQRSTUVWXYZ0123456789_ '-+."

/-- `strchr(valid_chars, ch)` finds the character. -/
def isValidChar (ch : UInt8) : Bool := (validChars.toList.map Char.toNat).contains ch.toNat

/-- A digit of "%02x". -/
def hexDigit (n : UInt8) : UInt8 := if n < 10 then 0x30 + n else 0x61 + (n - 10)

/-- `quote_xml` -/
def quoteXml (name : CString) : List UInt8 :=
  name.bytes.flatMap fun ch =>
    if isValidChar ch then [ch] else [0x25, hexDigit (ch / 16), hexDigit (ch % 16)]

/-! ## Printing -/

/-- One pass of the loop in `decode_dir`. -/
def Tool.printRecord (env : Env σ) (tool : Tool) (record : Typefile) : Output :=
  let timestamp := tfdtToTime env.mktime record.stamp
  let tm := env.localtime timestamp
  if tool.xml then
    .xmlFile
      (if record.filetype = 1 then "dir" else if record.filetype = 2 then "file" else "unknown")
      record.size (tm.year + 1900) (tm.mon + 1) tm.mday tm.hour tm.min tm.sec
      (quoteXml record.name)
  else
    .line (if record.filetype = 1 then 'd' else if record.filetype = 2 then 'f' else '?')
      record.size ((tool.ctime timestamp).bytes.take 24) record.name.bytes

/-- `decode_dir` of `puppy.c` -/
def Tool.decodeDir (env : Env σ) (tool : Tool) (packet : Memory UInt8) : List Output :=
  let files := (typefiles packet).map (tool.printRecord env)
  if tool.xml then [.xmlDeclaration, .contentsBegin] ++ files ++ [.contentsEnd] else files

/-! ## The loop -/

/-- What the loop of `do_hdd_dir` has received and printed so far. -/
structure ToolLoop (σ : Type u) where
  reply : Memory UInt8
  outside : σ
  log : List Arrival
  stdout : List Output
  stderr : List Diagnostic

def ToolLoop.print (messages : List Diagnostic) (loop : ToolLoop σ) : ToolLoop σ :=
  { loop with stderr := loop.stderr ++ messages }

/-- The loop variables once `get_tf_packet` has returned. -/
def ToolLoop.accept (got : Received σ) (loop : ToolLoop σ) : ToolLoop σ :=
  { loop.print got.stderr with
    reply := got.packet
    outside := got.state
    log := loop.log ++ [arrivalOf got] }

/-- One pass of the loop: receive a packet and act on it. -/
def hddDirBody (env : Env σ) (tool : Tool) : Body (ToolLoop σ) (Int × ToolLoop σ) := fun loop =>
  let got := getTfPacket env loop.reply loop.outside
  let loop := loop.accept got
  if 0 < got.ret then
    let cmd := packetCmd loop.reply
    if cmd = DATA_HDD_DIR then
      .again
        { loop with
          stdout := loop.stdout ++ tool.decodeDir env loop.reply
          outside := (sendSuccess env loop.outside).state }
    else if cmd = DATA_HDD_DIR_END then .leave (0, loop)
    else if cmd = FAIL then
      .leave (negEPROTO, loop.print [.deviceReports (decodeError loop.reply)])
    else .leave (negEPROTO, loop.print [.unhandledPacket none])
  else .leave (negEPROTO, loop)

/-- The loop state before the first packet. -/
def toolInitial (reply : Memory UInt8) (request : Requested σ) : ToolLoop σ where
  reply
  outside := request.state
  log := []
  stdout := []
  stderr := request.stderr

/-- Behind `send_cmd_hdd_dir`: enter the loop or return. -/
def toolRequested (env : Env σ) (tool : Tool) (fuel : Nat) (reply : Memory UInt8)
    (request : Requested σ) : Pass (ToolLoop σ) (Int × ToolLoop σ) :=
  if request.ret < 0 then .leave (negEPROTO, toolInitial reply request)
  else run (hddDirBody env tool) fuel (toolInitial reply request)

/-- `do_hdd_dir`, for at most `fuel` passes of its loop: `again` when the loop
is still going, `leave` with the returned value otherwise. -/
def doHddDir (env : Env σ) (tool : Tool) (fuel : Nat) (path : CString)
    (req reply : Memory UInt8) (outside : σ) : Pass (ToolLoop σ) (Int × ToolLoop σ) :=
  toolRequested env tool fuel reply (sendCmdHddDir env req path outside)

/-! ## One turn -/

/-- What a pass can do with the result of `get_tf_packet`. -/
inductive ToolTurn (env : Env σ) (loop : ToolLoop σ) (got : Received σ) :
    Pass (ToolLoop σ) (Int × ToolLoop σ) → Prop
  | decoded (stdout : List Output) (carries : (arrivalOf got).carries DATA_HDD_DIR) :
      ToolTurn env loop got
        (.again
          { loop.accept got with stdout, outside := (sendSuccess env got.state).state })
  | finished (carries : (arrivalOf got).carries DATA_HDD_DIR_END) :
      ToolTurn env loop got (.leave (0, loop.accept got))
  | failed {last : ToolLoop σ} (notDir : ¬ (arrivalOf got).carries DATA_HDD_DIR)
      (notEnd : ¬ (arrivalOf got).carries DATA_HDD_DIR_END) :
      ToolTurn env loop got (.leave (negEPROTO, last))

theorem hddDirBody_cases (env : Env σ) (tool : Tool) (loop : ToolLoop σ) :
    ToolTurn env loop (getTfPacket env loop.reply loop.outside) (hddDirBody env tool loop) := by
  unfold hddDirBody
  simp only
  generalize getTfPacket env loop.reply loop.outside = got
  have reply : (loop.accept got).reply = got.packet := rfl
  rw [reply]
  by_cases accepted : 0 < got.ret
  · rw [if_pos accepted]
    by_cases dir : packetCmd got.packet = DATA_HDD_DIR
    · rw [if_pos dir]
      exact .decoded _ ⟨accepted, dir⟩
    · rw [if_neg dir]
      by_cases atEnd : packetCmd got.packet = DATA_HDD_DIR_END
      · rw [if_pos atEnd]
        exact .finished ⟨accepted, atEnd⟩
      · rw [if_neg atEnd]
        have notDir : ¬ (arrivalOf got).carries DATA_HDD_DIR := fun carries => dir carries.2
        have notEnd : ¬ (arrivalOf got).carries DATA_HDD_DIR_END := fun carries =>
          atEnd carries.2
        split <;> exact .failed notDir notEnd
  · rw [if_neg accepted]
    exact .failed (fun carries => accepted carries.1) (fun carries => accepted carries.1)

end Puppy.Listing
