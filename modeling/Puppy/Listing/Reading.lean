import Puppy.Listing.Document
import Puppy.Listing.Decoding
import Puppy.Listing.Quote
import Puppy.Text.Markup
import Puppy.Text.Numerals

/-!
# Reading the XML output

The bytes `decode_dir` of `puppy.c` writes with `-x`, and a reader for them that
knows nothing of listings: it goes by the elements and the closing quotes,
scans numbers with `sscanf` and decodes percent escapes.
-/

namespace Puppy.Listing

open Transition Stdio Markup
open Puppy.Wire Puppy.Usb Puppy.Time

universe u

variable {σ : Type u}

/-! ## The bytes -/

/-- What `printf` writes for "%*s": the text behind blanks. -/
def padLeft (width : Nat) (text : List UInt8) : List UInt8 :=
  List.replicate (width - text.length) 0x20 ++ text

/-- What is written for a `file` element. -/
def fileText (type : String) (size : UInt64) (year mon mday hour min sec : Int)
    (name : List UInt8) : List UInt8 :=
  word "<file type=\"" ++ word type ++
    word "\" size=\"" ++ zeroPadded 0 size.toNat ++
    word "\" time=\"" ++ zeroPadded 4 year ++ word "-" ++ zeroPadded 2 mon ++
    word "-" ++ zeroPadded 2 mday ++ word " " ++ zeroPadded 0 hour ++
    word ":" ++ zeroPadded 2 min ++ word ":" ++ zeroPadded 2 sec ++
    word "\" name=\"" ++ name ++ word "\"/>\n"

/-- What the `printf` calls of `decode_dir` write. -/
def Output.text : Output → List UInt8
  | .xmlDeclaration => word "<?xml version=\"1.0\" encoding=\"ISO-8859-15\"?>\r\n\r\n"
  | .contentsBegin => word "<contents>\n"
  | .xmlFile type size year mon mday hour min sec name =>
      fileText type size year mon mday hour min sec name
  | .contentsEnd => word "</contents>\n"
  | .line type size time name =>
      word (String.singleton type) ++ word " " ++ padLeft 20 (zeroPadded 0 size.toNat) ++
        word " " ++ padLeft 24 (time.take 24) ++ word " " ++ name ++ word "\n"

/-! ## The reader -/

/-- A `file` element. -/
structure FileElement where
  type : List UInt8
  size : Int
  tm : Tm
  name : List UInt8

/-- "%d-%d-%d %d:%d:%d" -/
def timeFormat : List Directive :=
  .integer .decimal true :: (literals "-" ++ .integer .decimal true :: (literals "-" ++
    .integer .decimal true :: .space :: .integer .decimal true :: (literals ":" ++
      .integer .decimal true :: (literals ":" ++ [.integer .decimal true]))))

/-- The size of an element. -/
def readSize (value : List UInt8) : Option Int :=
  match (sscanf [.integer .decimal true] value).values with
  | [size] => some size
  | _ => none

/-- The time of an element. -/
def readTime (value : List UInt8) : Option Tm :=
  match (sscanf timeFormat value).values with
  | [year, mon, mday, hour, min, sec] =>
      some { sec, min, hour, mday, mon := mon - 1, year := year - 1900 }
  | _ => none

/-- A `file` element, and the text behind it. -/
def readFile (text : List UInt8) : Option (FileElement × List UInt8) := do
  let (type, text) ← valued (word "<file type=\"") text
  let (size, text) ← valued (word " size=\"") text
  let (time, text) ← valued (word " time=\"") text
  let (name, text) ← valued (word " name=\"") text
  let text ← expect (word "/>\n") text
  let size ← readSize size
  let tm ← readTime time
  some ({ type, size, tm, name := percentDecode name }, text)

/-- A document: the elements between its tags. -/
def readDocument (text : List UInt8) : Option (List FileElement × List UInt8) := do
  let text ← expect Output.xmlDeclaration.text text
  let text ← expect Output.contentsBegin.text text
  manyOf (expect Output.contentsEnd.text) readFile text

/-- Documents up to the end of the text. -/
def readDocuments (text : List UInt8) : Option (List (List FileElement)) :=
  (manyOf atEnd readDocument text).map Prod.fst

/-! ## Elements -/

/-- The type of an element. -/
def Typefile.type (record : Typefile) : String :=
  if record.filetype = 1 then "dir" else if record.filetype = 2 then "file" else "unknown"

/-- The element that shows a record. -/
def Typefile.element (env : Env σ) (record : Typefile) : FileElement where
  type := word record.type
  size := record.size.toNat
  tm := env.localtime (tfdtToTime env.mktime record.stamp)
  name := record.name.bytes

/-- The value of the attribute `time`. -/
def timeText (tm : Tm) : List UInt8 :=
  zeroPadded 4 (tm.year + 1900) ++ (word "-" ++ (zeroPadded 2 (tm.mon + 1) ++ (word "-" ++
    (zeroPadded 2 tm.mday ++ (word " " ++ (zeroPadded 0 tm.hour ++ (word ":" ++
      (zeroPadded 2 tm.min ++ (word ":" ++ zeroPadded 2 tm.sec)))))))))

/-! ## Values -/

theorem quote_notMem_type (record : Typefile) : quote ∉ word record.type := by
  rw [Typefile.type]
  split
  · decide
  · split <;> decide

/-- A printed number has no quote in it. -/
theorem quote_notMem_zeroPadded (width : Nat) (value : Int) : quote ∉ zeroPadded width value := by
  obtain ⟨digits, _, each, _, shown⟩ := zeroPadded_spec width value
  rw [shown, List.mem_append, not_or]
  constructor
  · split <;> decide
  · intro member
    exact absurd (each _ member) (by decide)

theorem quote_notMem_timeText (tm : Tm) : quote ∉ timeText tm := by
  have dash : quote ∉ word "-" := by decide
  have blank : quote ∉ word " " := by decide
  have colon : quote ∉ word ":" := by decide
  simp only [timeText, List.mem_append, quote_notMem_zeroPadded, dash, blank, colon, or_self,
    not_false_iff]

theorem quote_notMem_quoteXml (name : CString) : quote ∉ quoteXml name := by
  rw [quoteXml_eq, List.mem_flatMap]
  rintro ⟨ch, _, written⟩
  exact (harmless_quoteChar ch _ written).printable.1 rfl

theorem readSize_zeroPadded (size : Nat) : readSize (zeroPadded 0 size) = some (size : Int) := by
  have scanned := @scanFrom_zeroPadded 0 size [] [] (by rintro byte ⟨⟩) []
  rw [List.append_nil] at scanned
  rw [readSize, sscanf, scanned]
  rfl

/-- The printed time is scanned field by field. -/
theorem sscanf_timeText (tm : Tm) :
    sscanf timeFormat (timeText tm) =
      .stop [tm.year + 1900, tm.mon + 1, tm.mday, tm.hour, tm.min, tm.sec] := by
  have colon (rest : List UInt8) : Ends .decimal (word ":" ++ rest) :=
    ends_word (by decide) (by decide) rest
  have dash (rest : List UInt8) : Ends .decimal (word "-" ++ rest) :=
    ends_word (by decide) (by decide) rest
  have blank (rest : List UInt8) : Ends .decimal (word " " ++ rest) :=
    ends_word (by decide) (by decide) rest
  have space (format : List Directive) (rest : List UInt8) (values : List Int) :
      scanFrom (.space :: format) (word " " ++ (zeroPadded 0 tm.hour ++ rest)) values =
        scanFrom format (zeroPadded 0 tm.hour ++ rest) values := by
    rw [scanFrom, dropWhile_blanks (by decide +kernel) (isSpace_zeroPadded 0 tm.hour rest)]
  have last := @scanFrom_zeroPadded 2 tm.sec [] [] (by rintro byte ⟨⟩)
  simp only [List.append_nil] at last
  rw [sscanf, timeFormat, timeText]
  rw [scanFrom_zeroPadded _ _ (dash _), scanFrom_literals, scanFrom_zeroPadded _ _ (dash _),
    scanFrom_literals, scanFrom_zeroPadded _ _ (blank _), space,
    scanFrom_zeroPadded _ _ (colon _), scanFrom_literals, scanFrom_zeroPadded _ _ (colon _),
    scanFrom_literals, last, scanFrom]
  rfl

theorem readTime_timeText (tm : Tm) : readTime (timeText tm) = some tm := by
  rw [readTime, sscanf_timeText, Scanned.values_stop]
  simp only [Int.add_sub_cancel]

/-! ## Elements -/

/-- What is printed of a record, attribute by attribute. -/
theorem text_printRecord (env : Env σ) {tool : Tool} (xml : tool.xml = true) (record : Typefile)
    (rest : List UInt8) :
    (tool.printRecord env record).text ++ rest =
      word "<file type=\"" ++ (word record.type ++ quote ::
        (word " size=\"" ++ (zeroPadded 0 record.size.toNat ++ quote ::
          (word " time=\"" ++ (timeText (record.element env).tm ++ quote ::
            (word " name=\"" ++ (quoteXml record.name ++ quote ::
              (word "/>\n" ++ rest)))))))) := by
  have size : word "\" size=\"" = quote :: word " size=\"" := rfl
  have time : word "\" time=\"" = quote :: word " time=\"" := rfl
  have name : word "\" name=\"" = quote :: word " name=\"" := rfl
  have slash : word "\"/>\n" = quote :: word "/>\n" := rfl
  have shown : (tool.printRecord env record).text =
      fileText record.type record.size ((record.element env).tm.year + 1900)
        ((record.element env).tm.mon + 1) (record.element env).tm.mday
        (record.element env).tm.hour (record.element env).tm.min (record.element env).tm.sec
        (quoteXml record.name) := by
    rw [Tool.printRecord]
    simp only [if_pos xml]
    rfl
  rw [shown]
  -- the equation of the definition would compare its words
  delta fileText
  rw [size, time, name, slash]
  simp only [List.append_assoc, List.cons_append, timeText]

/-- What is printed of a record is read back, whatever follows. -/
theorem readFile_printRecord (env : Env σ) {tool : Tool} (xml : tool.xml = true)
    (record : Typefile) (rest : List UInt8) :
    readFile ((tool.printRecord env record).text ++ rest) = some (record.element env, rest) := by
  rw [text_printRecord env xml, readFile]
  simp only [valued_append _ (quote_notMem_type record),
    valued_append _ (quote_notMem_zeroPadded _ _), valued_append _ (quote_notMem_timeText _),
    valued_append _ (quote_notMem_quoteXml _), expect_append, Option.bind_eq_bind,
    Option.bind_some, readSize_zeroPadded, readTime_timeText, percentDecode_quoteXml]
  rfl

/-! ## Documents -/

/-- The elements of a packet, as they are read. -/
def elements (env : Env σ) (packet : Memory UInt8) : List FileElement :=
  (typefiles packet).map (Typefile.element env)

theorem flatMap_decodeDir_text (env : Env σ) {tool : Tool} (xml : tool.xml = true)
    (packet : Memory UInt8) :
    (tool.decodeDir env packet).flatMap Output.text =
      Output.xmlDeclaration.text ++ (Output.contentsBegin.text ++
        ((typefiles packet).flatMap (fun record => (tool.printRecord env record).text) ++
          Output.contentsEnd.text)) := by
  rw [decodeDir_of_xml xml, xmlDocument]
  simp only [List.flatMap_append, List.flatMap_cons, List.flatMap_nil, List.append_nil,
    List.append_assoc, List.flatMap_map]

/-- What is printed for a packet is read back as one document. -/
theorem readDocument_decodeDir (env : Env σ) {tool : Tool} (xml : tool.xml = true)
    (packet : Memory UInt8) (rest : List UInt8) :
    readDocument ((tool.decodeDir env packet).flatMap Output.text ++ rest) =
      some (elements env packet, rest) := by
  have nonempty : ∀ record ∈ typefiles packet, (tool.printRecord env record).text ≠ [] := by
    intro record _ empty
    have shown := text_printRecord env xml record []
    rw [empty] at shown
    cases shown
  -- "<file" is not "</contents"
  have goes : ∀ record ∈ typefiles packet, ∀ rest,
      expect Output.contentsEnd.text ((tool.printRecord env record).text ++ rest) = none := by
    intro record _ rest
    rw [text_printRecord env xml]
    exact expect_of_parts (word "<") (by decide) (word "contents>\n") _
  have many := manyOf_flatMap nonempty (fun record _ => readFile_printRecord env xml record) goes
    (expect_append Output.contentsEnd.text rest)
  rw [flatMap_decodeDir_text env xml]
  simp only [List.append_assoc, readDocument, expect_append, Option.bind_eq_bind, Option.bind_some]
  exact many

/-- What is printed for some packets is read back packet by packet. -/
theorem readDocuments_decodeDir (env : Env σ) {tool : Tool} (xml : tool.xml = true)
    (packets : List (Memory UInt8)) :
    readDocuments ((packets.flatMap (tool.decodeDir env)).flatMap Output.text) =
      some (packets.map (elements env)) := by
  have nonempty : ∀ packet ∈ packets, (tool.decodeDir env packet).flatMap Output.text ≠ [] := by
    intro packet _ empty
    have shown := flatMap_decodeDir_text env xml packet
    rw [empty] at shown
    cases shown
  have ended : atEnd [] = some [] := rfl
  have many := manyOf_flatMap nonempty (fun packet _ => readDocument_decodeDir env xml packet)
    (fun packet member => atEnd_append (nonempty packet member)) ended
  rw [List.append_nil] at many
  rw [readDocuments, List.flatMap_assoc, many]
  rfl

/-- The text of a complete listing with `-x` is read back without loss: a document
for each `DATA_HDD_DIR` packet of the device, and in it type, size, time and
name of each of its records. -/
theorem readDocuments_doHddDir (env : Env σ) {tool : Tool} (xml : tool.xml = true)
    (path : CString) (req reply : Memory UInt8) (outside : σ) {talk : Conversation σ}
    (converses : Converses env path req reply outside talk) (complete : Complete talk.log) :
    ∃ fuel last, doHddDir env tool fuel path req reply outside = .leave (0, last) ∧
      readDocuments (last.stdout.flatMap Output.text) =
        some ((dirPackets talk.log).map (elements env)) := by
  obtain ⟨fuel, last, left, stdout⟩ := toolRequested_prints env tool reply _ converses complete
  refine ⟨fuel, last, left, ?_⟩
  rw [stdout]
  exact readDocuments_decodeDir env xml (dirPackets talk.log)

/-- Two packets are read back as two documents. -/
theorem readDocuments_doHddDir_twoMessages :
    ∃ talk, Converses Link.muteEnv CString.empty (fun _ => 0) (fun _ => 0)
        (listed [oneMessage, twoMessage]) talk ∧
      ∃ fuel last,
        doHddDir Link.muteEnv xmlTool fuel CString.empty (fun _ => 0) (fun _ => 0)
          (listed [oneMessage, twoMessage]) = .leave (0, last) ∧
        readDocuments (last.stdout.flatMap Output.text) =
          some ((dirPackets talk.log).map (elements Link.muteEnv)) := by
  have success : ToolReportsSuccess Link.muteEnv xmlTool CString.empty (fun _ => 0) (fun _ => 0)
      (listed [oneMessage, twoMessage]) := ⟨3, by decide +kernel⟩
  obtain ⟨talk, converses, complete⟩ := (toolReportsSuccess_iff _ _ _ _ _ _).mp success
  exact ⟨talk, converses, readDocuments_doHddDir Link.muteEnv rfl CString.empty _ _ _ converses
    complete⟩

end Puppy.Listing
