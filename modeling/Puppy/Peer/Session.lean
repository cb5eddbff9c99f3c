import Puppy.Peer.Commands
import Puppy.Peer.Directories
import Puppy.Peer.Downloads
import Puppy.Transfer.PutComplete

/-!
# Sessions with a file server

The library refines the disk: whatever jobs are done one behind the other, each
returns, shows what it means on the disk, and leaves the line ready for the next
one.  Replies that are left over from before are never caught up with.
-/

namespace Puppy.Peer

open Transition
open Puppy.Wire Puppy.Usb Puppy.Control Puppy.Listing Puppy.Transfer Puppy.Time

universe u

variable {δ : Type u} (disk : Disk δ) (amount : Nat → Nat) (host : Host)

/-- On an idle line a command reads the reply to its own request. -/
theorem serve_command (command : Command) (state : δ) :
    disk.serve host (.command command) state =
        (.command (exchange disk command ([], state)).1,
          (exchange disk command ([], state)).2.2) ∧
      (exchange disk command ([], state)).2.1 = [] := by
  cases refused : refusal command with
  | none => simp only [Disk.serve, exchange, refused, and_self]
  | some outcome => simp only [Disk.serve, exchange, refused, and_self]

/-- A command on an idle line does what it means. -/
theorem performs_command {command : Command} (short : ShortPaths command) (scratch : Scratch)
    {state : δ} {globals : Globals (Link (Server δ))} (rest : AtRest state globals) :
    ∃ seen next, Performs (Link.env (fileServer disk amount) host) globals
        ⟨.command command, scratch⟩ seen next ∧
      Agrees (Link.env (fileServer disk amount) host)
        (disk.serve host (.command command) state).1 seen ∧
      AtRest (disk.serve host (.command command) state).2 next := by
  obtain ⟨packet, reply, _, _⟩ := globals
  obtain ⟨rfl, calls, rfl⟩ := rest
  obtain ⟨outcome, left⟩ := call_line disk amount host short scratch.req reply [] state calls
  have meaning := serve_command disk host command state
  rw [meaning.2] at left
  rw [meaning.1, ← outcome]
  exact ⟨_, _, .command rfl, .command, rfl, calls, left⟩

/-- Every job does what it means. -/
theorem performs_refines (positive : ∀ i, 0 < amount i) :
    Refines (Performs (Link.env (fileServer disk amount) host))
      (fun call => disk.serve host call.job) (fun call => call.job.Admissible) AtRest
      (Agrees (Link.env (fileServer disk amount) host)) := by
  rintro ⟨job, scratch⟩ state globals admissible rest
  cases job with
  | command command => exact performs_command disk amount host admissible scratch rest
  | list path => exact performs_list disk amount host admissible scratch rest
  | put src path =>
      exact performs_put disk amount host src path state positive admissible scratch rest
  | get path => exact performs_get disk amount host path state admissible scratch rest

/-- A session with a file server: every call returns, the calls show what the
jobs mean on the disk, and the disk is left as they mean it, whatever the
buffers and the memory held, and however `read` cuts the files. -/
theorem session_refines (positive : ∀ i, 0 < amount i) {calls : List Call}
    (admissible : ∀ call ∈ calls, call.job.Admissible) {state : δ}
    {globals : Globals (Link (Server δ))} (rest : AtRest state globals) :
    let meaning := serveAll (disk.serve host) (calls.map Call.job) state
    ∃ seen last, Served (Performs (Link.env (fileServer disk amount) host)) globals calls seen
        last ∧
      List.Forall₂ (Agrees (Link.env (fileServer disk amount) host)) meaning.1 seen ∧
      AtRest meaning.2 last := by
  intro meaning
  have served := (performs_refines disk amount host positive).served admissible rest
  rwa [serveAll_map] at served

/-- A file that is put on a disk which keeps what is stored, comes back with its
bytes, whatever else is done meanwhile. Its time has been through the host's clock
twice, which a clock without summer time undoes. -/
theorem upload_download (positive : ∀ i, 0 < amount i) {src : SourceFile}
    (nonempty : src.contents ≠ []) {path : CString} (accepts : FileSendAccepts path) {state : δ}
    (free : disk.refuses path state = none)
    (stored : ∀ file, ∃ download,
      disk.fetch path (disk.store path file state) = .ok download ∧ download.file = file)
    {between : List Call} (admissible : ∀ call ∈ between, call.job.Admissible)
    (spares : ∀ call ∈ between, ∀ state,
      disk.fetch path (disk.serve host call.job state).2 = disk.fetch path state)
    (first second : Scratch) {globals : Globals (Link (Server δ))}
    (rest : AtRest state globals) :
    let time := tfdtToTime host.mktime (timeToTfdt host.localtime src.mtime)
    (∃ others last, Served (Performs (Link.env (fileServer disk amount) host)) globals
      (⟨.put src path, first⟩ :: between ++ [⟨.get path, second⟩])
      (.put 0 [] :: others ++ [.get 0 src.contents (some time) []]) last) ∧
    ∀ offset, InZone host.localtime host.mktime offset →
      Calendar.dayNumber 1900 2 1 ≤ (host.localtime src.mtime).dayNumber →
      (host.localtime src.mtime).dayNumber ≤ Calendar.dayNumber 2038 3 22 → time = src.mtime := by
  intro time
  refine ⟨?_, fun offset zone from1900 to2038 => tfdtToTime_timeToTfdt zone from1900 to2038⟩
  have short : path.length ≤ 65534 := by
    unfold FileSendAccepts PACKET_HEAD_SIZE MAXIMUM_PACKET_SIZE at accepts
    omega
  have refines := performs_refines disk amount host positive
  let file : File := ⟨timeToTfdt host.localtime src.mtime, src.contents⟩
  obtain ⟨download, fetched, same⟩ := stored file
  have putMeans : disk.serve host (.put src path) state =
      (.put 0 [], disk.store path file state) := by
    simp only [Disk.serve, if_neg nonempty, if_neg (not_not.mpr accepts), free, file]
  obtain ⟨sent, behind, put, sentMeans, ready⟩ :=
    refines ⟨.put src path, first⟩ state globals short rest
  simp only [putMeans] at sentMeans ready
  cases sentMeans
  obtain ⟨others, before, served, _, idle⟩ := refines.served admissible ready
  have kept := serveAll_view (fun call : Call => disk.serve host call.job) (disk.fetch path) spares
    (disk.store path file state)
  generalize (serveAll _ between _).2 = later at kept idle
  have getMeans : disk.serve host (.get path) later =
      (.get 0 src.contents (some time) [], later) := by
    simp only [Disk.serve, if_neg (not_not.mpr accepts), kept, fetched, same, time, file]
  obtain ⟨received, last, get, receivedMeans, _⟩ :=
    refines ⟨.get path, second⟩ later before short idle
  simp only [getMeans] at receivedMeans
  cases receivedMeans
  exact ⟨others, last, (Served.cons put served).append (.cons get .nil)⟩

/-- A host on which local time is universal time. -/
def universalHost : Host := ⟨localFields 0, fun tm => tm.instant - 0, false⟩

theorem upload_download_shelf :
    ∃ others last, Served (Performs (Link.env (fileServer shelfDisk fun _ => 7) universalHost))
      (Globals.fresh (line [] (resting ([] : Shelf) 0)))
      (⟨.put ⟨[1, 2, 3], 951782399, by decide⟩ pathA, .zero⟩ ::
        [⟨.command .ready, .zero⟩, ⟨.list pathA, .zero⟩] ++ [⟨.get pathA, .zero⟩])
      (.put 0 [] :: others ++ [.get 0 [1, 2, 3] (some 951782399) []]) last := by
  have admissible : ∀ call ∈ [⟨.command .ready, .zero⟩, ⟨.list pathA, .zero⟩],
      Job.Admissible (Call.job call) := by
    intro call member
    rw [List.mem_cons, List.mem_singleton] at member
    rcases member with rfl | rfl
    · exact shortPaths_of_fits rfl
    · exact (by decide : DirAccepts pathA)
  have spares : ∀ call ∈ [⟨.command .ready, .zero⟩, ⟨.list pathA, .zero⟩], ∀ state : Shelf,
      shelfDisk.fetch pathA (shelfDisk.serve universalHost (Call.job call) state).2 =
        shelfDisk.fetch pathA state := by
    intro call member
    rw [List.mem_cons, List.mem_singleton] at member
    rcases member with rfl | rfl
    · exact fun _ => rfl
    · exact fun _ => rfl
  have nonempty : SourceFile.contents ⟨[1, 2, 3], 951782399, by decide⟩ ≠ [] :=
    List.cons_ne_nil _ _
  obtain ⟨⟨others, last, served⟩, keeps⟩ :=
    upload_download shelfDisk (fun _ => 7) universalHost (fun _ => by decide) nonempty
      (by decide) rfl (fun file => fetch_store_shelf pathA file []) admissible spares .zero .zero
      (atRest_fresh [])
  rw [keeps 0 (inZone_localFields 0) (by decide +kernel) (by decide +kernel)] at served
  exact ⟨others, last, served⟩

/-- A file is put on the shelf, fetched and deleted, and is not found again. -/
theorem session_refines_shelf :
    ∃ seen last, Served (Performs (Link.env (fileServer shelfDisk fun _ => 1) Host.epoch))
        (Globals.fresh (line [] (resting ([] : Shelf) 0)))
        [⟨.put fiveBytes pathA, .zero⟩, ⟨.get pathA, .zero⟩, ⟨.command (.hddDel pathA), .zero⟩,
          ⟨.get pathA, .zero⟩] seen last ∧
      List.Forall₂ (Agrees (Link.env (fileServer shelfDisk fun _ => 1) Host.epoch))
        [.put 0 [], .get 0 fiveBytes.contents (some 0) [], .command ⟨0, [], []⟩,
          .get negEPROTO [] (some 0) [reported 4]] seen ∧
      AtRest ([] : Shelf) last := by
  have short : pathA.length ≤ 65534 := by decide
  apply session_refines shelfDisk (fun _ => 1) Host.epoch (fun _ => Nat.one_pos)
    (@fun call member => ?_) (atRest_fresh ([] : Shelf))
  simp only [List.mem_cons, List.not_mem_nil, or_false] at member
  rcases member with rfl | rfl | rfl | rfl
  · exact short
  · exact short
  · exact shortPaths_of_fits rfl
  · exact short

end Puppy.Peer
