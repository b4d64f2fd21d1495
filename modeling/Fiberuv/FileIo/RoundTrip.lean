import Fiberuv.FileIo.Disk

/-! # `read_file` undoes `write_file`

After each write request the file is what it was when it was opened, followed by the part
of the data that has been written, wherever the requests were cut short; appending and
writing at an offset come to the same because the file ends at the offset. Reading has
got, at each point, the part of the file before its offset.
-/

namespace Fiberuv.FileIo

open Foundation
open Io.FileCursor (bufLength overwrite)

/-- The flags of `write_file`. -/
def writeFlags (append : Bool) : List OpenFlag :=
  [.wronly, .creat] ++ [if append then .append else .trunc]

/-- The flags of `read_file`. -/
def readFlags : List OpenFlag := [.rdonly]

/-- The size of `ReadFileState::chunk`. -/
def chunkSize : Nat := 64 * 1024

/-- Where a write request goes. The offset is at most the length of the data, so it stays
what it is as an `int64_t`; `-1` stands for the end of a file opened with
`UV_FS_O_APPEND`. -/
def WriteFileState.place (work : WriteFileState) (contents : Contents) : Nat :=
  if .append ∈ writeFlags work.append then contents.bytes.length else work.offset

/-- What the operating system does in the requests of `write_file`. -/
def serveWrite (path : String) : Service WriteFileState
  | disk, _, .call _ => some disk
  | disk, work, .onOpen result _ =>
      if asInt result < 0 then some disk else disk.opened path (writeFlags work.append)
  | disk, work, .onTransfer result _ _ =>
      if result ≤ 0 then some disk
      else if result.toNat ≤ bufLength (work.data.length - work.offset) then
        (disk path).bind fun contents =>
          (contents.write (work.place contents)
            ((work.data.drop work.offset).take result.toNat)).map fun written =>
              Function.update disk path (some written)
      else none
  | disk, _, .onClose _ => some disk

/-- What the operating system does in the requests of `read_file`: a read gets some of what
is in the file at the offset, and nothing only at its end. -/
def serveRead (path : String) : Service ReadFileState
  | disk, _, .call _ => some disk
  | disk, _, .onOpen result _ =>
      if asInt result < 0 then some disk else disk.opened path readFlags
  | disk, work, .onTransfer result buffer _ =>
      if result < 0 then some disk
      else
        (disk path).bind fun contents =>
          let rest := contents.bytes.drop work.offset
          if result.toNat ≤ bufLength chunkSize ∧ result.toNat ≤ rest.length ∧
              (result = 0 → rest = []) ∧ buffer = rest.take result.toNat then some disk
          else none
  | disk, _, .onClose _ => some disk

def writeWorld (path : String) : Machine (World WriteFileState Unit) Action :=
  writing.hosted (serveWrite path)

def readWorld (path : String) : Machine (World ReadFileState Bytes) Action :=
  reading.hosted (serveRead path)

theorem overwrite_end (contents bytes : Bytes) :
    overwrite contents contents.length bytes = contents ++ bytes := by
  simp [overwrite]

section Write

variable (path : String) (data : Contents) (append : Bool) (start : Disk)

/-- What the data is written behind. -/
def keptBytes : Bytes :=
  if append then ((start path).map Contents.bytes).getD [] else []

/-- The content that `write_file` is meant to leave. -/
def writtenBytes : Bytes := keptBytes path append start ++ data.bytes

/-- The file holds these bytes, and the other files are as they were. -/
structure Holds (bytes : Bytes) (disk : Disk) : Prop where
  file : ∃ contents, disk path = some contents ∧ contents.bytes = bytes
  others : ∀ other, other ≠ path → disk other = start other

/-- While writing, the file has what was kept and the data up to the offset. -/
structure Writes (disk : Disk) (work : WriteFileState) : Prop where
  payload : work.data = data.bytes
  mode : work.append = append
  offset : work.offset ≤ data.bytes.length
  holds : Holds path start (keptBytes path append start ++ data.bytes.take work.offset) disk

variable {path data append start}

/-- `UV_FS_O_TRUNC` empties the file, `UV_FS_O_APPEND` keeps it, and `UV_FS_O_CREAT` makes
one that does not exist. -/
theorem opened_holds {disk : Disk}
    (hopened : start.opened path (writeFlags append) = some disk) :
    Holds path start (keptBytes path append start) disk := by
  unfold Disk.opened at hopened
  cases hfile : start path with
  | none =>
      simp only [hfile] at hopened
      rw [if_pos (by simp [writeFlags])] at hopened
      cases hopened
      refine ⟨⟨.empty, by simp, ?_⟩, fun other hne => by simp [hne]⟩
      simp [keptBytes, hfile, Contents.empty]
  | some old =>
      simp only [hfile] at hopened
      cases append with
      | true =>
          rw [if_neg (by simp [writeFlags])] at hopened
          cases hopened
          exact ⟨⟨old, hfile, by simp [keptBytes, hfile]⟩, fun _ _ => rfl⟩
      | false =>
          rw [if_pos (by simp [writeFlags])] at hopened
          cases hopened
          exact ⟨⟨.empty, by simp, rfl⟩, fun other hne => by simp [hne]⟩

/-- Both ways of writing go to the end of the file. -/
theorem Writes.place_eq {disk : Disk} {work : WriteFileState} {contents : Contents}
    (hwrites : Writes path data append start disk work)
    (hbytes : contents.bytes = keptBytes path append start ++ data.bytes.take work.offset) :
    work.place contents = contents.bytes.length := by
  unfold WriteFileState.place
  split
  · rfl
  next hflag =>
    have hmode : append = false := by
      rw [← hwrites.mode]
      simpa [writeFlags] using hflag
    have hoffset := hwrites.offset
    simp [hbytes, keptBytes, hmode, hoffset]

/-- A write request that moved some bytes has added them to the file. -/
theorem Writes.move {disk next : Disk} {work : WriteFileState} {result : Int} {buffer : Bytes}
    {starts : Starts} (hwrites : Writes path data append start disk work) (hmoved : 0 < result)
    (hserve : serveWrite path disk work (.onTransfer result buffer starts) = some next) :
    Writes path data append start next (writing.advance work result.toNat buffer) := by
  obtain ⟨contents, hfile, hbytes⟩ := hwrites.holds.file
  simp only [serveWrite] at hserve
  rw [if_neg (by omega)] at hserve
  simp only [hfile, Option.bind_some, Option.ite_none_right_eq_some, Option.map_eq_some_iff]
    at hserve
  obtain ⟨hcount, written, hwritten, rfl⟩ := hserve
  rw [hwrites.place_eq hbytes, Contents.write, overwrite_end] at hwritten
  simp only [Option.dite_none_right_eq_some, Option.some.injEq] at hwritten
  obtain ⟨-, rfl⟩ := hwritten
  have hrest : result.toNat ≤ data.bytes.length - work.offset := by
    rw [← hwrites.payload]
    exact hcount.trans (Nat.mod_le _ _)
  have hbound := data.bound
  have hoffset := hwrites.offset
  have hnowrap : (work.offset + result.toNat) % 2 ^ 64 = work.offset + result.toNat :=
    Nat.mod_eq_of_lt (by omega)
  refine ⟨hwrites.payload, hwrites.mode, ?_, ⟨_, Function.update_self _ _ _, ?_⟩,
    fun other hne => ?_⟩
  · simp only [writing, hnowrap]
    omega
  · simp only [writing, hnowrap, hbytes, hwrites.payload, List.append_assoc, List.take_add]
  · simpa [hne] using hwrites.holds.others other hne

theorem write_rule (path : String) (data : Contents) (append : Bool) (start : Disk) :
    Rule writing (serveWrite path)
      (fun disk work => disk = start ∧ work = { data := data.bytes, append })
      (Writes path data append start)
      (fun disk _ => Holds path start (writtenBytes path data append start) disk) where
  call hbefore hserve := by
    cases hserve
    exact hbefore
  opens := by
    rintro disk next work result starts ⟨rfl, rfl⟩ hresult hserve
    simp only [serveWrite] at hserve
    rw [if_neg (by omega)] at hserve
    refine ⟨rfl, rfl, Nat.zero_le _, ?_⟩
    simpa using opened_holds hserve
  moves hduring hmoved hserve := hduring.move hmoved hserve
  stops _ hzero := by simp [writing] at hzero
  done := by
    intro disk work hduring hdone
    have hall : data.bytes.length ≤ work.offset := by
      simpa [writing, hduring.payload] using hdone
    have hholds := hduring.holds
    rwa [List.take_of_length_le hall] at hholds
  closes hafter hserve := by
    cases hserve
    exact hafter

end Write

section Read

variable {path : String} {disk start : Disk}

/-- While reading, the part of the file before the offset has been read. -/
structure Reads (path : String) (start disk : Disk) (work : ReadFileState) : Prop where
  unchanged : disk = start
  read : ∃ contents, start path = some contents ∧ work.offset ≤ contents.bytes.length ∧
    work.out = contents.bytes.take work.offset

theorem Reads.move {next : Disk} {work : ReadFileState} {result : Int} {buffer : Bytes}
    {starts : Starts} (hreads : Reads path start disk work) (hmoved : 0 < result)
    (hserve : serveRead path disk work (.onTransfer result buffer starts) = some next) :
    Reads path start next (reading.advance work result.toNat buffer) := by
  obtain ⟨contents, hfile, hoffset, hout⟩ := hreads.read
  have hunchanged := hreads.unchanged
  subst hunchanged
  simp only [serveRead] at hserve
  rw [if_neg (by omega)] at hserve
  simp only [hfile, Option.bind_some, Option.ite_none_right_eq_some, Option.some.injEq] at hserve
  obtain ⟨⟨-, hcount, -, rfl⟩, rfl⟩ := hserve
  have hbound := contents.bound
  have hrest : result.toNat ≤ contents.bytes.length - work.offset := by simpa using hcount
  have hnowrap : (work.offset + result.toNat) % 2 ^ 64 = work.offset + result.toNat :=
    Nat.mod_eq_of_lt (by omega)
  refine ⟨rfl, contents, hfile, ?_, ?_⟩
  · simp only [reading, hnowrap]
    omega
  · simp only [reading, hnowrap, hout, List.take_take, Nat.min_self, List.take_add]

theorem read_rule (path : String) (start : Disk) :
    Rule reading (serveRead path)
      (fun disk work => disk = start ∧ work = {})
      (Reads path start)
      (fun disk work => disk = start ∧
        ∃ contents, start path = some contents ∧ work.out = contents.bytes) where
  call hbefore hserve := by
    cases hserve
    exact hbefore
  opens := by
    rintro disk next work result starts ⟨rfl, rfl⟩ hresult hserve
    simp only [serveRead] at hserve
    rw [if_neg (by omega)] at hserve
    unfold Disk.opened at hserve
    cases hfile : disk path with
    | none => simp [hfile, readFlags] at hserve
    | some contents =>
        simp only [hfile] at hserve
        rw [if_neg (by simp [readFlags])] at hserve
        cases hserve
        exact ⟨rfl, contents, hfile, Nat.zero_le _, by simp⟩
  moves hduring hmoved hserve := hduring.move hmoved hserve
  stops := by
    intro disk next work buffer starts hduring _ hserve
    obtain ⟨contents, hfile, hoffset, hout⟩ := hduring.read
    have hunchanged := hduring.unchanged
    subst hunchanged
    simp only [serveRead] at hserve
    rw [if_neg (by omega)] at hserve
    simp only [hfile, Option.bind_some, Option.ite_none_right_eq_some, Option.some.injEq] at hserve
    obtain ⟨⟨-, -, hend, -⟩, rfl⟩ := hserve
    have hall : contents.bytes.length ≤ work.offset := List.drop_eq_nil_iff.mp (hend trivial)
    exact ⟨rfl, contents, hfile, by rw [hout, List.take_of_length_le hall]⟩
  done _ hdone := by simp [reading] at hdone
  closes hafter hserve := by
    cases hserve
    exact hafter

end Read

/-- When `write_file` returns, the file is the data, or what it was followed by the data,
however the writes were cut; and a `read_file` that follows and returns gives that back,
however the reads were cut. -/
theorem readFile_writeFile (path : String) (data : Contents) (append : Bool) (disk : Disk)
    (writes : List Action) (written : World WriteFileState Unit)
    (hwrite : (writeWorld path).run writes
      { disk, chain := writeInitial data.bytes append } = some written)
    (hreturned : written.chain.promise = some (.ok ())) :
    Holds path disk (writtenBytes path data append disk) written.disk ∧
      ∀ reads (read : World ReadFileState Bytes) bytes,
        (readWorld path).run reads { disk := written.disk, chain := readInitial } = some read →
        read.chain.promise = some (.ok bytes) →
          bytes = writtenBytes path data append disk ∧ read.disk = written.disk := by
  have hholds := ((write_rule path data append disk).returned ⟨rfl, rfl⟩ hwrite hreturned).1
  refine ⟨hholds, fun reads read bytes hread hbytes => ?_⟩
  obtain ⟨⟨hsame, contents, hfile, hout⟩, hvalue⟩ :=
    (read_rule path written.disk).returned ⟨rfl, rfl⟩ hread hbytes
  obtain ⟨stored, hstored, hcontent⟩ := hholds.file
  rw [hfile] at hstored
  cases hstored
  refine ⟨?_, hsame⟩
  rw [hvalue, ← hcontent]
  exact hout

/-- A disk with one file of one byte. -/
def oneFile : Disk := Function.update (fun _ => none) "log" (some ⟨[33], by decide⟩)

def shortData : Contents := ⟨[104, 105], by decide⟩

/-- The data is written byte by byte, behind what is there. -/
def shortWrites : List Action :=
  [.call 0, .onOpen 3 ⟨0, 0⟩, .onTransfer 1 [] ⟨0, 0⟩, .onTransfer 1 [] ⟨0, 0⟩, .onClose 0]

/-- Three bytes are read in two requests. -/
def shortReads : List Action :=
  [.call 0, .onOpen 3 ⟨0, 0⟩, .onTransfer 1 [33] ⟨0, 0⟩, .onTransfer 2 [104, 105] ⟨0, 0⟩,
    .onTransfer 0 [] ⟨0, 0⟩, .onClose 0]

theorem readFile_writeFile_short :
    ∃ written read, (writeWorld "log").run shortWrites
        { disk := oneFile, chain := writeInitial shortData.bytes true } = some written ∧
      written.chain.promise = some (.ok ()) ∧
      (readWorld "log").run shortReads { disk := written.disk, chain := readInitial } =
        some read ∧
      read.chain.promise = some (.ok [33, 104, 105]) ∧
      writtenBytes "log" shortData true oneFile = [33, 104, 105] := by
  refine ⟨_, _, rfl, rfl, rfl, rfl, ?_⟩
  have hboth := readFile_writeFile "log" shortData true oneFile shortWrites _ rfl
  exact ((hboth rfl).2 shortReads _ _ rfl rfl).1.symm

end Fiberuv.FileIo
