import Moderation.Audit.Log
import Moderation.Proofs.Audit.Chain
/-!
# What a log writes

A log adds the text of a chain to its file and to its mirror (`AuditLog.foldl_append`).  What it
wrote is read in three ways.  The verifier finds the records, the lines decode to them, and a log
that is opened again finds the hash that it ended with (`AuditLog.lastHashOf_write`).  As the three
agree, a log may be closed and opened again at any time (`AuditSession.run_writes_chain`).
-/

namespace Moderation
open AuditChain

/-! ## A log that is open -/

theorem FileState.readText_file (s : String) : (FileState.file s.toUTF8).readText = .ok s := by
  have hread : String.fromUTF8? s.toUTF8 = some s := by
    simp only [String.fromUTF8?, String.toUTF8_eq_toByteArray]
    exact dif_pos s.isValidUTF8
  simp only [readText, hread]

theorem AuditChain.verifyFile_text (s : String) : verifyFile (.file s.toUTF8) = verify s := by
  rw [verifyFile, FileState.readText_file]

namespace AuditLog

theorem hashOn_render (r : AuditRecord) : hashOn r.toJson.render = some r.hash := by
  have hget : r.toJson.get? "record_hash" = some (.string r.hash) := by
    simp [AuditRecord.toJson, Json.get?]
  simp only [hashOn, r.parse?_render, hget, bind, Option.bind, Json.string?]

/-- **The scan of a log finds the hash that the log ends with.** -/
theorem lastHashOf_write (rs : List AuditRecord) : lastHashOf (write rs) = hashAfter none rs := by
  rw [lastHashOf, lines_write]
  rcases List.eq_nil_or_concat' rs with rfl | ⟨front, r, rfl⟩
  · rfl
  · rw [hashAfter_concat, List.map_append, List.reverse_append, List.map_singleton,
      List.reverse_singleton, List.singleton_append, List.findSome?_cons, hashOn_render]

theorem lineFor_eq (log : AuditLog) (e : AuditEntry) :
    log.lineFor e = write [e.link log.lastHash] := by
  simp [lineFor, write, Text.unlines, String.ofList_append]

/-- **A log adds the text of a chain, which goes on with the hash that it is open with**, to its
file and to its mirror. -/
theorem foldl_append (log : AuditLog) (es : List AuditEntry) :
    es.foldl append log =
      { file := log.file ++ (write (AuditEntry.chain log.lastHash es)).toUTF8
        mirror := log.mirror.map (· ++ (write (AuditEntry.chain log.lastHash es)).toUTF8)
        table := log.table.map (es.foldl insertRow)
        lastHash := hashAfter log.lastHash (AuditEntry.chain log.lastHash es) } := by
  induction es generalizing log with
  | nil => simp [write, Text.unlines]
  | cons e es ih =>
    have hlines (rest : List AuditRecord) : (write (e.link log.lastHash :: rest)).toUTF8 =
        (log.lineFor e).toUTF8 ++ (write rest).toUTF8 := by
      rw [lineFor_eq, ← List.singleton_append, write_append]
      exact String.toByteArray_append
    rw [List.foldl_cons, ih, AuditEntry.chain_cons, hlines, hashAfter_cons]
    simp only [append, ByteArray.append_assoc, Option.map_map, Function.comp_def, List.foldl_cons]

end AuditLog

/-! ## A log that is closed and opened again -/

/-- What a log is opened with besides its file. -/
structure AuditSetup where
  mirrored : Bool
  tabled : Bool

/-- What a log and its companions hold while no log is open. -/
structure AuditDisk where
  log : FileState := .missing
  mirror : FileState := .missing
  table : List AuditEntry := []

namespace AuditDisk

/-- The files that a log is opened with. -/
def files (disk : AuditDisk) (setup : AuditSetup) : AuditFiles where
  file := disk.log
  mirror := if setup.mirrored then some disk.mirror else none
  table := if setup.tabled then some disk.table else none

/-- A disk on which some files have been written; the others are as they were. -/
def write (disk : AuditDisk) (files : AuditFiles) : AuditDisk where
  log := files.file
  mirror := files.mirror.getD disk.mirror
  table := files.table.getD disk.table

end AuditDisk

/-- Something that is done with a log. -/
inductive AuditStep where
  | append (e : AuditEntry)
  | reopen (setup : AuditSetup)

namespace AuditStep

/-- The entry that a step appends. -/
def appended? : AuditStep → Option AuditEntry
  | append e => some e
  | reopen _ => none

/-- Whether a step leaves the log with a mirror. -/
def isMirrored : AuditStep → Bool
  | append _ => true
  | reopen setup => setup.mirrored

end AuditStep

/-- A log in use, and the disk on which it was opened. -/
structure AuditSession where
  opened : AuditDisk
  log : AuditLog

namespace AuditSession

/-- Opens a log. -/
def start (disk : AuditDisk) (setup : AuditSetup) : Except FileFault AuditSession :=
  (AuditLog.openFiles (disk.files setup)).map fun log => { opened := disk, log }

/-- What is on disk. -/
def disk (s : AuditSession) : AuditDisk := s.opened.write s.log.files

/-- Takes a step. -/
def step (s : AuditSession) : AuditStep → Except FileFault AuditSession
  | .append e => .ok { s with log := s.log.append e }
  | .reopen setup => start s.disk setup

/-- Opens a log that has no file and no mirror yet, and takes steps. -/
def run (table : List AuditEntry) (setup : AuditSetup) (steps : List AuditStep) :
    Except FileFault AuditSession := do
  let s ← start { table } setup
  steps.foldlM step s

/-- A log that has written the chain of some entries and nothing else, that goes on with its last
hash and can be opened again; if it had a mirror each time it was opened, that holds the same. -/
structure Wrote (mirrored : Prop) (es : List AuditEntry) (s : AuditSession) : Prop where
  file : s.log.file = (write (AuditEntry.chain none es)).toUTF8
  lastHash : s.log.lastHash = hashAfter none (AuditEntry.chain none es)
  mirror : mirrored → s.log.mirror = some s.log.file
  spare : ∃ content, s.opened.mirror.openForAppend = .ok content

theorem start_eq {disk : AuditDisk} (setup : AuditSetup) {file content : ByteArray}
    (hfile : disk.log.openForAppend = .ok file)
    (hmirror : disk.mirror.openForAppend = .ok content) :
    start disk setup = .ok
      { opened := disk
        log :=
          { file
            mirror := if setup.mirrored then some content else none
            table := (disk.files setup).table
            lastHash := disk.log.readText.toOption.bind AuditLog.lastHashOf } } := by
  have hmirror' : (disk.files setup).mirror.mapM FileState.openForAppend =
      .ok (if setup.mirrored then some content else none) := by
    unfold AuditDisk.files
    cases setup.mirrored with
    | false => rfl
    | true => simp [hmirror, Functor.map, Except.map]
  rw [start, AuditLog.openFiles, hmirror']
  simp only [AuditDisk.files, hfile]
  rfl

variable {mirrored : Prop} {es : List AuditEntry} {s : AuditSession}

theorem wrote_start (table : List AuditEntry) {setup : AuditSetup}
    (hm : mirrored → setup.mirrored = true) :
    ∃ s, start { table } setup = .ok s ∧ Wrote mirrored [] s :=
  ⟨_, start_eq setup rfl rfl,
    { file := rfl
      lastHash := rfl
      mirror := fun m => if_pos (hm m)
      spare := ⟨_, rfl⟩ }⟩

theorem Wrote.append (h : Wrote mirrored es s) (e : AuditEntry) :
    Wrote mirrored (es ++ [e]) { s with log := s.log.append e } where
  file := by
    rw [AuditEntry.chain_append, write_append, ← h.lastHash, AuditEntry.chain_cons,
      AuditEntry.chain_nil, ← AuditLog.lineFor_eq]
    simp only [AuditLog.append, h.file]
    exact String.toByteArray_append.symm
  lastHash := by
    rw [AuditEntry.chain_append, ← h.lastHash, AuditEntry.chain_cons, AuditEntry.chain_nil,
      hashAfter_concat]
    rfl
  mirror := fun m => by simp only [AuditLog.append, h.mirror m, Option.map_some]
  spare := h.spare

/-- The mirror can be opened again, be it in use or not. -/
theorem Wrote.openForAppend_mirror (h : Wrote mirrored es s) :
    ∃ content, s.disk.mirror.openForAppend = .ok content ∧ (mirrored → content = s.log.file) := by
  cases hlog : s.log.mirror with
  | none =>
    -- The mirror was not in use, so it is the one from before.
    obtain ⟨content, hcontent⟩ := h.spare
    refine ⟨content, ?_, fun m => ?_⟩
    · simpa [disk, AuditDisk.write, AuditLog.files, hlog] using hcontent
    · cases hlog.symm.trans (h.mirror m)
  | some content =>
    refine ⟨content, ?_, fun m => Option.some.inj (hlog.symm.trans (h.mirror m))⟩
    simp [disk, AuditDisk.write, AuditLog.files, hlog, FileState.openForAppend]

theorem Wrote.reopen (h : Wrote mirrored es s) {setup : AuditSetup}
    (hm : mirrored → setup.mirrored = true) :
    ∃ s', start s.disk setup = .ok s' ∧ Wrote mirrored es s' := by
  obtain ⟨content, hcontent, hsame⟩ := h.openForAppend_mirror
  have hlog : s.disk.log = .file (write (AuditEntry.chain none es)).toUTF8 :=
    congrArg FileState.file h.file
  exact ⟨_, start_eq setup rfl hcontent,
    { file := h.file
      lastHash := by
        simp only [hlog, FileState.readText_file, Except.toOption, Option.bind_some,
          AuditLog.lastHashOf_write]
      mirror := fun m => by rw [hsame m, if_pos (hm m)]
      spare := ⟨content, hcontent⟩ }⟩

/-- One step writes the entry that it appends, if any. -/
theorem Wrote.step (h : Wrote mirrored es s) {a : AuditStep} (hm : mirrored → a.isMirrored = true) :
    ∃ s', s.step a = .ok s' ∧ Wrote mirrored (es ++ a.appended?.toList) s' := by
  cases a with
  | append e => exact ⟨_, rfl, h.append e⟩
  | reopen setup =>
    obtain ⟨s', hs, h'⟩ := h.reopen hm
    exact ⟨s', hs, by simpa [AuditStep.appended?] using h'⟩

theorem Wrote.foldlM {steps : List AuditStep} (h : Wrote mirrored es s)
    (hm : mirrored → ∀ a ∈ steps, a.isMirrored = true) :
    ∃ s', steps.foldlM AuditSession.step s = .ok s' ∧
      Wrote mirrored (es ++ steps.filterMap AuditStep.appended?) s' := by
  induction steps generalizing es s with
  | nil => exact ⟨s, rfl, by simpa using h⟩
  | cons a steps ih =>
    obtain ⟨t, ht, hw⟩ := h.step fun m => hm m a List.mem_cons_self
    obtain ⟨s', hs, hw'⟩ := ih hw fun m b hb => hm m b (List.mem_cons_of_mem a hb)
    refine ⟨s', ?_, ?_⟩
    · rw [List.foldlM_cons, ht]
      exact hs
    · cases ha : a.appended? <;> simpa [ha] using hw'

/-- A log that is opened for the first time and then used has written what was appended. -/
theorem wrote_run (table : List AuditEntry) {setup : AuditSetup} {steps : List AuditStep}
    (hsetup : mirrored → setup.mirrored = true)
    (hsteps : mirrored → ∀ a ∈ steps, a.isMirrored = true) :
    ∃ s, run table setup steps = .ok s ∧
      Wrote mirrored (steps.filterMap AuditStep.appended?) s := by
  obtain ⟨s₀, hs₀, hw₀⟩ := wrote_start table hsetup
  obtain ⟨s, hs, hw⟩ := hw₀.foldlM hsteps
  refine ⟨s, ?_, by simpa using hw⟩
  rw [run, hs₀]
  exact hs

/-- **A log is a chain of the entries that were appended, however often it is opened again.**  The
verifier counts them, the lines decode to them in their order, and the mirror, if there was one each
time that the log was opened, holds what the log holds. -/
theorem run_writes_chain (table : List AuditEntry) (setup : AuditSetup) (steps : List AuditStep) :
    ∃ s, run table setup steps = .ok s ∧
      verifyFile s.disk.log = .ok (steps.filterMap AuditStep.appended?).length ∧
      (∃ (content : String) (rs : List AuditRecord), s.disk.log.readText = .ok content ∧
        (Text.lines content).map AuditRecord.decoder.ofText = rs.map .ok ∧
        rs.map (·.entry) = steps.filterMap AuditStep.appended?) ∧
      (setup.mirrored = true → (∀ a ∈ steps, a.isMirrored = true) →
        s.disk.mirror = s.disk.log) := by
  obtain ⟨s, hs, hw⟩ : ∃ s, run table setup steps = .ok s ∧
      Wrote (setup.mirrored = true ∧ ∀ a ∈ steps, a.isMirrored = true)
        (steps.filterMap AuditStep.appended?) s :=
    wrote_run table (fun m => m.1) fun m => m.2
  generalize steps.filterMap AuditStep.appended? = es at hw ⊢
  have hlog : s.disk.log = .file (write (AuditEntry.chain none es)).toUTF8 :=
    congrArg FileState.file hw.file
  refine ⟨s, hs, ?_, ?_, ?_⟩
  · rw [hlog, verifyFile_text, verify_write (AuditEntry.linked_chain es), AuditEntry.length_chain]
  · rw [hlog, FileState.readText_file]
    exact ⟨_, _, rfl, map_ofText_lines_write _, AuditEntry.map_entry_chain es⟩
  · intro hsetup hsteps
    simp [disk, AuditDisk.write, AuditLog.files, hw.mirror ⟨hsetup, hsteps⟩]

end AuditSession
end Moderation
