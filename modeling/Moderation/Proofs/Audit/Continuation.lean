import Moderation.Proofs.Audit.Log
import Moderation.Proofs.Json.Beginning
import Moderation.Proofs.Json.Glued
/-!
# A log that goes on with what it finds

A log may be opened on any chain, also on one that another hand wrote.  The verifier takes more
texts for a chain than a log writes, and a log goes on rightly with some of them only: the line that
is open at the end may hold white space only, as no record can be read of a line that holds anything
else in front of it (`AuditRecord.ofText_append_render`), and the scan for the last hash has to find
the one that the verifier ends with (`AuditLog.Resumable`).  Of every other chain a log makes a text
that is none as soon as it appends an entry (`AuditLog.verifyFile_continued_iff`).  The scan finds
the hash where the last record is written as an object that can be read as a value
(`AuditLog.lastHashOf_of_object`).
-/

namespace Moderation
open AuditChain Json

/-! ## The scan for the last hash -/

namespace AuditRecord

/-- A record that is read from an object has the hash that a look at the object finds. -/
theorem hashOn_of_object {line : String} {r : AuditRecord} {ms : List (String × Json)}
    (hr : decoder.ofText line = .ok r) (hj : Json.parse? line = some (.object ms)) :
    AuditLog.hashOn line = some r.hash := by
  obtain ⟨hroot, -⟩ := Decoder.ofText_eq_ok.1 hr
  obtain ⟨members, hdraft, hvalues⟩ := Draft.value_eq_object (Json.value_of_parse? hj)
  rw [hdraft, decoder, Decoder.record_object_eq_ok] at hroot
  obtain ⟨hchecks, -, hbuild⟩ := hroot
  obtain ⟨v, hfind, hstring⟩ : ∃ v, findMember members "record_hash" = some v ∧
      Decoder.string v = .ok r.hash := by
    simp only [fields, Fields.build_seq_eq_ok, Fields.build_map_eq_ok,
      Fields.build_required_eq_ok] at hbuild
    obtain ⟨_, hash, ⟨_, _, ⟨_, _, ⟨_, _, ⟨_, _, ⟨_, _, ⟨_, _, ⟨_, _, ⟨_, _, ⟨_, _, ⟨_, _,
      ⟨_, -, rfl⟩, -, rfl⟩, -, rfl⟩, -, rfl⟩, -, rfl⟩, -, rfl⟩, -, rfl⟩, -, rfl⟩, -, rfl⟩, -, rfl⟩,
      -, rfl⟩, hhash, rfl⟩ := hbuild
    exact hhash
  obtain rfl := Decoder.string_eq_ok.1 hstring
  obtain ⟨j, hj', hget⟩ := get?_of_checkMembers hchecks hvalues (by rw [slots_fields]; decide) hfind
  obtain rfl : j = .string r.hash := by simpa [Draft.value, eq_comm] using hj'
  simp only [AuditLog.hashOn, hj, hget, bind, Option.bind, Json.string?]

end AuditRecord

namespace AuditLog

theorem hashOn_of_blank {line : String} (h : Text.isBlankText line = true) :
    hashOn line = none := by
  have hparse : Json.parse? line = none := by
    by_cases hspace : Json.IsSpacing line
    · have hempty := Json.Document.ofText_append hspace ""
      rw [String.append_empty] at hempty
      rw [Json.parse?, hempty]
      decide +kernel
    · have hbroken := Json.Document.ofText_of_blank h hspace ""
      rw [String.append_empty] at hbroken
      rw [Json.parse?, hbroken]
      rfl
  simp only [hashOn, hparse, bind, Option.bind]

/-- Blank lines do not count for the scan either. -/
theorem lastHashOf_eq (text : String) :
    lastHashOf text = (filledLines text).reverse.findSome? hashOn := by
  rw [lastHashOf, filledLines, ← List.filter_reverse]
  induction (Text.lines text).reverse with
  | nil => rfl
  | cons line rest ih =>
    cases hblank : Text.isBlankText line with
    | true =>
      rw [List.filter_cons_of_neg (by simp [hblank]), List.findSome?_cons, hashOn_of_blank hblank,
        ih]
    | false =>
      rw [List.filter_cons_of_pos (by simp [hblank]), List.findSome?_cons, List.findSome?_cons, ih]

/-- **The scan finds the hash of the last record if that is written as an object** which can be read
as a value. -/
theorem lastHashOf_of_object {text : String} {rs : List AuditRecord} (h : records text = .ok rs)
    (hobject : ∀ line ∈ (filledLines text).getLast?,
      ∃ ms, Json.parse? line = some (.object ms)) :
    lastHashOf text = hashAfter none rs := by
  have hlines := (records_eq_ok_iff.1 h).1
  rw [lastHashOf_eq]
  rcases List.eq_nil_or_concat' (filledLines text) with hnil | ⟨front, line, hconcat⟩
  · rw [hnil, List.map_nil, eq_comm, List.map_eq_nil_iff] at hlines
    rw [hnil, hlines]
    rfl
  · rw [hconcat] at hlines hobject
    obtain ⟨ms, hms⟩ := hobject line (by simp)
    rw [List.map_append, List.append_eq_map_iff] at hlines
    obtain ⟨rs₁, rs₂, rfl, -, hlast⟩ := hlines
    obtain ⟨r, rest, rfl, hr, hrest⟩ := List.map_eq_cons_iff.1 hlast
    obtain rfl := List.map_eq_nil_iff.1 hrest
    rw [hconcat, List.reverse_append, List.reverse_singleton, List.singleton_append,
      List.findSome?_cons, AuditRecord.hashOn_of_object hr.symm hms, hashAfter_concat]

/-- A chain that a log can go on with: the line that is open at its end, if there is one, holds
white space only, and the scan finds the hash of the last record. -/
structure Resumable (text : String) : Prop where
  spacing : Json.IsSpacing (Text.openLine text)
  lastHash : ∃ rs, records text = .ok rs ∧ lastHashOf text = hashAfter none rs

/-- **A log can go on with a chain whose last line is ended and whose last record is an object.** -/
theorem resumable_of_object {text : String} {rs : List AuditRecord} (h : records text = .ok rs)
    (hended : Text.Ended text)
    (hobject : ∀ line ∈ (filledLines text).getLast?, ∃ ms, Json.parse? line = some (.object ms)) :
    Resumable text where
  spacing := by
    rw [Text.openLine_of_ended hended]
    simp [IsSpacing]
  lastHash := ⟨rs, h, lastHashOf_of_object h hobject⟩

/-- Among these is every chain that a log writes. -/
theorem resumable_write {rs : List AuditRecord} (h : Linked none rs) :
    Resumable (AuditChain.write rs) := by
  refine resumable_of_object (records_write h) (Text.ended_unlines _) fun line hline => ?_
  rw [filledLines_write, lines_write] at hline
  obtain ⟨r, -, rfl⟩ := List.mem_map.1 (List.mem_of_getLast? hline)
  exact ⟨r.members, by rw [r.parse?_render, r.toJson_eq]⟩

end AuditLog

/-! ## A record on a line that is not empty -/

/-- An array that the text does not close is not read as a record. -/
theorem Json.checkItems_open (slots : List Slot) (items : List Draft)
    (members : List (Option String × Draft)) : checkItems slots items false ≠ .ok members := by
  intro h
  induction slots generalizing items members with
  | nil => cases items <;> cases h
  | cons slot slots ih =>
    cases items with
    | nil => cases h
    | cons item items =>
      unfold checkItems at h
      split at h
      · cases h
      · split at h
        · cases h
        · next hrest => exact ih items _ hrest

namespace AuditRecord

/-- What is read as a record is an object or an array that the text closes. -/
theorem not_isUnclosed_of_decoder {root : Draft} {r : AuditRecord} (h : decoder root = .ok r) :
    ¬root.IsUnclosed := by
  intro hroot
  cases root with
  | object members closed =>
    obtain rfl : closed = false := hroot
    rw [decoder, Decoder.record_object_eq_ok] at h
    exact absurd h.2.1 Bool.false_ne_true
  | array items closed =>
    obtain rfl : closed = false := hroot
    simp only [decoder, Decoder.record] at h
    cases hitems : checkItems fields.slots items false with
    | error e =>
      rw [hitems] at h
      cases h
    | ok members => exact checkItems_open _ _ _ hitems
  | _ => cases h

/-- What stands after the first quotation mark of a record. -/
theorem exists_glued (r : AuditRecord) :
    ∃ tail, r.toJson.chars = glued [] tail ∧ IsStuck tail :=
  ⟨_, rfl, 'a', _, rfl, rfl, by decide⟩

/-- **A record cannot be read of a line that it is appended to**, unless only white space is
there. -/
theorem ofText_append_render {front : String} (hfront : ¬IsSpacing front) (r q : AuditRecord) :
    decoder.ofText (front ++ r.toJson.render) ≠ .ok q := by
  intro h
  obtain ⟨tail, hchars, htail⟩ := r.exists_glued
  obtain ⟨hroot, htrailing⟩ := Decoder.ofText_eq_ok.1 h
  have hunfit := Document.ofText_append_object htail r.toJson_isExact hchars hfront
  exact not_isUnclosed_of_decoder hroot (hunfit htrailing)

end AuditRecord

namespace AuditLog

/-! ## What becomes of the line that is open -/

theorem filledLines_eq (text : String) :
    filledLines text = filledLines (Text.endedPart text) ++
      if Text.isBlankText (Text.openLine text) then [] else [Text.openLine text] := by
  rw [filledLines, Text.lines_eq, List.filter_append, filledLines]
  by_cases hempty : Text.openLine text = ""
  · rw [if_pos hempty, hempty]
    rfl
  · rw [if_neg hempty]
    cases hblank : Text.isBlankText (Text.openLine text) <;> simp [hblank]

/-- The first record that is appended goes on with the line that is open. -/
theorem lines_continued (text : String) (r : AuditRecord) (rs : List AuditRecord) :
    Text.lines (text ++ AuditChain.write (r :: rs)) = Text.lines (Text.endedPart text) ++
      (Text.openLine text ++ r.toJson.render) :: rs.map fun r => r.toJson.render := by
  rw [AuditChain.write, List.map_cons]
  refine Text.lines_append_unlines text r.isLine_render r.render_ne_empty fun line hline => ?_
  obtain ⟨q, -, rfl⟩ := List.mem_map.1 hline
  exact q.isLine_render

theorem filledLines_continued (text : String) (r : AuditRecord) (rs : List AuditRecord) :
    filledLines (text ++ AuditChain.write (r :: rs)) =
      filledLines (Text.endedPart text) ++
        (Text.openLine text ++ r.toJson.render) :: rs.map fun r => r.toJson.render := by
  rw [filledLines, lines_continued, List.filter_append, filledLines]
  refine congrArg (List.filter _ (Text.lines (Text.endedPart text)) ++ ·)
    (List.filter_eq_self.2 fun line hline => ?_)
  rcases List.mem_cons.1 hline with rfl | hline
  · simp [r.not_blank_append]
  · obtain ⟨q, -, rfl⟩ := List.mem_map.1 hline
    simpa using q.not_blank_append ""

/-- White space on the line that is open does not show in the record that is appended to it. -/
theorem map_ofText_continued {text : String} (hspace : IsSpacing (Text.openLine text))
    (r : AuditRecord) (qs : List AuditRecord) :
    (filledLines (text ++ AuditChain.write (r :: qs))).map AuditRecord.decoder.ofText =
      (filledLines text).map AuditRecord.decoder.ofText ++ (r :: qs).map .ok := by
  have hended : filledLines (Text.endedPart text) = filledLines text := by
    rw [filledLines_eq text, if_pos hspace.isBlankText, List.append_nil]
  have hrest : qs.map (AuditRecord.decoder.ofText ∘ fun q => q.toJson.render) = qs.map .ok :=
    List.map_congr_left fun q _ => q.ofText_render
  rw [filledLines_continued, hended, List.map_append, List.map_cons, List.map_cons,
    Decoder.ofText_append _ hspace, r.ofText_render, List.map_map, hrest]

/-- Where a record can be read of every line, the line that was open held white space only. -/
theorem isSpacing_of_continued {text : String} {r : AuditRecord} {qs ss : List AuditRecord}
    (h : (filledLines (text ++ AuditChain.write (r :: qs))).map AuditRecord.decoder.ofText =
      ss.map .ok) : IsSpacing (Text.openLine text) := by
  have hmem : Text.openLine text ++ r.toJson.render ∈
      filledLines (text ++ AuditChain.write (r :: qs)) := by
    rw [filledLines_continued]
    simp
  have hread := List.mem_map_of_mem (f := AuditRecord.decoder.ofText) hmem
  rw [h, List.mem_map] at hread
  obtain ⟨s, -, hs⟩ := hread
  by_contra hfilled
  exact AuditRecord.ofText_append_render hfilled r s hs.symm

/-- **What the verifier makes of records that are written after a text**: the line that is open
there, if there is one, has to hold white space only, the text has to be a chain, and the records
have to be linked to its end. -/
theorem records_append_eq_ok {text : String} {r : AuditRecord} {qs ss : List AuditRecord} :
    records (text ++ AuditChain.write (r :: qs)) = .ok ss ↔
      IsSpacing (Text.openLine text) ∧ ∃ rs, records text = .ok rs ∧
        Linked (hashAfter none rs) (r :: qs) ∧ ss = rs ++ r :: qs := by
  constructor
  · intro h
    obtain ⟨hlines, hlinked⟩ := records_eq_ok_iff.1 h
    have hspace := isSpacing_of_continued hlines
    rw [map_ofText_continued hspace, List.append_eq_map_iff] at hlines
    obtain ⟨rs, new, rfl, hold, hnew⟩ := hlines
    obtain rfl : new = r :: qs := List.map_injective_iff.2 (fun _ _ => Except.ok.inj) hnew
    obtain ⟨hfront, hback⟩ := linked_append.1 hlinked
    exact ⟨hspace, rs, records_eq_ok_iff.2 ⟨hold.symm, hfront⟩, hback, rfl⟩
  · rintro ⟨hspace, rs, h, hback, rfl⟩
    obtain ⟨hlines, hfront⟩ := records_eq_ok_iff.1 h
    refine records_eq_ok_iff.2 ⟨?_, linked_append.2 ⟨hfront, hback⟩⟩
    rw [map_ofText_continued hspace, hlines, List.map_append]

/-- **Records that are written after a chain make a chain with it exactly if they are linked to
its end and the line that is open there, if there is one, holds white space only.** -/
theorem records_continued_iff {text : String} {rs : List AuditRecord} (h : records text = .ok rs)
    (r : AuditRecord) (qs : List AuditRecord) :
    (∃ ss, records (text ++ AuditChain.write (r :: qs)) = .ok ss ∧
        ss.length = rs.length + (qs.length + 1)) ↔
      IsSpacing (Text.openLine text) ∧ Linked (hashAfter none rs) (r :: qs) := by
  constructor
  · rintro ⟨ss, hss, -⟩
    obtain ⟨hspace, rs', hrs', hback, -⟩ := records_append_eq_ok.1 hss
    obtain rfl : rs = rs' := Except.ok.inj (h.symm.trans hrs')
    exact ⟨hspace, hback⟩
  · rintro ⟨hspace, hback⟩
    exact ⟨_, records_append_eq_ok.2 ⟨hspace, rs, h, hback, rfl⟩, by simp⟩

/-- The chain that entries make is linked to a hash exactly if it was begun with that hash. -/
theorem linked_chain_iff {previous last : Option String} (e : AuditEntry) (es : List AuditEntry) :
    Linked previous (AuditEntry.chain last (e :: es)) ↔ last = previous := by
  constructor
  · intro h
    exact (AuditEntry.previous_link e last).symm.trans h.1
  · rintro rfl
    exact AuditEntry.linked_chain (e :: es)

theorem openFiles_text (text : String) (mirror : Option ByteArray)
    (table : Option (List AuditEntry)) :
    openFiles { file := .file text.toUTF8, mirror := mirror.map .file, table } =
      .ok { file := text.toUTF8, mirror, table, lastHash := lastHashOf text } := by
  have hmirror : (mirror.map FileState.file).mapM FileState.openForAppend = .ok mirror := by
    cases mirror <;> rfl
  rw [openFiles, hmirror, FileState.readText_file]
  rfl

theorem verifyFile_foldl_append (text : String) (mirror : Option ByteArray)
    (table : Option (List AuditEntry)) (es : List AuditEntry) :
    verifyFile (es.foldl append
        { file := text.toUTF8, mirror, table, lastHash := lastHashOf text }).files.file =
      verify (text ++ AuditChain.write (AuditEntry.chain (lastHashOf text) es)) := by
  have hfile : (es.foldl append
        { file := text.toUTF8, mirror, table, lastHash := lastHashOf text }).files.file =
      .file (text ++ AuditChain.write (AuditEntry.chain (lastHashOf text) es)).toUTF8 := by
    rw [foldl_append]
    exact congrArg FileState.file String.toByteArray_append.symm
  rw [hfile, verifyFile_text]

/-- **A log that is opened on a chain of `n` records and appends entries leaves a chain of so many
more exactly if it can go on with that chain**, unless it appends nothing. -/
theorem verifyFile_continued_iff {text : String} {n : Nat}
    (h : verifyFile (.file text.toUTF8) = .ok n) (mirror : Option ByteArray)
    (table : Option (List AuditEntry)) :
    ∃ log, openFiles { file := .file text.toUTF8, mirror := mirror.map .file, table } = .ok log ∧
      ∀ es : List AuditEntry,
        verifyFile (es.foldl append log).files.file = .ok (n + es.length) ↔
          es = [] ∨ Resumable text := by
  obtain ⟨rs, hrs, rfl⟩ : ∃ rs, records text = .ok rs ∧ rs.length = n := by
    rw [verifyFile_text] at h
    exact verify_eq_ok_iff.1 h
  refine ⟨_, openFiles_text text mirror table, fun es => ?_⟩
  rw [verifyFile_foldl_append]
  cases es with
  | nil =>
    rw [verifyFile_text] at h
    simpa [AuditChain.write, Text.unlines] using h
  | cons e es =>
    have hcontinued := records_continued_iff hrs (e.link (lastHashOf text))
      (AuditEntry.chain (some (e.link (lastHashOf text)).hash) es)
    rw [AuditEntry.length_chain, ← AuditEntry.chain_cons, linked_chain_iff] at hcontinued
    refine verify_eq_ok_iff.trans (hcontinued.trans ?_)
    constructor
    · rintro ⟨hspace, hlast⟩
      exact .inr ⟨hspace, rs, hrs, hlast⟩
    · rintro (hnil | ⟨hspace, rs', hrs', hlast⟩)
      · cases hnil
      · obtain rfl : rs = rs' := Except.ok.inj (hrs.symm.trans hrs')
        exact ⟨hspace, hlast⟩

/-- A log goes on with the chain of a ban and a kick. -/
theorem verifyFile_continued_banThenKick :
    ∃ log,
      openFiles { file := .file (AuditChain.write (AuditEntry.chain none banThenKick)).toUTF8 } =
        .ok log ∧
      verifyFile (banThenKick.foldl append log).files.file = .ok 4 := by
  have hlinked : Linked none (AuditEntry.chain none banThenKick) := AuditEntry.linked_chain _
  have htwo : verifyFile (.file (AuditChain.write (AuditEntry.chain none banThenKick)).toUTF8) =
      .ok 2 := by
    rw [verifyFile_text, verify_write hlinked, AuditEntry.length_chain]
    rfl
  obtain ⟨log, hopen, hlog⟩ := verifyFile_continued_iff htwo none none
  exact ⟨log, hopen, (hlog banThenKick).2 (.inr (resumable_write hlinked))⟩

/-! ### A line that is not ended -/

/-- A record whose line is not ended is a chain. -/
theorem records_render {r : AuditRecord} (h : Linked none [r]) :
    records r.toJson.render = .ok [r] := by
  have hlines : filledLines r.toJson.render = [r.toJson.render] := by
    rw [filledLines, Text.lines_of_open r.isLine_render.noFeed r.render_ne_empty]
    simpa using r.not_blank_append ""
  rw [records_eq_ok_iff, hlines, List.map_singleton, r.ofText_render]
  exact ⟨rfl, h⟩

/-- Two records on one line cannot be read. -/
theorem ofText_render_render (r q : AuditRecord) :
    AuditRecord.decoder.ofText (r.toJson.render ++ q.toJson.render) = .error .malformed := by
  have hend : EndsNumeral q.toJson.render.toList := by
    rw [q.toList_render]
    exact endsNumeral_cons (by decide) (by decide) _
  have hfilled : ¬IsSpacing q.toJson.render := fun hspace => by
    simpa [hspace.isBlankText] using q.not_blank_append ""
  rw [Decoder.ofText, Document.ofText_render_append _ r.toJson_isExact hend hfilled,
    r.decoder_toDraft]
  rfl

/-- **A log that is opened on a line which is not ended writes its first record on that line**,
and the verifier reads neither. -/
theorem verify_render_write (r q : AuditRecord) (qs : List AuditRecord) :
    verify (r.toJson.render ++ AuditChain.write (q :: qs)) = .error (.noRecord 1) := by
  have hfeed := r.isLine_render.noFeed
  have hrecord : recordOn 1 none (r.toJson.render ++ q.toJson.render) = .error (.noRecord 1) := by
    simp only [recordOn, ofText_render_render]
  rw [verify, records, lines_continued, Text.endedPart_of_open hfeed, Text.openLine_of_open hfeed]
  change (recordsOn 1 none ((r.toJson.render ++ q.toJson.render) :: _)).map List.length = _
  rw [recordsOn, if_neg (by simp [q.not_blank_append]), hrecord]
  rfl

/-- The line of a ban, without the line feed that would end it. -/
def unendedBan : String :=
  "\x7b\"audit_id\":\"a\",\"action\":\"ban\",\"result\":\"ok\",\"actor\":\"@m:x\"," ++
    "\"entity\":\"@u:x\",\"ts\":\"t\",\"record_hash\":" ++
    "\"c568ed4e8d610436c7c6b20f56b217fe53736dc4988aa6b2340d6300625c2e56\"\x7d"

/-- A log that is opened on the line of a ban which is not ended, a chain of one record, leaves no
chain once it appends a kick. -/
theorem append_to_unendedBan :
    verifyFile (.file unendedBan.toUTF8) = .ok 1 ∧
      ∃ log, openFiles { file := .file unendedBan.toUTF8 } = .ok log ∧
        verifyFile (log.append banThenKick[1]).files.file = .error (.noRecord 1) := by
  have hban : banThenKick[0].link none =
      { entry := banThenKick[0]
        previous := none
        hash := "c568ed4e8d610436c7c6b20f56b217fe53736dc4988aa6b2340d6300625c2e56" } := by
    rw [← hash_ban]
    rfl
  have hrender : unendedBan = (banThenKick[0].link none).toJson.render := by
    rw [hban]
    decide +kernel
  have hrecords :
      records (banThenKick[0].link none).toJson.render = .ok [banThenKick[0].link none] :=
    records_render (AuditEntry.linked_chain [banThenKick[0]])
  rw [hrender]
  refine ⟨?_, _, openFiles_text _ none none, ?_⟩
  · rw [verifyFile_text]
    exact verify_eq_ok_iff.2 ⟨_, hrecords, rfl⟩
  · exact (verifyFile_foldl_append _ none none [banThenKick[1]]).trans (verify_render_write _ _ _)

end AuditLog
end Moderation
